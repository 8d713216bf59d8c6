import Steward.Assembly.Stream

/-! A reader is a cursor over bytes that do not change. What it answers, and where it is left, is
told by the bytes and its position alone; and however the sizes of reads are chosen, together they
give what stands behind the position. -/

set_option autoImplicit false

namespace Steward.Assembly

/-- A reader that is opened on bytes, which are held in memory or in a file. -/
inductive Opens (data : List UInt8) : Stream → Prop where
  | memory : Opens data ⟨data, 0⟩
  | file {files : String → Option (List UInt8)} {path : String} {stream : Stream} :
      files path = some data → openFile files path = .ok stream → Opens data stream

inductive Ask where
  | read (count : Nat)
  | seek (move : Seek)

inductive Reply where
  | bytes (bytes : List UInt8)
  | landed (position : Nat)
  | failed (fault : StreamFault)
  deriving DecidableEq

/-- The place that a move is to lead to, as an integer. -/
def Seek.sum (size position : Nat) : Seek → Int
  | .start offset => offset
  | .current delta => position + delta
  | .fromEnd delta => size + delta

/-- An offset from the start is a word. -/
def Ask.Fits : Ask → Prop
  | .seek (.start offset) => offset ≤ Word.top
  | _ => True

/-- What is answered over bytes at a position, and the position behind the answer. -/
inductive Answers (data : List UInt8) : Nat → Ask → Reply → Nat → Prop where
  | bytes {position count : Nat} {bytes : List UInt8} :
      bytes = data.extract position (min (position + count) data.length) →
      Answers data position (.read count) (.bytes bytes) (position + bytes.length)
  | landed {position target : Nat} {move : Seek} :
      move.sum data.length position = target → target ≤ Word.top →
      Answers data position (.seek move) (.landed target) target
  | failed {position : Nat} {move : Seek} :
      (move.sum data.length position < 0 ∨ Word.top < move.sum data.length position) →
      Answers data position (.seek move) (.failed .seekBeforeStart) position

/-- The answers to a sequence, each at the position that the one before left. -/
inductive AnswersAll (data : List UInt8) : Nat → List Ask → List Reply → Nat → Prop where
  | done {position : Nat} : AnswersAll data position [] [] position
  | next {position between last : Nat} {ask : Ask} {asks : List Ask} {reply : Reply}
      {replies : List Reply} : Answers data position ask reply between →
      AnswersAll data between asks replies last →
      AnswersAll data position (ask :: asks) (reply :: replies) last

namespace Stream

/-- Do what is asked. A move that fails leaves the reader as it was. -/
def perform (stream : Stream) : Ask → Reply × Stream
  | .read count => (.bytes (stream.read count).1, (stream.read count).2)
  | .seek move =>
      match stream.seek move with
      | .ok moved => (.landed moved.position, moved)
      | .error fault => (.failed fault, stream)

def performAll (stream : Stream) : List Ask → List Reply × Stream
  | [] => ([], stream)
  | ask :: asks =>
      let (reply, moved) := stream.perform ask
      let (replies, last) := moved.performAll asks
      (reply :: replies, last)

/-- What reads of some sizes give, one after the other. -/
def reads (stream : Stream) : List Nat → List (List UInt8)
  | [] => []
  | count :: counts => (stream.read count).1 :: (stream.read count).2.reads counts

/-! ### One step -/

theorem read_eq_extract (stream : Stream) (count : Nat) :
    (stream.read count).1 =
      stream.data.extract stream.position
        (min (stream.position + count) stream.data.length) := by
  have room : min (stream.position + count) stream.data.length - stream.position =
      min count (stream.data.drop stream.position).length := by
    rw [List.length_drop]
    omega
  rw [List.extract_eq_take_drop, room, ← List.take_eq_take_min]
  rfl

theorem target?_eq_some_iff (stream : Stream) {move : Seek} (fits : Ask.Fits (.seek move))
    {target : Nat} :
    stream.target? move = some target ↔
      move.sum stream.data.length stream.position = target ∧ target ≤ Word.top := by
  cases move with
  | start offset =>
    have fits : offset ≤ Word.top := fits
    simp only [target?, Seek.sum, Option.some.injEq, Int.natCast_inj]
    constructor
    · rintro rfl
      exact ⟨rfl, fits⟩
    · exact And.left
  | current delta => exact Word.offset?_eq_some_iff
  | fromEnd delta => exact Word.offset?_eq_some_iff

theorem perform_data (stream : Stream) (ask : Ask) :
    (stream.perform ask).2.data = stream.data := by
  cases ask with
  | read count => rfl
  | seek move => cases found : stream.target? move <;> simp [perform, seek, found]

theorem perform_answers (stream : Stream) {ask : Ask} (fits : ask.Fits) :
    Answers stream.data stream.position ask (stream.perform ask).1
      (stream.perform ask).2.position := by
  cases ask with
  | read count => exact .bytes (stream.read_eq_extract count)
  | seek move =>
    -- The sum decides: within the words it is where the reader lands.
    by_cases within : 0 ≤ move.sum stream.data.length stream.position ∧
        move.sum stream.data.length stream.position ≤ Word.top
    · obtain ⟨target, lands⟩ := Int.eq_ofNat_of_zero_le within.1
      have word : target ≤ Word.top := by omega
      have found := (stream.target?_eq_some_iff fits).2 ⟨lands, word⟩
      simp only [perform, seek, found]
      exact .landed lands word
    · have missed : stream.target? move = none := by
        cases found : stream.target? move with
        | none => rfl
        | some target =>
          have lands := (stream.target?_eq_some_iff fits).1 found
          exact absurd ⟨by omega, by omega⟩ within
      simp only [perform, seek, missed]
      exact .failed (by omega)

/-! ### Sequences -/

theorem performAll_answers (stream : Stream) {asks : List Ask} (fits : ∀ ask ∈ asks, ask.Fits) :
    AnswersAll stream.data stream.position asks (stream.performAll asks).1
      (stream.performAll asks).2.position := by
  induction asks generalizing stream with
  | nil => exact .done
  | cons ask asks ih =>
    obtain ⟨first, later⟩ := List.forall_mem_cons.1 fits
    have rest := ih (stream.perform ask).2 later
    rw [perform_data] at rest
    exact .next (stream.perform_answers first) rest

theorem performAll_data (stream : Stream) (asks : List Ask) :
    (stream.performAll asks).2.data = stream.data := by
  induction asks generalizing stream with
  | nil => rfl
  | cons ask asks ih => exact (ih _).trans (stream.perform_data ask)

theorem rest_read (stream : Stream) (count : Nat) :
    (stream.read count).2.rest = stream.rest.drop count := by
  have moved : (stream.read count).2.rest =
      stream.rest.drop (min count stream.rest.length) := by
    simp [rest, read, List.drop_drop]
  rw [moved]
  rcases Nat.le_total count stream.rest.length with within | past
  · rw [Nat.min_eq_left within]
  · rw [Nat.min_eq_right past, List.drop_length, List.drop_eq_nil_of_le past]

/-- Reads that each ask for something come to the end. -/
theorem nil_mem_reads (stream : Stream) {counts : List Nat}
    (positive : ∀ count ∈ counts, 0 < count) (enough : stream.rest.length < counts.length) :
    [] ∈ stream.reads counts := by
  induction counts generalizing stream with
  | nil => contradiction
  | cons count counts ih =>
    obtain ⟨some, later⟩ := List.forall_mem_cons.1 positive
    by_cases ended : stream.rest = []
    · have empty : (stream.read count).1 = [] := by simp [read, ended]
      simp [reads, empty]
    · have left : 0 < stream.rest.length := List.length_pos_iff.2 ended
      refine List.mem_cons_of_mem _ (ih _ later ?_)
      rw [rest_read, List.length_drop]
      rw [List.length_cons] at enough
      omega

/-- What reads give before the first one that gives nothing is all that was left. -/
theorem flatten_takeWhile_reads (stream : Stream) {counts : List Nat}
    (positive : ∀ count ∈ counts, 0 < count) (ended : [] ∈ stream.reads counts) :
    ((stream.reads counts).takeWhile (· ≠ [])).flatten = stream.rest := by
  induction counts generalizing stream with
  | nil => contradiction
  | cons count counts ih =>
    obtain ⟨some, later⟩ := List.forall_mem_cons.1 positive
    have bytes : (stream.read count).1 = stream.rest.take count := rfl
    rw [reads, List.mem_cons] at ended
    -- Only where nothing is left does a read that asks for something give nothing.
    by_cases left : stream.rest = []
    · simp [reads, bytes, left]
    · have filled : stream.rest.take count ≠ [] := by
        simp [left, Nat.ne_of_gt some]
      have rest := ih (stream.read count).2 later
        (ended.resolve_left fun none => filled (bytes ▸ none.symm))
      rw [reads, bytes, List.takeWhile_cons_of_pos (by simpa using filled), List.flatten_cons,
        rest, rest_read, List.take_append_drop]

end Stream

theorem Opens.eq {data : List UInt8} {stream : Stream} (opens : Opens data stream) :
    stream = ⟨data, 0⟩ := by
  cases opens with
  | memory => rfl
  | file holds opened =>
    rw [openFile, holds] at opened
    exact (Except.ok.inj opened).symm

/-- Behind any reads and moves, each of which was answered by the bytes and the position alone, a
reader still has the bytes that it was opened on. Reads that each ask for something then come to an
end, and what they give up to there is what stands behind the position. -/
theorem stream_is_cursor {data : List UInt8} {stream : Stream} (opens : Opens data stream)
    {asks : List Ask} (fits : ∀ ask ∈ asks, ask.Fits) :
    let after := (stream.performAll asks).2
    AnswersAll data 0 asks (stream.performAll asks).1 after.position ∧
    after.data = data ∧
    ∀ counts : List Nat, (∀ count ∈ counts, 0 < count) →
      (data.length - after.position < counts.length → [] ∈ after.reads counts) ∧
      ([] ∈ after.reads counts →
        ((after.reads counts).takeWhile (· ≠ [])).flatten = data.drop after.position) := by
  intro after
  have same := opens.eq
  subst same
  have kept : after.data = data := Stream.performAll_data ⟨data, 0⟩ asks
  have left : after.rest = data.drop after.position := by rw [Stream.rest, kept]
  refine ⟨Stream.performAll_answers ⟨data, 0⟩ fits, kept, fun counts positive => ⟨?_, ?_⟩⟩
  · intro enough
    refine after.nil_mem_reads positive ?_
    rwa [left, List.length_drop]
  · intro ended
    rw [after.flatten_takeWhile_reads positive ended, left]

/-- A file of ten bytes, read behind a move from its end, one that misses, and one past the end. -/
theorem stream_is_cursor_movedReader :
    let data : List UInt8 := [48, 49, 50, 51, 52, 53, 54, 55, 56, 57]
    let asks : List Ask := [.read 4, .seek (.fromEnd (-2)), .read 7, .seek (.current (-11)),
      .seek (.start Word.top), .read 1, .seek (.current 1), .seek (.fromEnd (-7))]
    openFile (fun _ => some data) "image" = .ok ⟨data, 0⟩ ∧
    (∀ ask ∈ asks, ask.Fits) ∧
    AnswersAll data 0 asks [.bytes [48, 49, 50, 51], .landed 8, .bytes [56, 57],
      .failed .seekBeforeStart, .landed Word.top, .bytes [], .failed .seekBeforeStart,
      .landed 3] 3 ∧
    (((⟨data, 3⟩ : Stream).reads [2, 3, 9, 1]).takeWhile (· ≠ [])).flatten = data.drop 3 := by
  intro data asks
  have opened : openFile (fun _ => some data) "image" = .ok ⟨data, 0⟩ := rfl
  have fits : ∀ ask ∈ asks, ask.Fits := by simp [asks, Ask.Fits]
  have performed : (⟨data, 0⟩ : Stream).performAll asks =
      ([.bytes [48, 49, 50, 51], .landed 8, .bytes [56, 57], .failed .seekBeforeStart,
        .landed Word.top, .bytes [], .failed .seekBeforeStart, .landed 3], ⟨data, 3⟩) := by
    decide
  obtain ⟨answers, -, series⟩ := stream_is_cursor (.file rfl opened) fits
  rw [performed] at answers series
  exact ⟨opened, fits, answers, (series [2, 3, 9, 1] (by decide)).2 (by decide)⟩

end Steward.Assembly
