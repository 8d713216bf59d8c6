import Mathlib.Data.List.Basic
import Steward.Trace.Collector

/-! What threads hold by the history of what a lock trace was told: their acquisitions since tracing
was last switched off, without those that a release cancelled. One notice more takes away the last
occurrence of a lock, or puts a lock behind the others. -/

set_option autoImplicit false

namespace Steward.Trace

/-- What a collector can be told or asked to do. -/
inductive Notice where
  | acquired (thread : ThreadId) (cookie : Cookie)
  | released (thread : ThreadId) (cookie : Cookie)
  | switched (enabled : Bool)
  | deadlock (report : Deadlock.Report)
  | flushed
  | taken
  deriving DecidableEq

/-- The notice has nothing to say about what threads hold. -/
def Notice.isAside : Notice → Bool
  | acquired .. | released .. | switched false => false
  | _ => true

namespace Collector

def heed (collector : Collector) : Notice → Collector
  | .acquired thread cookie => collector.onAcquired thread cookie
  | .released thread cookie => collector.onReleased thread cookie
  | .switched enabled => collector.setEnabled enabled
  | .deadlock report => collector.onDeadlock report
  | .flushed => collector.flush
  | .taken => collector.take.2

def heedAll (collector : Collector) (notices : List Notice) : Collector :=
  notices.foldl heed collector

theorem heedAll_take_succ (collector : Collector) {notices : List Notice} {count : Nat}
    {notice : Notice} (next : notices[count]? = some notice) :
    collector.heedAll (notices.take (count + 1)) =
      (collector.heedAll (notices.take count)).heed notice := by
  simp [heedAll, List.take_add_one, next]

end Collector

/-! ### The history -/

/-- The last number below a bound that passes a test. -/
def latest? (test : Nat → Bool) : Nat → Option Nat
  | 0 => none
  | bound + 1 => if test bound then some bound else latest? test bound

theorem latest?_eq_some {test : Nat → Bool} {bound place : Nat}
    (found : latest? test bound = some place) :
    place < bound ∧ test place = true ∧
      ∀ later, place < later → later < bound → test later = false := by
  induction bound with
  | zero => cases found
  | succ bound ih =>
    rw [latest?] at found
    split at found
    · next passes =>
      cases found
      exact ⟨Nat.lt_succ_self _, passes, fun later after before => by omega⟩
    · next fails =>
      obtain ⟨below, passes, last⟩ := ih found
      refine ⟨Nat.lt_succ_of_lt below, passes, fun later after before => ?_⟩
      rcases Nat.lt_or_eq_of_le (Nat.le_of_lt_succ before) with within | rfl
      · exact last later after within
      · exact Bool.eq_false_iff.2 fails

theorem latest?_eq_none {test : Nat → Bool} {bound place : Nat}
    (none : latest? test bound = none) (below : place < bound) : test place = false := by
  induction bound with
  | zero => cases below
  | succ bound ih =>
    rw [latest?] at none
    split at none
    · cases none
    · next fails =>
      rcases Nat.lt_or_eq_of_le (Nat.le_of_lt_succ below) with within | rfl
      · exact ih none within
      · exact Bool.eq_false_iff.2 fails

section

variable (on : Bool) (notices : List Notice)

/-- Tracing is on behind the first notices, if that is how it was switched last. -/
def isOn : Nat → Bool
  | 0 => on
  | count + 1 =>
      match notices[count]? with
      | some (.switched enabled) => enabled
      | _ => isOn count

/-- The notice at a place, if tracing was on. -/
def recorded? (place : Nat) : Option Notice :=
  if isOn on notices place then notices[place]? else none

/-- The thread acquired the lock at that place, which is not one of those that are gone. -/
def isLeft (gone : List Nat) (thread : ThreadId) (cookie : Cookie) (place : Nat) : Bool :=
  recorded? on notices place = some (.acquired thread cookie) && decide (place ∉ gone)

/-- The acquisition that is cancelled at a place, where some are already gone. A recorded release
cancels the latest one of its thread and lock that is left. -/
def cancels (gone : List Nat) (place : Nat) : Option Nat :=
  match recorded? on notices place with
  | some (.released thread cookie) => latest? (isLeft on notices gone thread cookie) place
  | _ => none

/-- The acquisitions that were cancelled among the first notices. -/
def cancelled : Nat → List Nat
  | 0 => []
  | count + 1 => (cancels on notices (cancelled count) count).toList ++ cancelled count

/-- Tracing was switched off at or behind a place, among the first notices. -/
def switchedOff (place count : Nat) : Bool :=
  (List.range count).any fun later => place ≤ later && notices[later]? = some (.switched false)

/-- The lock that a thread acquired at a place, if that was recorded. -/
def lockAt? (thread : ThreadId) (place : Nat) : Option Cookie :=
  match recorded? on notices place with
  | some (.acquired other cookie) => if other = thread then some cookie else none
  | _ => none

/-- The places that were neither cancelled nor forgotten. -/
def standing (count : Nat) : List Nat :=
  (List.range count).filter fun place =>
    decide (place ∉ cancelled on notices count) && !switchedOff notices place count

/-- The locks that a thread acquired among the first notices and neither gave back nor forgot, in
the order of their acquisition. -/
def heldAfter (count : Nat) (thread : ThreadId) : List Cookie :=
  (standing on notices count).filterMap (lockAt? on notices thread)

end

section

variable {on : Bool} {notices : List Notice} {count place : Nat} {thread : ThreadId}
  {cookie : Cookie}

/-! ### One notice more -/

theorem isOn_succ {notice : Notice} (next : notices[count]? = some notice)
    (other : ∀ enabled, notice ≠ .switched enabled) :
    isOn on notices (count + 1) = isOn on notices count := by
  rw [isOn, next]
  cases notice with
  | switched enabled => exact absurd rfl (other enabled)
  | _ => rfl

theorem lt_of_cancels {gone : List Nat} (found : cancels on notices gone count = some place) :
    place < count := by
  unfold cancels at found
  split at found
  · exact (latest?_eq_some found).1
  · cases found

theorem lt_of_mem_cancelled (inside : place ∈ cancelled on notices count) : place < count := by
  induction count with
  | zero => cases inside
  | succ count ih =>
    rcases List.mem_append.1 inside with new | old
    · exact Nat.lt_succ_of_lt (lt_of_cancels (Option.mem_toList.1 new))
    · exact Nat.lt_succ_of_lt (ih old)

theorem switchedOff_iff : switchedOff notices place count = true ↔
    ∃ later < count, place ≤ later ∧ notices[later]? = some (.switched false) := by
  simp [switchedOff]

theorem standing_ascending (on : Bool) (notices : List Notice) (count : Nat) :
    (standing on notices count).Pairwise (· < ·) :=
  List.pairwise_lt_range.filter _

theorem mem_standing : place ∈ standing on notices count ↔ place < count ∧
    place ∉ cancelled on notices count ∧ switchedOff notices place count = false := by
  simp [standing]

theorem standing_succ_of_off (off : notices[count]? = some (.switched false)) :
    standing on notices (count + 1) = [] := by
  rw [List.eq_nil_iff_forall_not_mem]
  intro place inside
  obtain ⟨below, _, tracing⟩ := mem_standing.1 inside
  have forgotten : switchedOff notices place (count + 1) = true :=
    switchedOff_iff.2 ⟨count, Nat.lt_succ_self count, Nat.le_of_lt_succ below, off⟩
  cases tracing.symm.trans forgotten

theorem standing_succ (kept : notices[count]? ≠ some (.switched false)) :
    standing on notices (count + 1) = (standing on notices count).filter
      (fun place => cancels on notices (cancelled on notices count) count ≠ some place) ++
        [count] := by
  have same : ∀ place, switchedOff notices place (count + 1) = switchedOff notices place count := by
    intro place
    simp [switchedOff, List.range_succ, kept]
  have last : count ∉ cancelled on notices (count + 1) := by
    intro inside
    rcases List.mem_append.1 inside with new | old
    · exact Nat.lt_irrefl count (lt_of_cancels (Option.mem_toList.1 new))
    · exact Nat.lt_irrefl count (lt_of_mem_cancelled old)
  have tracing : switchedOff notices count count = false := by
    rw [Bool.eq_false_iff]
    intro off
    obtain ⟨later, below, above, _⟩ := switchedOff_iff.1 off
    omega
  rw [standing, List.range_succ, List.filter_append, standing, List.filter_filter]
  congr 1
  · refine List.filter_congr fun place _ => ?_
    simp [cancelled, same, not_or, Bool.and_left_comm, Bool.and_assoc]
  · simp [last, same, tracing]

/-- Where nothing is forgotten, a cancelled lock goes and an acquired one comes last. -/
theorem heldAfter_succ (kept : notices[count]? ≠ some (.switched false)) (thread : ThreadId) :
    heldAfter on notices (count + 1) thread =
      ((standing on notices count).filter fun place =>
        cancels on notices (cancelled on notices count) count ≠ some place).filterMap
          (lockAt? on notices thread) ++ (lockAt? on notices thread count).toList := by
  rw [heldAfter, standing_succ kept, List.filterMap_append]
  cases found : lockAt? on notices thread count with
  | none => simp [found]
  | some cookie => simp [found]

theorem heldAfter_succ_of_quiet (kept : notices[count]? ≠ some (.switched false))
    (nothing : cancels on notices (cancelled on notices count) count = none) (thread : ThreadId) :
    heldAfter on notices (count + 1) thread =
      heldAfter on notices count thread ++ (lockAt? on notices thread count).toList := by
  rw [heldAfter_succ kept, nothing]
  simp [heldAfter]

/-! ### Releases -/

theorem eraseLast_append (first : List Cookie) {last : List Cookie} (cookie : Cookie)
    (absent : cookie ∉ last) :
    Collector.eraseLast (first ++ cookie :: last) cookie = first ++ last := by
  have behind : cookie ∉ last.reverse := fun inside => absent (List.mem_reverse.1 inside)
  simp [Collector.eraseLast, List.erase_append_right, behind]

theorem eraseLast_of_absent {held : List Cookie} {cookie : Cookie} (absent : cookie ∉ held) :
    Collector.eraseLast held cookie = held := by
  have behind : cookie ∉ held.reverse := fun inside => absent (List.mem_reverse.1 inside)
  simp [Collector.eraseLast, List.erase_of_not_mem behind]

/-- Taking away a lock's last place takes away its last occurrence. -/
theorem filterMap_filter_ne {places : List Nat} {lock : Nat → Option Cookie}
    (ascending : places.Pairwise (· < ·)) (inside : place ∈ places) (own : lock place = some cookie)
    (last : ∀ later ∈ places, place < later → lock later ≠ some cookie) :
    (places.filter (· ≠ place)).filterMap lock =
      Collector.eraseLast (places.filterMap lock) cookie := by
  obtain ⟨before, behind, rfl⟩ := List.append_of_mem inside
  obtain ⟨_, following, apart⟩ := List.pairwise_append.1 ascending
  have after := (List.pairwise_cons.1 following).1
  have absent : cookie ∉ behind.filterMap lock := by
    intro again
    obtain ⟨later, there, same⟩ := List.mem_filterMap.1 again
    have inside := List.mem_append_right before (List.mem_cons_of_mem place there)
    exact last later inside (after later there) same
  have early : before.filter (· ≠ place) = before := by
    rw [List.filter_eq_self]
    intro earlier there
    exact decide_eq_true (Nat.ne_of_lt (apart earlier there place List.mem_cons_self))
  have late : behind.filter (· ≠ place) = behind := by
    rw [List.filter_eq_self]
    intro later there
    exact decide_eq_true (Nat.ne_of_gt (after later there))
  rw [List.filter_append, early, List.filter_cons_of_neg (by simp), late, List.filterMap_append,
    List.filterMap_append, List.filterMap_cons_some own, eraseLast_append _ _ absent]

theorem filter_ne_of_absent {places : List Nat} (absent : place ∉ places) :
    places.filter (· ≠ place) = places := by
  rw [List.filter_eq_self]
  intro other there
  exact decide_eq_true fun same => absent (same ▸ there)

theorem lockAt?_eq_some_iff : lockAt? on notices thread place = some cookie ↔
    recorded? on notices place = some (.acquired thread cookie) := by
  unfold lockAt?
  split
  · next other there found =>
    rw [found]
    by_cases same : other = thread
    · simp [same]
    · simp [same]
  · next odd =>
    constructor
    · intro none
      cases none
    · intro found
      exact absurd found (odd thread cookie)

theorem mem_heldAfter : cookie ∈ heldAfter on notices count thread ↔
    ∃ place ∈ standing on notices count,
      recorded? on notices place = some (.acquired thread cookie) := by
  simp [heldAfter, lockAt?_eq_some_iff]

theorem getElem?_of_recorded {notice : Notice}
    (found : recorded? on notices place = some notice) : notices[place]? = some notice := by
  unfold recorded? at found
  split at found
  · exact found
  · cases found

theorem not_switched_of_recorded {notice : Notice}
    (found : recorded? on notices place = some notice)
    (other : ∀ enabled, notice ≠ .switched enabled) :
    notices[place]? ≠ some (.switched false) := by
  rw [getElem?_of_recorded found]
  intro same
  exact other false (Option.some.inj same)

theorem isLeft_of_standing (there : place ∈ standing on notices count)
    (acquired : recorded? on notices place = some (.acquired thread cookie)) :
    isLeft on notices (cancelled on notices count) thread cookie place = true := by
  simp [isLeft, acquired, (mem_standing.1 there).2.1]

/-- Where the last acquisition that is left is forgotten, the earlier ones are forgotten with it. -/
theorem absent_of_forgotten (forgotten : switchedOff notices place count = true)
    (last : ∀ later, place < later → later < count →
      isLeft on notices (cancelled on notices count) thread cookie later = false) :
    cookie ∉ heldAfter on notices count thread := by
  intro held
  obtain ⟨other, there, again⟩ := mem_heldAfter.1 held
  obtain ⟨within, _, tracing⟩ := mem_standing.1 there
  have early : other ≤ place := by
    by_contra late
    have closed := last other (Nat.lt_of_not_le late) within
    cases closed.symm.trans (isLeft_of_standing there again)
  obtain ⟨switch, before, behind, off⟩ := switchedOff_iff.1 forgotten
  have lost : switchedOff notices other count = true :=
    switchedOff_iff.2 ⟨switch, before, Nat.le_trans early behind, off⟩
  cases tracing.symm.trans lost

/-- A release takes away the last occurrence of its lock among those that its thread holds. -/
theorem heldAfter_succ_of_released
    (release : recorded? on notices count = some (.released thread cookie)) :
    heldAfter on notices (count + 1) thread =
      Collector.eraseLast (heldAfter on notices count thread) cookie := by
  have kept := not_switched_of_recorded release fun _ same => by cases same
  have nothing : lockAt? on notices thread count = none := by simp [lockAt?, release]
  have target : cancels on notices (cancelled on notices count) count =
      latest? (isLeft on notices (cancelled on notices count) thread cookie) count := by
    simp [cancels, release]
  rw [heldAfter_succ kept, nothing, target, Option.toList_none, List.append_nil]
  cases found : latest? (isLeft on notices (cancelled on notices count) thread cookie) count with
  | none =>
    have absent : cookie ∉ heldAfter on notices count thread := by
      intro held
      obtain ⟨place, there, acquired⟩ := mem_heldAfter.1 held
      have closed := latest?_eq_none found (mem_standing.1 there).1
      cases closed.symm.trans (isLeft_of_standing there acquired)
    rw [eraseLast_of_absent absent]
    simp [heldAfter]
  | some place =>
    obtain ⟨below, ends, last⟩ := latest?_eq_some found
    obtain ⟨acquired, uncancelled⟩ : recorded? on notices place = some (.acquired thread cookie) ∧
        place ∉ cancelled on notices count := by simpa [isLeft] using ends
    have same : ((standing on notices count).filter fun other => some place ≠ some other) =
        (standing on notices count).filter (· ≠ place) := by
      refine List.filter_congr fun other _ => ?_
      simp [eq_comm]
    rw [same]
    by_cases inside : place ∈ standing on notices count
    · refine filterMap_filter_ne (standing_ascending on notices count) inside
        (lockAt?_eq_some_iff.2 acquired) fun later there after again => ?_
      have again := isLeft_of_standing there (lockAt?_eq_some_iff.1 again)
      cases (last later after (mem_standing.1 there).1).symm.trans again
    · have forgotten : switchedOff notices place count = true := by
        by_contra tracing
        exact inside (mem_standing.2 ⟨below, uncancelled, Bool.eq_false_iff.2 tracing⟩)
      have absent := absent_of_forgotten forgotten last
      rw [filter_ne_of_absent inside, eraseLast_of_absent absent]
      rfl

/-- A release leaves other threads what they hold. -/
theorem heldAfter_succ_of_released_ne
    (release : recorded? on notices count = some (.released thread cookie)) {other : ThreadId}
    (apart : other ≠ thread) :
    heldAfter on notices (count + 1) other = heldAfter on notices count other := by
  have kept := not_switched_of_recorded release fun _ same => by cases same
  have nothing : lockAt? on notices other count = none := by simp [lockAt?, release]
  rw [heldAfter_succ kept, nothing, Option.toList_none, List.append_nil, heldAfter,
    List.filterMap_filter]
  refine List.filterMap_congr fun place _ => ?_
  split
  · rfl
  · next gone =>
    -- What is cancelled is an acquisition by the thread that releases.
    have target : cancels on notices (cancelled on notices count) count = some place := by
      simpa using gone
    simp only [cancels, release] at target
    have ends := (latest?_eq_some target).2.1
    have acquired : recorded? on notices place = some (.acquired thread cookie) := by
      simp only [isLeft, Bool.and_eq_true, decide_eq_true_eq] at ends
      exact ends.1
    simp [lockAt?, acquired, apart.symm]

/-- An acquisition puts its lock behind those that its thread holds. -/
theorem heldAfter_succ_of_acquired
    (acquisition : recorded? on notices count = some (.acquired thread cookie))
    (other : ThreadId) : heldAfter on notices (count + 1) other =
      if other = thread then heldAfter on notices count thread ++ [cookie]
      else heldAfter on notices count other := by
  have kept := not_switched_of_recorded acquisition fun _ same => by cases same
  have nothing : cancels on notices (cancelled on notices count) count = none := by
    simp [cancels, acquisition]
  rw [heldAfter_succ_of_quiet kept nothing]
  by_cases own : other = thread
  · simp [lockAt?, acquisition, own]
  · simp [lockAt?, acquisition, own, Ne.symm own]

theorem heldAfter_succ_of_aside (kept : notices[count]? ≠ some (.switched false))
    (aside : ∀ notice, recorded? on notices count = some notice → notice.isAside = true)
    (thread : ThreadId) :
    heldAfter on notices (count + 1) thread = heldAfter on notices count thread := by
  have same : cancels on notices (cancelled on notices count) count = none := by
    unfold cancels
    split
    · next found => cases aside _ found
    · rfl
  have nothing : lockAt? on notices thread count = none := by
    unfold lockAt?
    split
    · next found => cases aside _ found
    · rfl
  rw [heldAfter_succ_of_quiet kept same, nothing, Option.toList_none, List.append_nil]

theorem heldAfter_succ_of_off (off : notices[count]? = some (.switched false))
    (thread : ThreadId) : heldAfter on notices (count + 1) thread = [] := by
  rw [heldAfter, standing_succ_of_off off]
  rfl

end

end Steward.Trace
