import Mathlib.Data.List.TakeWhile
import Steward.Proofs.Text.Reading
import Steward.Text.Decimal

/-! The parts of a text, said without a reader: the lines that it is broken into, the word that it
begins with, and the number that a word writes. The readers find these parts and no others. -/

set_option autoImplicit false

namespace Steward.Text

/-- The lines of a text. Each ends at a line feed or at a carriage return with one; what stands
behind the last line feed is a line where it holds a character. -/
inductive Lines : List Char → List (List Char) → Prop where
  | empty : Lines [] []
  | last {line : List Char} : line ≠ [] → '\n' ∉ line → Lines line [line]
  | ended {line rest : List Char} {found : List (List Char)} : '\n' ∉ line →
      line.getLast? ≠ some '\r' → Lines rest found → Lines (line ++ '\n' :: rest) (line :: found)
  | returned {line rest : List Char} {found : List (List Char)} : '\n' ∉ line →
      Lines rest found → Lines (line ++ '\r' :: '\n' :: rest) (line :: found)

/-- The word behind the blanks that a text begins with. -/
def FirstWord (text word : List Char) : Prop :=
  ∃ blanks rest, text = blanks ++ (word ++ rest) ∧ (∀ c ∈ blanks, isBlank c) ∧ word ≠ [] ∧
    (∀ c ∈ word, ¬ isBlank c) ∧ ∀ c ∈ rest.head?, isBlank c

/-- The number that a word writes: digits, behind a plus sign or none, and a word of the machine
holds it. -/
def Writes (word : List Char) (number : Nat) : Prop :=
  ∃ digits, (word = digits ∨ word = '+' :: digits) ∧ digits ≠ [] ∧ (∀ c ∈ digits, c.isDigit) ∧
    number = Nat.ofDigitChars 10 digits 0 ∧ number ≤ Word.top

theorem behind?_eq_some_iff {start text rest : List Char} :
    behind? start text = some rest ↔ text = start ++ rest := by
  constructor
  · intro found
    unfold behind? at found
    split at found
    · next isStart =>
      obtain ⟨behind, rfl⟩ := List.isPrefixOf_iff_prefix.1 isStart
      rw [List.drop_left, Option.some.injEq] at found
      rw [found]
    · contradiction
  · rintro rfl
    exact behind?_append start rest

/-! ### Lines -/

theorem linesFrom_of_not_mem {text : List Char} (unbroken : '\n' ∉ text) (start : List Char) :
    linesFrom start text = if (start ++ text).isEmpty then [] else [start ++ text] := by
  induction text generalizing start with
  | nil => simp [linesFrom]
  | cons c text ih =>
    rw [List.mem_cons, not_or] at unbroken
    simp [linesFrom, Ne.symm unbroken.1, ih unbroken.2]

theorem Lines.eq {text : List Char} {found : List (List Char)} (broken : Lines text found) :
    lines text = found := by
  induction broken with
  | empty => rfl
  | last filled unbroken =>
    rw [lines, linesFrom_of_not_mem unbroken]
    simp [filled]
  | @ended line rest found unbroken bare _ ih =>
    rw [lines, linesFrom_append unbroken, List.nil_append, dropReturn, if_neg bare, ← ih, lines]
  | @returned line rest found unbroken _ ih =>
    -- The reader takes the carriage return into the line before it drops it.
    have whole : '\n' ∉ line ++ ['\r'] := by simp [unbroken]
    have split : line ++ '\r' :: '\n' :: rest = (line ++ ['\r']) ++ '\n' :: rest := by simp
    rw [split, lines, linesFrom_append whole, ← ih, lines]
    simp [dropReturn]

theorem Lines.dropReturn {line rest : List Char} {found : List (List Char)}
    (unbroken : '\n' ∉ line) (later : Lines rest found) :
    Lines (line ++ '\n' :: rest) (dropReturn line :: found) := by
  unfold Text.dropReturn
  split
  · next returned =>
    obtain ⟨start, rfl⟩ := List.getLast?_eq_some_iff.1 returned
    rw [List.mem_append, not_or] at unbroken
    rw [List.dropLast_concat, List.append_assoc]
    exact .returned unbroken.1 later
  · next bare => exact .ended unbroken bare later

theorem lines_linesFrom {start : List Char} (unbroken : '\n' ∉ start) (text : List Char) :
    Lines (start ++ text) (linesFrom start text) := by
  induction text generalizing start with
  | nil =>
    rw [List.append_nil, linesFrom]
    split
    · next empty =>
      rw [List.isEmpty_iff.1 empty]
      exact .empty
    · next filled => exact .last (by simpa using filled) unbroken
  | cons c text ih =>
    rw [linesFrom]
    split
    · next feed =>
      subst feed
      exact .dropReturn unbroken (ih List.not_mem_nil)
    · next other =>
      have longer : '\n' ∉ start ++ [c] := by simp [unbroken, Ne.symm other]
      simpa using ih longer

theorem lines_iff {text : List Char} {found : List (List Char)} :
    Lines text found ↔ lines text = found := by
  constructor
  · exact Lines.eq
  · rintro rfl
    exact lines_linesFrom List.not_mem_nil text

/-! ### Words -/

theorem head?_dropWhile (p : Char → Bool) (text : List Char) :
    ∀ c ∈ (text.dropWhile p).head?, p c = false := by
  intro c head
  have stopped := List.head?_dropWhile_not p text
  rwa [Option.mem_def.1 head] at stopped

theorem takeWhile_eq_nil {p : Char → Bool} {text : List Char}
    (stop : ∀ c ∈ text.head?, p c = false) : text.takeWhile p = [] := by
  cases text with
  | nil => rfl
  | cons c text => simp [stop c rfl]

theorem firstWord?_eq_some_iff {text word : List Char} :
    firstWord? text = some word ↔ FirstWord text word := by
  constructor
  · intro found
    unfold firstWord? at found
    split at found
    · contradiction
    · next first rest dropped =>
      rw [Option.some.injEq] at found
      subst found
      refine ⟨text.takeWhile isBlank, rest.dropWhile fun c => !isBlank c, ?_, ?_, by simp, ?_, ?_⟩
      · rw [List.cons_append, List.takeWhile_append_dropWhile, ← dropped,
          List.takeWhile_append_dropWhile]
      · intro c mem
        exact List.mem_takeWhile_imp mem
      · intro c mem
        rcases List.mem_cons.1 mem with rfl | mem
        · have visible := head?_dropWhile isBlank text
          rw [dropped] at visible
          simpa using visible
        · simpa using List.mem_takeWhile_imp mem
      · intro c head
        simpa using head?_dropWhile _ rest c head
  · rintro ⟨blanks, rest, rfl, blank, filled, inside, stop⟩
    obtain ⟨first, tail, rfl⟩ := List.exists_cons_of_ne_nil filled
    obtain ⟨visible, later⟩ := List.forall_mem_cons.1 inside
    have ends : rest.takeWhile (fun c => !isBlank c) = [] :=
      takeWhile_eq_nil fun c head => by simp [stop c head]
    have whole : (tail ++ rest).takeWhile (fun c => !isBlank c) = tail := by
      rw [List.takeWhile_append_of_pos (by simpa using later), ends, List.append_nil]
    rw [firstWord?, List.dropWhile_append_of_pos blank, List.cons_append,
      List.dropWhile_cons_of_neg visible]
    simp only [whole]

/-! ### Numbers -/

theorem digits?_eq_some_iff {digits : List Char} {value number : Nat} :
    digits? value digits = some number ↔
      (∀ c ∈ digits, c.isDigit) ∧ number = Nat.ofDigitChars 10 digits value := by
  induction digits generalizing value with
  | nil =>
    rw [digits?, Option.some.injEq, eq_comm]
    simp
  | cons c digits ih =>
    rw [digits?, List.forall_mem_cons, Nat.ofDigitChars_cons]
    split
    · next digit => rw [ih, and_iff_right digit]
    · next other =>
      constructor
      · intro found
        contradiction
      · rintro ⟨⟨digit, -⟩, -⟩
        exact absurd digit other

theorem filter_digits?_eq_some_iff {digits : List Char} {number : Nat} :
    (digits? 0 digits).filter (fun value => value ≤ Word.top) = some number ↔
      (∀ c ∈ digits, c.isDigit) ∧ number = Nat.ofDigitChars 10 digits 0 ∧ number ≤ Word.top := by
  rw [Option.filter_eq_some_iff, digits?_eq_some_iff, decide_eq_true_eq, and_assoc]

theorem decimal?_eq_some_iff {word : List Char} {number : Nat} :
    decimal? word = some number ↔ Writes word number := by
  constructor
  · intro found
    obtain ⟨digits, unsigned⟩ : ∃ digits,
        (if word.head? = some '+' then word.tail else word) = digits := ⟨_, rfl⟩
    simp only [decimal?, unsigned, List.isEmpty_iff] at found
    split at found
    · contradiction
    · next filled =>
      refine ⟨digits, ?_, filled, filter_digits?_eq_some_iff.1 found⟩
      rw [← unsigned]
      split
      · next plus =>
        obtain ⟨tail, rfl⟩ := List.head?_eq_some_iff.1 plus
        exact .inr rfl
      · exact .inl rfl
  · rintro ⟨digits, form, filled, writes⟩
    -- A plus sign is no digit, so only the one that is set before the digits is dropped.
    have unsigned : (if word.head? = some '+' then word.tail else word) = digits := by
      rcases form with rfl | rfl
      · refine if_neg fun plus => ?_
        have digit := writes.1 '+' (List.mem_of_head? plus)
        contradiction
      · rfl
    simp only [decimal?, unsigned, List.isEmpty_iff, if_neg filled]
    exact filter_digits?_eq_some_iff.2 writes

end Steward.Text
