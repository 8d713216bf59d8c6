import Steward.Text.Blank
import Steward.Text.Hex

/-! Reading a text back: the digits of a number, the text up to a mark, a list whose items are set
apart by a mark, and lines. Each reader inverts the way its part is written, whatever stands behind
the part. -/

set_option autoImplicit false

namespace Steward.Text

/-- The value of digits in a base, the first of them the highest; any other character is refused. -/
def number? (base : Nat) (digits : List Char) : Option Nat :=
  digits.foldlM (fun value digit => (digitValue? digit).map (base * value + ·)) 0

/-- The text before the first mark, and what stands behind it. -/
def upTo? (mark : Char) : List Char → Option (List Char × List Char)
  | [] => none
  | c :: rest =>
      if c = mark then some ([], rest)
      else (upTo? mark rest).map fun found => (c :: found.1, found.2)

/-- The items of a list, set apart by a mark. -/
def items? {Item : Type} (item? : List Char → Option Item) (mark : Char) (text : List Char) :
    Option (List Item) :=
  if text = [] then some [] else (text.splitOn mark).mapM item?

/-- What a reader takes back from a text tells what the text was written from. -/
theorem injective_of_read {Item Written : Type} {write : Item → Written}
    (read? : Written → Option Item) (inverse : ∀ item, read? (write item) = some item) :
    Function.Injective write := by
  intro item other same
  have read := inverse item
  rw [same, inverse other] at read
  exact (Option.some.inj read).symm

/-! ### Digits -/

theorem digitValue?_digitChar :
    ∀ {digit : Nat}, digit < 16 → digitValue? digit.digitChar = some digit := by
  decide

/-- What holds of single digits, and of a number where it holds of its leading digits, holds of all
numbers. -/
theorem byDigits {base : Nat} (two : 1 < base) {motive : Nat → Prop}
    (single : ∀ number, number < base → motive number)
    (more : ∀ number, base ≤ number → motive (number / base) → motive number) (number : Nat) :
    motive number := by
  induction number using Nat.strongRecOn with
  | ind number ih =>
    by_cases small : number < base
    · exact single number small
    · have large : base ≤ number := Nat.le_of_not_lt small
      have positive : 0 < number := by omega
      exact more number large (ih _ (Nat.div_lt_self positive two))

/-- The digits of a number are those below the base. -/
theorem mem_toDigits {base : Nat} (two : 1 < base) (number : Nat) {c : Char}
    (mem : c ∈ Nat.toDigits base number) : ∃ digit < base, c = digit.digitChar := by
  induction number using byDigits two with
  | single number small =>
    rw [Nat.toDigits_of_lt_base small, List.mem_singleton] at mem
    exact ⟨number, small, mem⟩
  | more number large ih =>
    rw [Nat.toDigits_of_base_le two large, List.mem_append, List.mem_singleton] at mem
    rcases mem with high | last
    · exact ih high
    · exact ⟨number % base, Nat.mod_lt _ (by omega), last⟩

theorem not_mem_toDigits {base : Nat} (two : 1 < base) (sixteen : base ≤ 16) (number : Nat)
    {mark : Char} (none : digitValue? mark = none) : mark ∉ Nat.toDigits base number := by
  intro mem
  obtain ⟨digit, small, rfl⟩ := mem_toDigits two number mem
  rw [digitValue?_digitChar (Nat.lt_of_lt_of_le small sixteen)] at none
  contradiction

theorem number?_toDigits {base : Nat} (two : 1 < base) (sixteen : base ≤ 16) (number : Nat) :
    number? base (Nat.toDigits base number) = some number := by
  induction number using byDigits two with
  | single number small =>
    have digit := digitValue?_digitChar (Nat.lt_of_lt_of_le small sixteen)
    simp [Nat.toDigits_of_lt_base small, number?, digit]
  | more number large ih =>
    have below : number % base < base := Nat.mod_lt number (by omega)
    have last := digitValue?_digitChar (Nat.lt_of_lt_of_le below sixteen)
    rw [number?] at ih
    rw [Nat.toDigits_of_base_le two large, number?, List.foldlM_append, ih]
    simp [last, Nat.div_add_mod]

/-! ### Beginnings and marks -/

@[simp] theorem behind?_append (start rest : List Char) :
    behind? start (start ++ rest) = some rest := by
  rw [behind?, if_pos (List.isPrefixOf_iff_prefix.2 (List.prefix_append start rest)),
    List.drop_left]

theorem upTo?_append {mark : Char} {before : List Char} (unmarked : mark ∉ before)
    (rest : List Char) : upTo? mark (before ++ mark :: rest) = some (before, rest) := by
  induction before with
  | nil => simp [upTo?]
  | cons c before ih =>
    rw [List.mem_cons, not_or] at unmarked
    simp [upTo?, Ne.symm unmarked.1, ih unmarked.2]

/-! ### Lists -/

section

variable {Item : Type} (write : Item → List Char) (items : List Item) {mark : Char}

theorem not_mem_intercalate {c : Char} (other : c ≠ mark) (free : ∀ item, c ∉ write item) :
    c ∉ [mark].intercalate (items.map write) := by
  induction items with
  | nil => simp
  | cons item items ih =>
    cases items with
    | nil => simpa using free item
    | cons next items =>
      rw [List.map_cons] at ih
      rw [List.map_cons, List.map_cons, List.intercalate_cons_cons]
      simp [free item, other, ih]

/-- A list is read back where its items are, none of them is empty, and none holds the mark. -/
theorem items?_intercalate {item? : List Char → Option Item}
    (inverse : ∀ item, item? (write item) = some item) (shown : ∀ item, write item ≠ [])
    (free : ∀ item, mark ∉ write item) :
    items? item? mark ([mark].intercalate (items.map write)) = some items := by
  have each : items.mapM (item? ∘ write) = some items := by
    induction items with
    | nil => rfl
    | cons item items ih => simp [inverse, ih]
  -- The empty text is set aside for the empty list, so a list with items must not give it.
  cases items with
  | nil => rfl
  | cons item items =>
    have filled : [mark].intercalate ((item :: items).map write) ≠ [] := by
      cases items with
      | nil => simpa using shown item
      | cons next items => simp [List.intercalate_cons_cons]
    have apart : ∀ text ∈ (item :: items).map write, mark ∉ text := by
      intro text mem
      obtain ⟨item, -, rfl⟩ := List.mem_map.1 mem
      exact free item
    rw [items?, if_neg filled, List.splitOn_intercalate mark apart (by simp), List.mapM_map, each]

end

/-! ### Lines -/

theorem linesFrom_append {line : List Char} (unbroken : '\n' ∉ line) (start rest : List Char) :
    linesFrom start (line ++ '\n' :: rest) = dropReturn (start ++ line) :: linesFrom [] rest := by
  induction line generalizing start with
  | nil => simp [linesFrom]
  | cons c line ih =>
    rw [List.mem_cons, not_or] at unbroken
    simp [linesFrom, Ne.symm unbroken.1, ih unbroken.2]

/-- The lines of a text that is written line by line are the lines that it was written from, where
they hold no line feed and do not end in a carriage return. -/
theorem lines_flatMap {Item : Type} (write : Item → List Char)
    (unbroken : ∀ item, '\n' ∉ write item) (bare : ∀ item, (write item).getLast? ≠ some '\r')
    (items : List Item) :
    lines (items.flatMap fun item => write item ++ ['\n']) = items.map write := by
  induction items with
  | nil => rfl
  | cons item items ih =>
    rw [lines] at ih
    rw [lines, List.flatMap_cons, List.append_assoc, List.singleton_append,
      linesFrom_append (unbroken item), ih, List.nil_append, dropReturn, if_neg (bare item),
      List.map_cons]

end Steward.Text
