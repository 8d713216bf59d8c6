import Steward.Memory.Load
import Steward.Proofs.Text.Parts

/-! What a listing tells of the memory. Each name has the figure of the first line that tells one,
and nothing else in the text matters: neither lines that tell none, nor how the lines of different
names stand among each other. -/

set_option autoImplicit false

namespace Steward.Memory.Load

open Text

/-- A line tells a figure for a name: the name, a colon directly behind it, and a number as the next
word. -/
def Tells (name : String) (line : List Char) (figure : Nat) : Prop :=
  ∃ rest word, line = name.toList ++ ':' :: rest ∧ FirstWord rest word ∧ Writes word figure

/-- The figure of the first line in a text that tells one for a name. -/
def HasFigure (text : List Char) (name : String) (figure : Nat) : Prop :=
  ∃ before line after, Lines text (before ++ line :: after) ∧ Tells name line figure ∧
    ∀ earlier ∈ before, ∀ other, ¬ Tells name earlier other

/-- The figure for the available memory, or the free memory where there is none for it. -/
def HasAvailable (text : List Char) (figure : Nat) : Prop :=
  HasFigure text "MemAvailable" figure ∨
    (∀ other, ¬ HasFigure text "MemAvailable" other) ∧ HasFigure text "MemFree" figure

/-- The names that are looked for. -/
def names : List String := ["MemTotal", "MemAvailable", "MemFree"]

theorem lineValue?_eq_some_iff {name : String} {line : List Char} {figure : Nat} :
    lineValue? name.toList line = some figure ↔ Tells name line figure := by
  simp only [lineValue?, Option.bind_eq_bind, Option.bind_eq_some_iff, behind?_eq_some_iff,
    firstWord?_eq_some_iff, decimal?_eq_some_iff, List.append_assoc, List.singleton_append]
  constructor
  · rintro ⟨rest, starts, word, first, writes⟩
    exact ⟨rest, word, starts, first, writes⟩
  · rintro ⟨rest, word, starts, first, writes⟩
    exact ⟨rest, starts, word, first, writes⟩

theorem lineValue?_eq_none_iff {name : String} {line : List Char} :
    lineValue? name.toList line = none ↔ ∀ figure, ¬ Tells name line figure := by
  simp only [Option.eq_none_iff_forall_ne_some, ne_eq, lineValue?_eq_some_iff]

instance (name : String) : DecidablePred fun line => ∃ figure, Tells name line figure :=
  fun line => decidable_of_iff ((lineValue? name.toList line).isSome) (by
    simp only [Option.isSome_iff_exists, lineValue?_eq_some_iff])

theorem field?_eq_some_iff {text : List Char} {name : String} {figure : Nat} :
    field? text name = some figure ↔ HasFigure text name figure := by
  simp only [field?, List.findSome?_eq_some_iff, lineValue?_eq_some_iff, lineValue?_eq_none_iff,
    HasFigure, lines_iff]

theorem field?_eq_none_iff {text : List Char} {name : String} :
    field? text name = none ↔ ∀ figure, ¬ HasFigure text name figure := by
  simp only [Option.eq_none_iff_forall_ne_some, ne_eq, field?_eq_some_iff]

theorem available?_eq_some_iff {text : List Char} {figure : Nat} :
    (field? text "MemAvailable").or (field? text "MemFree") = some figure ↔
      HasAvailable text figure := by
  rw [Option.or_eq_some_iff, field?_eq_some_iff, field?_eq_none_iff, field?_eq_some_iff]
  rfl

/-- Lines that tell nothing for a name do not matter for its figure. -/
theorem findSome?_filter (name : String) (found : List (List Char)) :
    (found.filter fun line => ∃ figure, Tells name line figure).findSome?
        (lineValue? name.toList) = found.findSome? (lineValue? name.toList) := by
  induction found with
  | nil => rfl
  | cons line found ih =>
    cases told : lineValue? name.toList line with
    | none =>
      have silent : ¬ ∃ figure, Tells name line figure :=
        not_exists.2 (lineValue?_eq_none_iff.1 told)
      rw [List.filter_cons_of_neg (by simpa using silent), ih, List.findSome?_cons, told]
    | some figure =>
      have tells : ∃ figure, Tells name line figure := ⟨figure, lineValue?_eq_some_iff.1 told⟩
      rw [List.filter_cons_of_pos (by simpa using tells), List.findSome?_cons,
        List.findSome?_cons, told]

theorem field?_eq_of_filter {text other : List Char} {found otherFound : List (List Char)}
    {name : String} (broken : Lines text found) (otherBroken : Lines other otherFound)
    (same : (found.filter fun line => ∃ figure, Tells name line figure) =
      otherFound.filter fun line => ∃ figure, Tells name line figure) :
    field? text name = field? other name := by
  rw [field?, field?, lines_iff.1 broken, lines_iff.1 otherBroken, ← findSome?_filter, same,
    findSome?_filter]

/-- A load is that of some bytes where its three figures are. -/
theorem eq_ofBytes_iff {load : Load} {total available : Nat} :
    load = ofBytes total available ↔
      load.total = total ∧ load.available = min load.total available ∧
        load.percent = if load.total = 0 then 0
          else 100 * (load.total - load.available) / load.total := by
  have figures : ofBytes total available =
      ⟨if total = 0 then 0 else 100 * (total - min total available) / total,
        min total available, total⟩ := by
    rw [ofBytes, Nat.min_comm, Nat.mul_comm]
    split
    · next none => simp only [none, Nat.div_zero]
    · rfl
  constructor
  · rintro rfl
    rw [figures]
    exact ⟨rfl, rfl, rfl⟩
  · obtain ⟨percent, left, whole⟩ := load
    rw [figures, mk.injEq]
    rintro ⟨sameTotal, sameLeft, samePercent⟩
    dsimp only at sameTotal sameLeft samePercent
    refine ⟨?_, ?_, sameTotal⟩
    · rw [samePercent, sameLeft, sameTotal]
    · rw [sameLeft, sameTotal]

theorem ofListing_eq_error_iff {text : List Char} {error : Error} :
    ofListing text = .error error ↔
      field? text "MemTotal" = none ∧ error = .invalidArgument (.noMemoryField "MemTotal") ∨
        (field? text "MemTotal").isSome ∧
          (field? text "MemAvailable").or (field? text "MemFree") = none ∧
          error = .invalidArgument (.noMemoryField "MemAvailable") := by
  cases whole : field? text "MemTotal" with
  | none => simp [ofListing, whole, eq_comm]
  | some total =>
    cases left : (field? text "MemAvailable").or (field? text "MemFree") with
    | none => simp [ofListing, whole, left, eq_comm]
    | some available => simp [ofListing, whole, left]

theorem ofListing_eq_ok_iff {text : List Char} {load : Load} :
    ofListing text = .ok load ↔
      ∃ total available, field? text "MemTotal" = some total ∧
        (field? text "MemAvailable").or (field? text "MemFree") = some available ∧
        load = ofBytes (1024 * total) (1024 * available) := by
  cases whole : field? text "MemTotal" with
  | none => simp [ofListing, whole]
  | some total =>
    cases left : (field? text "MemAvailable").or (field? text "MemFree") with
    | none => simp [ofListing, whole, left]
    | some available => simp [ofListing, whole, left, Nat.mul_comm 1024, eq_comm]

/-- A listing is refused exactly where it has no figure for the whole memory, or none for the
available one. Else its figures are those of the memory, in kibibytes. Two texts whose lines tell
the same for each name, in the same order, are answered alike. -/
theorem ofListing_exact (text : List Char) :
    (∀ error, ofListing text = .error error ↔
      (∀ figure, ¬ HasFigure text "MemTotal" figure) ∧
          error = .invalidArgument (.noMemoryField "MemTotal") ∨
        (∃ figure, HasFigure text "MemTotal" figure) ∧
          (∀ figure, ¬ HasFigure text "MemAvailable" figure) ∧
          (∀ figure, ¬ HasFigure text "MemFree" figure) ∧
          error = .invalidArgument (.noMemoryField "MemAvailable")) ∧
    (∀ load, ofListing text = .ok load ↔
      ∃ total available, HasFigure text "MemTotal" total ∧ HasAvailable text available ∧
        load.total = 1024 * total ∧
        load.available = min load.total (1024 * available) ∧
        load.percent = if load.total = 0 then 0
          else 100 * (load.total - load.available) / load.total) ∧
    (∀ load, ofListing text = .ok load → load.percent ≤ 100) ∧
    ∀ other found otherFound, Lines text found → Lines other otherFound →
      (∀ name ∈ names, (found.filter fun line => ∃ figure, Tells name line figure) =
        otherFound.filter fun line => ∃ figure, Tells name line figure) →
      ofListing other = ofListing text := by
  refine ⟨fun error => ?_, fun load => ?_, ?_, ?_⟩
  · simp only [ofListing_eq_error_iff, Option.isSome_iff_exists, Option.or_eq_none_iff,
      field?_eq_some_iff, field?_eq_none_iff, and_assoc]
  · simp only [ofListing_eq_ok_iff, field?_eq_some_iff, available?_eq_some_iff, eq_ofBytes_iff]
  · intro load read
    obtain ⟨total, available, -, -, rfl⟩ := ofListing_eq_ok_iff.1 read
    exact percent_le _ _
  · intro other found otherFound broken otherBroken same
    have figures (name : String) (mem : name ∈ names) : field? text name = field? other name :=
      field?_eq_of_filter broken otherBroken (same name mem)
    rw [ofListing, ofListing, figures "MemTotal" (by simp [names]),
      figures "MemAvailable" (by simp [names]), figures "MemFree" (by simp [names])]

/-- A longer name is another one, and a line without a number is passed over. -/
example : ofListing "MemTotals: 9\nMemTotal: all\nMemTotal:\t+8 kB\nMemFree:2".toList =
    .ok ⟨75, 2048, 8192⟩ := by
  cbv

end Steward.Memory.Load
