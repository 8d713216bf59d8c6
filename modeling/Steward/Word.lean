/-! The range of a machine word of 64 bits. Quantities are natural numbers; where a sum must stay
within a word, it stops at the largest one. -/

set_option autoImplicit false

namespace Steward.Word

/-- The largest word. -/
def top : Nat := 0xffffffffffffffff

/-- A sum that stops at the largest word. -/
def saturatingAdd (first second : Nat) : Nat := min (first + second) top

/-- A word moved by a signed offset, where the sum is a word again. -/
def offset? (word : Nat) (delta : Int) : Option Nat :=
  match (word : Int) + delta with
  | .ofNat sum => if sum ≤ top then some sum else none
  | .negSucc _ => none

theorem offset?_eq_some_iff {word sum : Nat} {delta : Int} :
    offset? word delta = some sum ↔ (word : Int) + delta = sum ∧ sum ≤ top := by
  unfold offset?
  split
  · next exact same =>
    rw [same]
    by_cases fits : exact ≤ top
    · simp only [if_pos fits, Option.some.injEq, Int.ofNat_eq_natCast, Int.natCast_inj]
      grind
    · simp only [if_neg fits, Int.ofNat_eq_natCast, Int.natCast_inj]
      grind
  · next below same =>
    rw [same]
    constructor
    · intro found
      contradiction
    · rintro ⟨reached, -⟩
      omega

end Steward.Word
