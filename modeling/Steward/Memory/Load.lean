import Steward.Error
import Steward.Text.Blank
import Steward.Text.Decimal

/-! How much of the physical memory is in use, and how it is read from a listing of named fields
in kibibytes. -/

set_option autoImplicit false

namespace Steward.Memory

structure Load where
  /-- Of all memory, the part in use, from 0 to 100. -/
  percent : Nat
  available : Nat
  total : Nat
  deriving DecidableEq

namespace Load

/-- More memory than there is cannot be available, and of no memory none is in use. -/
def ofBytes (total available : Nat) : Load :=
  let available := min available total
  ⟨(total - available) * 100 / total, available, total⟩

theorem percent_le (total available : Nat) : (ofBytes total available).percent ≤ 100 := by
  rcases Nat.eq_zero_or_pos total with rfl | positive
  · simp [ofBytes]
  · exact Nat.div_le_of_le_mul (Nat.mul_le_mul_right 100 (Nat.sub_le _ _))

/-- The number that a line gives for a field: the name, a colon, and the next word. -/
def lineValue? (name line : List Char) : Option Nat := do
  let rest ← Text.behind? (name ++ [':']) line
  let word ← Text.firstWord? rest
  Text.decimal? word

/-- The first line with a number for the field decides. -/
def field? (text : List Char) (name : String) : Option Nat :=
  (Text.lines text).findSome? (lineValue? name.toList)

/-- Read a listing. Without a figure for the available memory the free one is taken. -/
def ofListing (text : List Char) : Except Error Load :=
  match field? text "MemTotal" with
  | none => .error (.invalidArgument (.noMemoryField "MemTotal"))
  | some total =>
      match (field? text "MemAvailable").or (field? text "MemFree") with
      | none => .error (.invalidArgument (.noMemoryField "MemAvailable"))
      | some available => .ok (ofBytes (total * 1024) (available * 1024))

end Load

end Steward.Memory
