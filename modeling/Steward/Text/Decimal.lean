import Steward.Word

/-! Reading numbers written in decimal digits. -/

set_option autoImplicit false

namespace Steward.Text

/-- The value of digits; any other character is refused. -/
def digits? (value : Nat) : List Char → Option Nat
  | [] => some value
  | c :: rest =>
      if c.isDigit then digits? (10 * value + (c.toNat - '0'.toNat)) rest else none

/-- A word-sized number: at least one digit, after a plus sign or none. -/
def decimal? (word : List Char) : Option Nat :=
  let body := if word.head? = some '+' then word.tail else word
  if body.isEmpty then none else (digits? 0 body).filter fun value => value ≤ Word.top

end Steward.Text
