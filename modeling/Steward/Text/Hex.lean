/-! Hexadecimal text: numbers as addresses and cookies are shown, and bytes two digits each. -/

set_option autoImplicit false

namespace Steward.Text

/-- Lower-case digits behind `0x`, without leading zeros. -/
def hex (value : Nat) : String := "0x" ++ String.ofList (Nat.toDigits 16 value)

/-- The digit of the low four bits. -/
def hexDigit (value : Nat) : Char := Nat.digitChar (value % 16)

def hexByte (byte : UInt8) : List Char := [hexDigit (byte.toNat / 16), hexDigit byte.toNat]

/-- Two lower-case digits for every byte. -/
def hexBytes (bytes : List UInt8) : String := String.ofList (bytes.flatMap hexByte)

def digitValue? (digit : Char) : Option Nat :=
  if '0' ≤ digit ∧ digit ≤ '9' then some (digit.toNat - '0'.toNat)
  else if 'a' ≤ digit ∧ digit ≤ 'f' then some (digit.toNat - 'a'.toNat + 10)
  else if 'A' ≤ digit ∧ digit ≤ 'F' then some (digit.toNat - 'A'.toNat + 10)
  else none

/-- Read pairs of digits; an odd digit or any other character is refused. -/
def bytesOfHex? : List Char → Option (List UInt8)
  | [] => some []
  | [_] => none
  | high :: low :: rest => do
    let high ← digitValue? high
    let low ← digitValue? low
    let rest ← bytesOfHex? rest
    return UInt8.ofNat (16 * high + low) :: rest

end Steward.Text
