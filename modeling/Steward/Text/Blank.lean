/-! Blank characters, lines and words of a text. A blank is a character with the Unicode
property `White_Space`; a line ends at a line feed. -/

set_option autoImplicit false

namespace Steward.Text

/-- The inclusive ranges of code points with the property `White_Space`. -/
def blankRanges : List (Nat × Nat) :=
  [(0x09, 0x0D), (0x20, 0x20), (0x85, 0x85), (0xA0, 0xA0), (0x1680, 0x1680), (0x2000, 0x200A),
    (0x2028, 0x2029), (0x202F, 0x202F), (0x205F, 0x205F), (0x3000, 0x3000)]

def isBlank (c : Char) : Bool :=
  blankRanges.any fun range => range.1 ≤ c.toNat && c.toNat ≤ range.2

/-- The first word of a text: leading blanks are skipped, and the next blank ends it. -/
def firstWord? (text : List Char) : Option (List Char) :=
  match text.dropWhile isBlank with
  | [] => none
  | first :: rest => some (first :: rest.takeWhile fun c => !isBlank c)

/-- What stands behind a beginning that the text has. -/
def behind? (start text : List Char) : Option (List Char) :=
  if start.isPrefixOf text then some (text.drop start.length) else none

/-- Drop the carriage return that stands directly before the line feed. -/
def dropReturn (line : List Char) : List Char :=
  if line.getLast? = some '\r' then line.dropLast else line

/-- The lines of a text. A last line without a line feed counts when it holds a character. -/
def linesFrom (line : List Char) : List Char → List (List Char)
  | [] => if line.isEmpty then [] else [line]
  | c :: rest =>
      if c = '\n' then dropReturn line :: linesFrom [] rest else linesFrom (line ++ [c]) rest

def lines (text : List Char) : List (List Char) := linesFrom [] text

end Steward.Text
