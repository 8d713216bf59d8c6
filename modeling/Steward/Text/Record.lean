/-! The diagnostic text of values: records with named fields, wrapped values and optional ones. -/

set_option autoImplicit false

namespace Steward.Text

/-- One field of a record, as `name: value`. -/
def field (entry : String × String) : String := entry.1 ++ ": " ++ entry.2

def fields (entries : List (String × String)) : String := ", ".intercalate (entries.map field)

/-- A record whose fields are all shown. -/
def record (name : String) (entries : List (String × String)) : String :=
  name ++ " \x7b " ++ fields entries ++ " \x7d"

/-- A record that has more fields than it shows. -/
def openRecord (name : String) (entries : List (String × String)) : String :=
  name ++ " \x7b " ++ fields entries ++ ", .. \x7d"

def wrapped (name value : String) : String := name ++ "(" ++ value ++ ")"

def optional : Option String → String
  | none => "None"
  | some value => wrapped "Some" value

end Steward.Text
