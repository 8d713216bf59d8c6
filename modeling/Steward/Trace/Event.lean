import Steward.Deadlock.Report

/-! Events of the lock trace, and the line that each is written as. -/

set_option autoImplicit false

namespace Steward.Trace

inductive Event where
  /-- A thread acquired a lock, and holds so many from then on. -/
  | acquired (thread : ThreadId) (cookie : Cookie) (depth : Nat)
  | released (thread : ThreadId) (cookie : Cookie)
  | deadlock (threads : List ThreadId) (cookies : List Cookie)
  deriving DecidableEq

namespace Event

def quoted (text : String) : String := "\"" ++ text ++ "\""

/-- A member of an object: its name and its value, which is written already. -/
def member (entry : String × String) : String := quoted entry.1 ++ ":" ++ entry.2

def object (entries : List (String × String)) : String :=
  "\x7b" ++ ",".intercalate (entries.map member) ++ "\x7d"

def array (items : List String) : String := "[" ++ ",".intercalate items ++ "]"

/-- The members of an event. The first one tells its kind. -/
def members : Event → List (String × String)
  | acquired thread cookie depth =>
      [("type", quoted "acquired"), ("thread", toString thread.value),
        ("cookie", quoted cookie.text), ("depth", toString depth)]
  | released thread cookie =>
      [("type", quoted "released"), ("thread", toString thread.value),
        ("cookie", quoted cookie.text)]
  | deadlock threads cookies =>
      [("type", quoted "deadlock"),
        ("threads", array (threads.map fun thread => toString thread.value)),
        ("cookies", array (cookies.map fun cookie => quoted cookie.text))]

/-- The line of an event, without the line feed that ends it. -/
def line (event : Event) : String := object event.members

end Event

end Steward.Trace
