import Steward.Text.Record

/-! Signals that threads wait for. A lasting signal lets every waiter through until it is cleared;
any other is used up by the one waiter that it lets through. -/

set_option autoImplicit false

namespace Steward.Sync

structure Signal where
  lasting : Bool
  isSet : Bool := false
  deriving DecidableEq

namespace Signal

def set (signal : Signal) : Signal := { signal with isSet := true }

def clear (signal : Signal) : Signal := { signal with isSet := false }

/-- What is left of a signal that lets a waiter through. -/
def take? (signal : Signal) : Option Signal :=
  if signal.isSet then some { signal with isSet := signal.lasting } else none

def debug (signal : Signal) : String :=
  Text.record (if signal.lasting then "ManualEvent" else "AutoEvent")
    [("set", toString signal.isSet)]

end Signal

end Steward.Sync
