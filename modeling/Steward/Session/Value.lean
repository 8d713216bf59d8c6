import Steward.Error

/-! The values of a session: what its steps are given and what they answer. -/

set_option autoImplicit false

namespace Steward.Session

inductive Value where
  | nothing
  | flag (value : Bool)
  | number (value : Int)
  | text (value : String)
  | list (items : List Value)
  | record (fields : List (String × Value))
  /-- The result of an attempt that was made within a step. -/
  | attempt (result : Except Error Unit)
  deriving Inhabited

/-- What is wrong with a step that cannot be made. -/
inductive Complaint where
  | noObject (name : String)
  | noThread
  | noThreadNamed (name : String)
  | noBlock
  | noHeap
  | notHeld
  | nothingToAwait
  | unreadable (what : String)
  | endless
  deriving DecidableEq

def Complaint.message : Complaint → String
  | noObject name => "no object " ++ name
  | noThread => "no thread"
  | noThreadNamed name => "no thread " ++ name
  | noBlock => "no block"
  | noHeap => "no heap"
  | notHeld => "not held"
  | nothingToAwait => "nothing to await"
  | unreadable what => "cannot read " ++ what
  | endless => "the step does not end"

/-- Why a step has no value: the host refused it, or it made no sense. -/
inductive Fault where
  | refused (error : Error)
  | badInput (complaint : Complaint)
  deriving DecidableEq

namespace Value

def natural (value : Nat) : Value := number (Int.ofNat value)

def optional {α : Type} (write : α → Value) : Option α → Value
  | none => nothing
  | some item => write item

def items {α : Type} (write : α → Value) (values : List α) : Value := list (values.map write)

def thread (thread : ThreadId) : Value := natural thread.value

def domain (domain : DomainId) : Value := natural domain.value

def cookie (cookie : Cookie) : Value := natural cookie.value

def bytes (data : List UInt8) : Value := text (Text.hexBytes data)

end Value

end Steward.Session
