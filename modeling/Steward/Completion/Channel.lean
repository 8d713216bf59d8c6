import Steward.Error

/-! A completion channel: a queue of finished operations that workers take one by one. Closing a
channel drops what is queued, and for good. -/

set_option autoImplicit false

namespace Steward.Completion

/-- What becomes of the callback that is handed an operation. -/
inductive Conduct where
  | returns
  | panics
  /-- It stays inside until it is let go. -/
  | holds
  deriving DecidableEq

/-- A finished operation. The context tells which one. -/
structure Packet where
  error : Nat
  bytes : Nat
  context : Nat
  conduct : Conduct := .returns
  deriving DecidableEq

structure Channel where
  queue : List Packet := []
  resources : List ResourceId := []
  isClosed : Bool := false
  /-- How many workers serve the channel. -/
  workers : Nat := 0
  deriving DecidableEq

namespace Channel

def bind (channel : Channel) (resource : ResourceId) : Channel :=
  if resource ∈ channel.resources then channel
  else { channel with resources := channel.resources ++ [resource] }

def post (channel : Channel) (id : ChannelId) (packet : Packet) : Except Error Channel :=
  if channel.isClosed then .error (.notFound (.closedChannel id))
  else .ok { channel with queue := channel.queue ++ [packet] }

def close (channel : Channel) : Channel :=
  { channel with queue := [], resources := [], isClosed := true }

end Channel

/-- A resource and the channel that its completions go to. -/
structure Binding where
  channel : ChannelId
  resource : ResourceId
  deriving DecidableEq

def Binding.debug (binding : Binding) : String :=
  Text.record "CompletionSink"
    [("port", binding.channel.debug), ("resource", binding.resource.debug)]

end Steward.Completion
