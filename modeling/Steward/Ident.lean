import Steward.Text.Hex
import Steward.Text.Record

/-! Identities of threads, domains, locks, completion channels, their callbacks and bound resources,
with the texts they are shown by. -/

set_option autoImplicit false

namespace Steward

structure ThreadId where
  value : Nat
  deriving DecidableEq, Inhabited

/-- A domain's number, chosen by the runtime and unique among live domains. -/
structure DomainId where
  value : Nat
  deriving DecidableEq, Inhabited

/-- The identity of a lock, as the runtime knows it. -/
structure Cookie where
  value : Nat
  deriving DecidableEq, Inhabited

/-- A completion channel. -/
structure ChannelId where
  value : Nat
  deriving DecidableEq, Inhabited

/-- A callback that completions can be handed to. -/
structure CallbackId where
  value : Nat
  deriving DecidableEq, Inhabited

/-- A file or socket whose completions go to a channel. -/
structure ResourceId where
  value : Nat
  deriving DecidableEq, Inhabited

def ThreadId.text (thread : ThreadId) : String := Text.wrapped "Thread" (toString thread.value)

def ThreadId.debug (thread : ThreadId) : String :=
  Text.wrapped "NativeThreadId" (toString thread.value)

def DomainId.text (domain : DomainId) : String := toString domain.value

def DomainId.debug (domain : DomainId) : String := Text.wrapped "DomainId" (toString domain.value)

def Cookie.text (cookie : Cookie) : String := Text.hex cookie.value

def Cookie.debug (cookie : Cookie) : String := Text.wrapped "Cookie" (toString cookie.value)

def ChannelId.text (channel : ChannelId) : String := Text.wrapped "Port" (toString channel.value)

def ChannelId.debug (channel : ChannelId) : String := Text.wrapped "PortId" (toString channel.value)

def ResourceId.debug (resource : ResourceId) : String :=
  Text.wrapped "ResourceId" (toString resource.value)

end Steward
