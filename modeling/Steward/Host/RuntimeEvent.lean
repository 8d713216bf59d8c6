import Steward.Host.Waiting

/-! Events of the runtime that the host hears of. An unloaded domain leaves the register; the rest
is counted. -/

set_option autoImplicit false

namespace Steward.Host

inductive RuntimeEvent where
  | domainUnloaded (domain : DomainId)
  | disabled
  | assistantFired
  | stackOverflow
  deriving DecidableEq

def RuntimeEvent.label : RuntimeEvent → String
  | domainUnloaded _ => "DomainUnload"
  | disabled => "ClrDisabled"
  | assistantFired => "MdaFired"
  | stackOverflow => "StackOverflow"

def onRuntimeEvent (host : Host) (event : RuntimeEvent) : Host :=
  let heard := { host with runtimeEvents := host.runtimeEvents + 1 }
  match event with
  | .domainUnloaded domain => heard.adopt (heard.registry.unload domain)
  | .disabled => { heard with runtimeDisabled := true }
  | .assistantFired | .stackOverflow => heard

end Steward.Host
