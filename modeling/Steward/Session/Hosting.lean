import Steward.Policy.Recorder
import Steward.Session.State

/-! The commands on a host as a whole: its managers, its notices, escalation, the events of the
runtime and of the collector, and its end. -/

set_option autoImplicit false

namespace Steward.Session

/-- Post a notice and tell whether it was queued. -/
def posted (session : Session) (event : Domain.Event) : Progress × Session :=
  let (accepted, events) := session.host.registry.events.post event
  { session with host := session.host.adopt { session.host.registry with events } }.answer
    (.flag accepted)

def collectionState (session : Session) (collection : Memory.Collection) : Progress × Session :=
  { session with host := { session.host with collection } }.answer
    (.list [.natural collection.blocking, .natural collection.suspensions,
      .flag collection.suspended, .natural collection.lastGeneration])

def applyPolicy (session : Session) (rejected : List String) : Progress × Session :=
  let (applied, heard) :=
    session.host.config.policy.apply Policy.Recorder.respond ⟨rejected, []⟩
  session.answer (.list [.attempt applied, .items .text heard.calls])

def performHost (session : Session) (thread : ThreadId) (command : HostCommand) :
    Progress × Session :=
  let host := session.host
  match command with
  | .manager kind =>
      session.answer
        (if host.offers kind then .list [.text kind.label, .text kind.debug] else .nothing)
  | .config =>
      session.answer (.list [.natural (FlagSet.bits host.config.managers),
        .natural host.config.policy.size, .natural Assembly.runtimeServed.length])
  | .applyPolicy rejected => session.applyPolicy rejected
  | .shutdown timeout => session.waiting (host.startShutdown thread timeout) .shutdown
  | .requestUnload domain => session.posted ⟨.unloadRequested, domain, none⟩
  | .post event => session.posted event
  | .poll timeout => session.waiting (host.startWait thread .notice timeout {} .plain) .notice
  | .purge domain =>
      let (dropped, events) := host.registry.events.purge domain
      { session with host := host.adopt { host.registry with events } }.answer (.natural dropped)
  | .queueLength =>
      let length := host.registry.events.size
      session.answer (.list [.natural length, .flag (length = 0)])
  | .escalated action =>
      let escalated := host.escalated action
      { session with host := escalated }.answer (.natural escalated.escalations)
  | .runtimeEvent event =>
      let heard := host.onRuntimeEvent event
      { session with host := heard }.answer
        (.list [.text event.label, .natural heard.runtimeEvents, .flag heard.runtimeDisabled])
  | .blocking => session.collectionState host.collection.block
  | .suspending => session.collectionState host.collection.start
  | .resumed generation => session.collectionState (host.collection.finish generation)
  | .collection => session.collectionState host.collection

end Steward.Session
