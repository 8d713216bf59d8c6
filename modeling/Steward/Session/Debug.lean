import Steward.Host.Threads
import Steward.Session.State

/-! The diagnostic texts of a session's objects. -/

set_option autoImplicit false

namespace Steward.Session

/-- The text of an object that goes by a serial number. -/
def debugOf {α : Type} (session : Session) (names : Assoc String Nat) (objects : Assoc Nat α)
    (name : String) (write : α → String) : Progress × Session :=
  session.withNamed names name fun serial =>
    match objects.get? serial with
    | some object => session.answer (.text (write object))
    | none => session.complain (.noObject name)

def debugMonitor (session : Session) (serial : Nat) (cookie : Cookie) : String :=
  Text.record "MonitorEvent"
    [("cookie", cookie.debug),
      ("set", toString ((session.host.signals.get? serial).any Sync.Signal.isSet))]

def performDebug (session : Session) (thread : ThreadId) (subject : Subject) : Progress × Session :=
  let host := session.host
  match subject with
  | .host => session.answer (.text host.debug)
  | .domains => session.answer (.text host.registry.debug)
  | .tasks => session.answer (.text host.tasks.debug)
  | .sync => session.answer (.text (Text.record "SyncManager" [("detector", host.detector.debug)]))
  | .detector => session.answer (.text host.detector.debug)
  | .trace => session.answer (.text host.trace.debug)
  | .channels => session.answer (.text host.crew.debug)
  | .pool => session.answer (.text host.workItems.debug)
  | .collection => session.answer (.text host.collection.debug)
  | .runningThread => session.answer (.text ((host.control thread).debug thread))
  | .lock name => session.debugOf session.locks host.locks name Sync.CriticalSection.debug
  | .autoSignal name => session.debugOf session.passingSignals host.signals name Sync.Signal.debug
  | .manualSignal name => session.debugOf session.lastingSignals host.signals name Sync.Signal.debug
  | .semaphore name => session.debugOf session.semaphores host.semaphores name Sync.Semaphore.debug
  | .heap name => session.debugOf session.heaps host.heaps name Memory.Heap.debug
  | .monitor name =>
      session.withNamed host.owners.monitors name fun monitor =>
        session.answer (.text (session.debugMonitor monitor.1 monitor.2))
  | .binding name =>
      session.withNamed session.bindings name fun binding => session.answer (.text binding.debug)
  | .task name =>
      session.withNamed session.tasks name fun serial =>
        let task := host.task serial
        session.answer (.text (task.debug (host.control task.thread)))

end Steward.Session
