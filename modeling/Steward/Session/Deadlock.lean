import Steward.Host.Watch
import Steward.Session.State

/-! The commands on the deadlock detector, on the answers about owners of locks, and on the lock
trace. -/

set_option autoImplicit false

namespace Steward.Session

/-- Put changed answers about owners in place. -/
def withOwners (session : Session) (owners : Deadlock.Owners) : Progress × Session :=
  session.changed { session.host with owners }

def found (session : Session) (looked : Option Deadlock.Report × Host) : Progress × Session :=
  { session with host := looked.2 }.answer (.optional .report looked.1)

def performDeadlock (session : Session) (thread : ThreadId) (command : DeadlockCommand) :
    Progress × Session :=
  let host := session.host
  match command with
  | .install =>
      session.changed { host with detector := { host.detector with hasOracle := true } }
  | .own cookie owner => session.withOwners (host.owners.own cookie owner)
  | .disown cookie => session.withOwners (host.owners.disown cookie)
  | .script cookie answers => session.withOwners (host.owners.prepare cookie answers)
  | .asked =>
      let (asked, owners) := host.owners.takeAsked
      { session with host := { host with owners } }.answer (.items .cookie asked)
  | .tryEnter waiter cookie => session.found (host.tryEnter thread waiter cookie)
  | .detect waiter cookie => session.found (host.detect thread waiter cookie)
  | .endEnter waiter => session.changed (host.endEnter waiter)
  | .state =>
      session.answer (.list [.natural host.detector.waits.size, .natural host.detector.detections,
        .flag host.detector.hasOracle])

def traced (session : Session) (trace : Trace.Collector) : Progress × Session :=
  session.changed { session.host with trace }

def pair (pair : Cookie × Cookie) : Value := .list [.cookie pair.1, .cookie pair.2]

/-- The lines of the trace file, after what was collected went to the disk. -/
def readTrace (session : Session) : Progress × Session :=
  let trace := session.host.trace.flush
  let lines := trace.sink.lines
  { session with host := { session.host with trace } }.answer
    (.list [.flag !lines.isEmpty, .items .text lines])

def performTrace (session : Session) (command : TraceCommand) : Progress × Session :=
  let trace := session.host.trace
  match command with
  | .acquired thread cookie => session.traced (trace.onAcquired thread cookie)
  | .released thread cookie => session.traced (trace.onReleased thread cookie)
  | .deadlock report => session.traced (trace.onDeadlock report)
  | .enable enabled =>
      { session with host := { session.host with trace := trace.setEnabled enabled } }.answer
        (.flag enabled)
  | .held thread => session.answer (.items .cookie (trace.heldBy thread))
  | .order => session.answer (.list [.items pair trace.lockOrder, .items pair trace.inversions])
  | .state =>
      session.answer (.list [.flag trace.enabled, .natural trace.recorded,
        .flag trace.sink.hasFailed])
  | .flush => session.traced trace.flush
  | .take =>
      let (events, trace) := trace.take
      { session with host := { session.host with trace } }.answer
        (.optional (.items fun (event : Trace.Event) => .text event.line) events)
  | .readFile => session.readTrace

end Steward.Session
