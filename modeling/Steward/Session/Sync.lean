import Steward.Host.Watch
import Steward.Session.State

/-! The commands on locks, signals, semaphores and monitors. -/

set_option autoImplicit false

namespace Steward.Session

/-- Leave a lock that was entered for a moment: once before its time, if asked to, and once at its
end, whether or not that is still allowed. Tell who was inside. -/
def closeGuard (session : Session) (thread : ThreadId) (serial : Nat) (early : Bool) :
    Result × Session :=
  match session.host.locks.get? serial with
  | none => (.ok .nothing, session)
  | some lock =>
      let before := if early then (session.host.leaveLock thread serial lock).2 else session.host
      let after := match before.locks.get? serial with
        | some lock => (before.leaveLock thread serial lock).2
        | none => before
      (.ok (.optional .thread lock.owner?), { session with host := after })

def performOnLock (session : Session) (thread : ThreadId) (serial : Nat)
    (lock : Sync.CriticalSection) : LockCommand → Progress × Session
  | .create _ => session.answer .nothing
  | .enter =>
      session.waiting (session.host.startWait thread (.lock serial) none {} .plain) .nothing
  | .tryEnter =>
      match lock.enter? thread with
      | none => session.answer (.flag false)
      | some entered =>
          { session with host := { session.host with
              locks := session.host.locks.insert serial entered } }.answer (.flag true)
  | .leave => session.attempted (session.host.leaveLock thread serial lock) fun _ => .nothing
  | .guard early =>
      session.waiting (session.host.startWait thread (.lock serial) none {} .plain)
        (.guard serial early)
  | .setSpins spins =>
      { session with host := { session.host with
          locks := session.host.locks.insert serial { lock with spins } } }.answer
            (.natural lock.spins)
  | .state =>
      session.answer (.list [.optional .thread lock.owner?, .flag lock.hold.isSome,
        .natural lock.spins])

def performLock (session : Session) (thread : ThreadId) (name : String) (command : LockCommand) :
    Progress × Session :=
  match command with
  | .create spins =>
      let (serial, host) := session.host.addLock { spins }
      { session with locks := session.locks.insert name serial }.changed host
  | _ =>
      session.withNamed session.locks name fun serial =>
        session.performOnLock thread serial (session.host.locks.getD serial {}) command

def performOnSignal (session : Session) (thread : ThreadId) (serial : Nat) :
    SignalCommand → Progress × Session
  | .set => session.changed (session.host.setSignal serial)
  | .reset => session.changed (session.host.clearSignal serial)
  | .isSet | .create _ =>
      session.answer (.flag ((session.host.signals.get? serial).any Sync.Signal.isSet))
  | .wait timeout options =>
      session.waiting
        (session.host.startWait thread (.signal serial) timeout options .plain) .outcome

def performSignal (session : Session) (thread : ThreadId) (lasting : Bool) (name : String)
    (command : SignalCommand) : Progress × Session :=
  match command with
  | .create initial =>
      let (serial, host) := session.host.addSignal ⟨lasting, initial⟩
      (session.nameSignal lasting name serial).changed host
  | _ =>
      session.withNamed (session.signalNames lasting) name fun serial =>
        session.performOnSignal thread serial command

def performOnSemaphore (session : Session) (thread : ThreadId) (serial : Nat)
    (semaphore : Sync.Semaphore) : SemaphoreCommand → Progress × Session
  | .wait timeout options =>
      session.waiting (session.host.startWait thread (.semaphore serial) timeout options .plain)
        .outcome
  | .release slots =>
      session.attempted (session.host.releaseSemaphore serial slots semaphore) .natural
  | .count | .create _ _ => session.answer (.natural semaphore.count)

def performSemaphore (session : Session) (thread : ThreadId) (name : String)
    (command : SemaphoreCommand) : Progress × Session :=
  match command with
  | .create initial maximum =>
      match Sync.Semaphore.create initial maximum with
      | .error error => session.refuse error
      | .ok semaphore =>
          let (serial, host) := session.host.addSemaphore semaphore
          { session with semaphores := session.semaphores.insert name serial }.changed host
  | _ =>
      session.withNamed session.semaphores name fun serial =>
        match session.host.semaphores.get? serial with
        | none => session.complain (.noObject name)
        | some semaphore => session.performOnSemaphore thread serial semaphore command

def performOnMonitor (session : Session) (thread : ThreadId) (serial : Nat) (cookie : Cookie) :
    MonitorCommand → Progress × Session
  | .set => session.changed (session.host.setMonitor thread serial cookie)
  | .reset => session.changed (session.host.clearSignal serial)
  | .cookie | .create _ => session.answer (.text cookie.text)
  | .wait timeout options =>
      session.waiting (session.host.startMonitorWait thread serial cookie timeout options)
        .monitorOutcome

def performMonitor (session : Session) (thread : ThreadId) (name : String)
    (command : MonitorCommand) : Progress × Session :=
  match command with
  | .create cookie =>
      let (serial, host) := session.host.addSignal ⟨false, false⟩
      session.changed { host with owners := host.owners.nameMonitor name serial cookie }
  | _ =>
      session.withNamed session.host.owners.monitors name fun monitor =>
        session.performOnMonitor thread monitor.1 monitor.2 command

end Steward.Session
