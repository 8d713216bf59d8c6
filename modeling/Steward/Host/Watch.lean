import Steward.Host.Waiting

/-! Waits for monitors. While nobody can tell the owners of locks, and where the caller wishes so,
they are plain waits. Otherwise a wait goes slice by slice: after each slice that passed, the thread
shows which lock it waits for and looks for a ring. Monitors report to the lock trace. -/

set_option autoImplicit false

namespace Steward.Host

def endEnter (host : Host) (thread : ThreadId) : Host :=
  { host with detector := host.detector.endEnter thread }

/-- A thread hands a monitor over. -/
def setMonitor (host : Host) (thread : ThreadId) (serial : Nat) (cookie : Cookie) : Host :=
  let set := host.setSignal serial
  { set with trace := set.trace.onReleased thread cookie }

/-- Ask for the owner of a lock on behalf of a thread. -/
def askOwner (asker : ThreadId) (cookie : Cookie) (host : Host) : Option ThreadId × Host :=
  let (answer, owners) := host.owners.next cookie
  let asked := { host with owners }
  let ended := match answer.endEnter with
    | some thread => asked.endEnter thread
    | none => asked
  let set := match answer.sets.bind owners.monitors.get? with
    | some (serial, lock) => ended.setMonitor asker serial lock
    | none => ended
  (owners.ownerIn cookie answer, set)

theorem wakeOne_detector (host : Host) (target : Target) :
    (host.wakeOne target).detector = host.detector := by
  unfold wakeOne
  split <;> rfl

theorem setSignal_detector (host : Host) (serial : Nat) :
    (host.setSignal serial).detector = host.detector := by
  unfold setSignal
  split
  · rfl
  · simp only
    split
    · rfl
    · exact wakeOne_detector _ _

theorem keys_erase_sublist (waits : Deadlock.Waits) (thread : ThreadId) :
    (waits.erase thread).keys.Sublist waits.keys :=
  (List.filter_sublist.map Prod.fst)

/-- Answers make threads stop waiting, and make none wait. -/
theorem askOwner_waits (asker : ThreadId) (cookie : Cookie) (host : Host) :
    (askOwner asker cookie host).2.detector.waits.keys.Sublist host.detector.waits.keys := by
  have ended : ∀ answer : Deadlock.Prepared, ∀ asked : Host,
      (match answer.endEnter with
        | some thread => asked.endEnter thread
        | none => asked).detector.waits.keys.Sublist asked.detector.waits.keys := by
    intro answer asked
    split
    · exact keys_erase_sublist _ _
    · exact List.Sublist.refl _
  unfold askOwner
  simp only
  split
  · simp only [setMonitor, setSignal_detector]
    exact ended _ { host with owners := (host.owners.next cookie).2 }
  · exact ended _ { host with owners := (host.owners.next cookie).2 }

/-- The owners of locks as a host tells them to a thread. -/
def oracle (asker : ThreadId) : Deadlock.Oracle Host where
  ask := askOwner asker
  waits host := host.detector.waits
  waits_ask := askOwner_waits asker

/-- Look for a ring that a thread runs into, when it waits for a lock. -/
def detect (host : Host) (asker thread : ThreadId) (cookie : Cookie) :
    Option Deadlock.Report × Host :=
  if host.detector.hasOracle then (oracle asker).follow (.start thread cookie) host
  else (none, host)

/-- Show that a thread waits for a lock, and look for a ring. -/
def tryEnter (host : Host) (asker thread : ThreadId) (cookie : Cookie) :
    Option Deadlock.Report × Host :=
  { host with detector := host.detector.register thread cookie }.detect asker thread cookie

/-- Begin a wait for a monitor. -/
def startMonitorWait (host : Host) (thread : ThreadId) (serial : Nat) (cookie : Cookie)
    (timeout : Option Nat) (options : Sync.WaitOptions) : Host :=
  if options.unwatched || !host.detector.hasOracle then
    host.startWait thread (.signal serial) timeout options (.monitor cookie)
  else
    let backoff : Deadlock.Backoff :=
      { slice := host.config.deadlock.initialSlice, total := timeout,
        longest := host.config.deadlock.maxSlice }
    host.startWait thread (.signal serial) (some backoff.current) options (.watched cookie backoff)

/-- Report a ring, and count it. -/
def reportDeadlock (host : Host) (report : Deadlock.Report) : Host :=
  { host with
    detector := { host.detector with detections := host.detector.detections + 1 }
    trace := host.trace.onDeadlock report }

def noteAcquired (host : Host) (thread : ThreadId) (cookie : Cookie) (ending : Ending) : Host :=
  if ending.outcome.isSignaled then
    { host with trace := host.trace.onAcquired thread cookie }
  else host

/-- A slice of a watched wait passed: look for a ring, and go on if there is none and time is
left. -/
def sliceOver (host : Host) (thread : ThreadId) (wait : Wait) (cookie : Cookie)
    (backoff : Deadlock.Backoff) : Option Ending × Host :=
  let spent := backoff.spend
  let (report, looked) := host.tryEnter thread thread cookie
  match report with
  | some report => (some ⟨.deadlock report, none⟩, (looked.reportDeadlock report).endEnter thread)
  | none =>
      match spent.next? with
      | none => (some ⟨.timedOut, none⟩, looked.endEnter thread)
      | some next => (none, looked.startWait thread wait.target (some next.current) wait.options
          (.watched cookie next))

/-- What follows when a wait ended: the end of the operation it is part of, or the next slice. -/
def conclude (host : Host) (thread : ThreadId) (wait : Wait) (ending : Ending) :
    Option Ending × Host :=
  match wait.purpose with
  | .plain => (some ending, host)
  | .sleep => (some (if ending.outcome.isTimedOut then ⟨.signaled, none⟩ else ending), host)
  | .monitor cookie => (some ending, host.noteAcquired thread cookie ending)
  | .watched cookie backoff =>
      if ending.outcome.isTimedOut then host.sliceOver thread wait cookie backoff
      else (some ending, (host.endEnter thread).noteAcquired thread cookie ending)
  | .start =>
      if ending.outcome = .abandoned then
        (none, { host with leaving := host.leaving.insert thread .unbinding })
      else (none, host)
  | .shutdown => (some ending, { host with trace := host.trace.flush })

/-- Let a thread that is not asleep make a step of its wait. -/
def turn (host : Host) (thread : ThreadId) : Option Ending × Host :=
  match host.waits.get? thread with
  | none => (none, host)
  | some wait =>
      if wait.stage = .asleep then (none, host)
      else
        match { host with waits := host.waits.erase thread }.attempt thread wait with
        | (some ending, host) => host.conclude thread wait ending
        | (none, host) => (none, host)

end Steward.Host
