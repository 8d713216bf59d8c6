import Steward.Proofs.Domain.Backlog
import Steward.Proofs.Host.Rousing

/-! What becomes of the objects that threads share, and who is told. Few calls change a semaphore or
a lock; apart from the calls that are made for it, signals are set only by answers that are given
while a thread looks for a ring. Whatever becomes available, a wake-up goes with it. -/

set_option autoImplicit false

namespace Steward.Deadlock.Oracle

variable {World Note : Type}

/-- Somebody who knows the owners of locks, and notes what happens while answers are given. -/
def noting (oracle : Oracle World) (note : Cookie → World → List Note) :
    Oracle (World × List Note) where
  ask cookie state :=
    ((oracle.ask cookie state.1).1, (oracle.ask cookie state.1).2, state.2 ++ note cookie state.1)
  waits state := oracle.waits state.1
  waits_ask cookie state := oracle.waits_ask cookie state.1

/-- Notes do not change a search. -/
theorem follow_noting (oracle : Oracle World) (note : Cookie → World → List Note) (walk : Walk)
    (world : World) (notes : List Note) :
    ((oracle.noting note).follow walk (world, notes)).1 = (oracle.follow walk world).1 ∧
      ((oracle.noting note).follow walk (world, notes)).2.1 = (oracle.follow walk world).2 := by
  induction left : walk.ahead (oracle.waits world) using Nat.strongRecOn
    generalizing walk world notes with
  | ind left ih =>
    rw [follow_eq, follow_eq]
    simp only [noting]
    cases met : walk.meet (oracle.waits (oracle.ask walk.lock world).2)
        (oracle.ask walk.lock world).1 with
    | verdict report => exact ⟨rfl, rfl⟩
    | onward next =>
      refine ih _ ?_ next _ _ rfl
      rw [← left]
      exact Nat.lt_of_lt_of_le (Walk.ahead_of_meet met)
        (walk.ahead_le_of_sublist (oracle.waits_ask walk.lock world))

end Steward.Deadlock.Oracle

/-- A gate that nobody waits at any more, whether it was opened or its thread was cancelled. -/
def Steward.Tasks.Gate.isOpen : Steward.Tasks.Gate → Bool
  | suspended => false
  | running | cancelled => true

namespace Steward.Host

open Deadlock

variable {host middle after : Host}

/-! ### What is there to be waited for -/

/-- Everybody who waits for this gets it. -/
def isOpen (host : Host) : Target → Bool
  | .signal serial => (host.signals.get? serial).any fun signal => signal.lasting && signal.isSet
  | .gate thread => (host.control thread).gate.isOpen
  | .exit thread => (host.control thread).exited
  | _ => false

/-- So many of those who wait for this get it. -/
def slots (host : Host) : Target → Nat
  | .signal serial =>
      ((host.signals.get? serial).any fun signal => !signal.lasting && signal.isSet).toNat
  | .semaphore serial => ((host.semaphores.get? serial).map Sync.Semaphore.count).getD 0
  | .lock serial => ((host.locks.get? serial).any fun lock => lock.hold.isNone).toNat
  | .notice => host.registry.events.pending.length
  | _ => 0

/-- What is waited for is there. -/
def names (host : Host) : Target → Bool
  | .signal serial | .semaphore serial | .lock serial => decide (serial < host.nextSerial)
  | _ => true

/-- No object that threads share changes, but that some signals are set. -/
structure Still (sets : List Nat) (host after : Host) : Prop where
  signals : ∀ serial, after.signals.get? serial =
    if serial ∈ sets then (host.signals.get? serial).map Sync.Signal.set
    else host.signals.get? serial
  semaphores : after.semaphores = host.semaphores
  locks : after.locks = host.locks
  nextSerial : after.nextSerial = host.nextSerial

namespace Still

variable {sets more : List Nat}

theorem of_same (signals : after.signals = host.signals)
    (semaphores : after.semaphores = host.semaphores) (locks : after.locks = host.locks)
    (nextSerial : after.nextSerial = host.nextSerial) : Still [] host after :=
  ⟨fun serial => by simp [signals], semaphores, locks, nextSerial⟩

theorem refl (host : Host) : Still [] host host := .of_same rfl rfl rfl rfl

theorem trans (first : Still sets host middle) (second : Still more middle after) :
    Still (sets ++ more) host after where
  signals serial := by
    rw [second.signals, first.signals]
    by_cases early : serial ∈ sets
    · by_cases late : serial ∈ more
      · simp only [early, late, List.mem_append, or_self, if_true, Option.map_map]
        rfl
      · simp [early, late]
    · simp [early]
  semaphores := second.semaphores.trans first.semaphores
  locks := second.locks.trans first.locks
  nextSerial := second.nextSerial.trans first.nextSerial

end Still

/-- Whatever became available has its wake-up. -/
structure Offers (wakeUps : List WakeUp) (host after : Host) : Prop where
  opens : ∀ target, host.names target = true → after.isOpen target = true →
    host.isOpen target = true ∨ ⟨target, true⟩ ∈ wakeUps
  slots : ∀ target, host.names target = true →
    after.slots target ≤ host.slots target + wakeUps.count ⟨target, false⟩
  alerts : ∀ thread wait, host.waits.get? thread = some wait → wait.options.alertable = true →
    after.isAlerted thread = true →
      host.isAlerted thread = true ∨ ⟨wait.target, true⟩ ∈ wakeUps
  /-- A gate that was moved stays so; only new threads have another. -/
  closed : ∀ thread, (after.control thread).gate.isOpen = false →
    (host.control thread).gate.isOpen = false ∨ thread.value < after.nextThread

namespace Offers

variable {wakeUps : List WakeUp}

/-- A change that only bears on gates, exits and alerts. -/
theorem of_controls (signals : after.signals = host.signals)
    (semaphores : after.semaphores = host.semaphores) (locks : after.locks = host.locks)
    (events : after.registry.events = host.registry.events)
    (gates : ∀ thread, (after.control thread).gate.isOpen = true →
      (host.control thread).gate.isOpen = true ∨ ⟨.gate thread, true⟩ ∈ wakeUps)
    (exits : ∀ thread, (after.control thread).exited = true →
      (host.control thread).exited = true ∨ ⟨.exit thread, true⟩ ∈ wakeUps)
    (alerts : ∀ thread, (after.control thread).alerted = true →
      (host.control thread).alerted = true ∨ ∀ wait, host.waits.get? thread = some wait →
        wait.options.alertable = true → ⟨wait.target, true⟩ ∈ wakeUps)
    (moved : ∀ thread, (host.control thread).gate.isOpen = true →
      (after.control thread).gate.isOpen = true) :
    Offers wakeUps host after where
  opens target _ there := by
    cases target with
    | signal serial => exact .inl (by simpa only [isOpen, signals] using there)
    | gate thread => exact gates thread there
    | exit thread => exact exits thread there
    | semaphore | lock | notice | workers | sleep => cases there
  slots target _ := by
    cases target <;> simp only [Host.slots, signals, semaphores, locks, events, Nat.le_add_right]
  alerts thread wait found alertable alerted :=
    (alerts thread alerted).imp_right fun told => told wait found alertable
  closed thread there := by
    cases before : (host.control thread).gate.isOpen with
    | false => exact .inl rfl
    | true => rw [moved thread before] at there; cases there

theorem of_same (signals : after.signals = host.signals)
    (semaphores : after.semaphores = host.semaphores) (locks : after.locks = host.locks)
    (controls : after.controls = host.controls)
    (events : after.registry.events = host.registry.events) : Offers wakeUps host after := by
  have same : ∀ thread, after.control thread = host.control thread := fun thread => by
    rw [control, controls, control]
  refine of_controls signals semaphores locks events ?_ ?_ ?_
    (fun thread there => same thread ▸ there) <;> intro thread there <;>
    exact .inl (same thread ▸ there)

end Offers

/-- Whatever became available has its wake-up, and these wake-ups reached those who sleep. -/
structure Told (wakeUps : List WakeUp) (host after : Host) : Prop extends
    Offers wakeUps host after where
  waits : after.waits = (host.deliverAll wakeUps).waits
  nextThread : host.nextThread ≤ after.nextThread

theorem names_congr (nextSerial : after.nextSerial = host.nextSerial) (target : Target) :
    after.names target = host.names target := by
  cases target <;> simp [names, nextSerial]

namespace Told

variable {wakeUps more : List WakeUp}

theorem trans (first : Told wakeUps host middle) (second : Told more middle after)
    (nextSerial : middle.nextSerial = host.nextSerial) : Told (wakeUps ++ more) host after where
  opens target named there := by
    rcases second.opens target (names_congr nextSerial target ▸ named) there with before | told
    · exact (first.opens target named before).imp_right (List.mem_append_left _)
    · exact .inr (List.mem_append_right _ told)
  slots target named := by
    have early := first.slots target named
    have late := second.slots target (names_congr nextSerial target ▸ named)
    rw [List.count_append]
    omega
  alerts thread wait found alertable alerted := by
    obtain ⟨woken, roused⟩ := host.rouses_deliverAll wakeUps
    obtain ⟨later, there, target, options⟩ : ∃ later, middle.waits.get? thread = some later ∧
        later.target = wait.target ∧ later.options = wait.options := by
      rw [first.waits, roused, get?_rouse, found]
      refine ⟨_, rfl, ?_⟩
      dsimp only
      split <;> simp
    rcases second.alerts thread later there (by rw [options, alertable]) alerted with before | told
    · exact (first.alerts thread wait found alertable before).imp_right (List.mem_append_left _)
    · exact .inr (List.mem_append_right _ (target ▸ told))
  closed thread there := by
    rcases second.closed thread there with before | numbered
    · exact (first.closed thread before).imp_right fun numbered =>
        Nat.lt_of_lt_of_le numbered second.nextThread
    · exact .inr numbered
  waits := by
    rw [deliverAll_append, second.waits]
    exact waits_deliverAll first.waits more
  nextThread := Nat.le_trans first.nextThread second.nextThread

end Told

/-- After a change that left the waits alone, the wake-ups for it reach those who sleep. -/
theorem Offers.told {wakeUps : List WakeUp} (offers : Offers wakeUps host middle)
    (waits : middle.waits = host.waits) (nextThread : host.nextThread ≤ middle.nextThread) :
    Told wakeUps host (middle.deliverAll wakeUps) := by
  obtain ⟨woken, roused⟩ := middle.rouses_deliverAll wakeUps
  have waited := waits_deliverAll waits wakeUps
  rw [roused] at waited ⊢
  exact ⟨⟨offers.opens, offers.slots, offers.alerts, offers.closed⟩, waited, nextThread⟩

/-- No object changes but that some signals are set, and nothing becomes available untold. -/
structure Kept (sets : List Nat) (wakeUps : List WakeUp) (host after : Host) : Prop extends
  Still sets host after, Told wakeUps host after

namespace Kept

variable {sets others : List Nat} {wakeUps more : List WakeUp}

theorem of_same (signals : after.signals = host.signals)
    (semaphores : after.semaphores = host.semaphores) (locks : after.locks = host.locks)
    (nextSerial : after.nextSerial = host.nextSerial) (waits : after.waits = host.waits)
    (controls : after.controls = host.controls)
    (events : after.registry.events = host.registry.events)
    (nextThread : after.nextThread = host.nextThread) : Kept [] [] host after where
  toStill := .of_same signals semaphores locks nextSerial
  toOffers := .of_same signals semaphores locks controls events
  waits := waits
  nextThread := Nat.le_of_eq nextThread.symm

theorem refl (host : Host) : Kept [] [] host host := .of_same rfl rfl rfl rfl rfl rfl rfl rfl

theorem trans (first : Kept sets wakeUps host middle) (second : Kept others more middle after) :
    Kept (sets ++ others) (wakeUps ++ more) host after :=
  ⟨first.toStill.trans second.toStill, first.toTold.trans second.toTold first.nextSerial⟩

theorem of_change (still : Still sets host middle) (offers : Offers wakeUps host middle)
    (waits : middle.waits = host.waits) (nextThread : host.nextThread ≤ middle.nextThread) :
    Kept sets wakeUps host (middle.deliverAll wakeUps) := by
  obtain ⟨woken, roused⟩ := middle.rouses_deliverAll wakeUps
  refine ⟨?_, offers.told waits nextThread⟩
  rw [roused]
  exact ⟨still.signals, still.semaphores, still.locks, still.nextSerial⟩

end Kept

/-! ### Notices -/

/-- Each notice that is queued anew is told to one of those who wait for notices. -/
def notices (host : Host) (registry : Domain.Registry) : List WakeUp :=
  List.replicate (registry.events.accepted - host.registry.events.accepted) ⟨.notice, false⟩

theorem kept_adopt (host : Host) {registry : Domain.Registry}
    (accounts : host.registry.events.Accounts registry.events) :
    Kept [] (host.notices registry) host (host.adopt registry) := by
  have offers : Offers (host.notices registry) host { host with registry } := by
    refine ⟨fun target _ there => .inl there, fun target _ => ?_,
      fun _ _ _ _ alerted => .inl alerted, fun _ there => .inl there⟩
    cases target with
    | notice =>
      unfold Domain.EventQueue.Accounts at accounts
      simp only [Host.slots, notices, List.count_replicate_self]
      omega
    | signal | semaphore | lock | gate | exit | workers | sleep => exact Nat.le_add_right _ _
  rw [adopt, wakeSome_eq_deliverAll]
  exact .of_change (.of_same rfl rfl rfl rfl) offers rfl (Nat.le_refl _)

/-! ### Signals -/

/-- A lasting signal that is set is told to everyone who waits for it, any other to one. -/
def setWakeUps (host : Host) (serial : Nat) : List WakeUp :=
  ((host.signals.get? serial).map fun signal => ⟨.signal serial, signal.lasting⟩).toList

theorem Still.setWakeUps {sets : List Nat} (still : Still sets host after) (serial : Nat) :
    after.setWakeUps serial = host.setWakeUps serial := by
  unfold Host.setWakeUps
  rw [still.signals]
  split
  · rw [Option.map_map]
    rfl
  · rfl

theorem still_set (host : Host) {serial : Nat} {signal : Sync.Signal}
    (found : host.signals.get? serial = some signal) :
    Still [serial] host { host with signals := host.signals.insert serial signal.set } := by
  refine ⟨fun other => ?_, rfl, rfl, rfl⟩
  by_cases same : other = serial <;> simp [same, found]

theorem offers_set (host : Host) {serial : Nat} {signal : Sync.Signal}
    (found : host.signals.get? serial = some signal) :
    Offers [⟨.signal serial, signal.lasting⟩] host
      { host with signals := host.signals.insert serial signal.set } := by
  refine ⟨fun target _ there => ?_, fun target _ => ?_, fun _ _ _ _ alerted => .inl alerted,
    fun _ there => .inl there⟩
  · cases target with
    | signal other =>
      by_cases same : other = serial
      · subst same
        simp only [isOpen, Assoc.get?_insert_self, Option.any_some, Sync.Signal.set,
          Bool.and_true] at there
        exact .inr (by simp [there])
      · exact .inl (by simpa [isOpen, same] using there)
    | semaphore | lock | gate | exit | notice | workers | sleep => exact .inl there
  · cases target with
    | signal other =>
      by_cases same : other = serial
      · subst same
        cases lasts : signal.lasting <;> simp [Host.slots, Sync.Signal.set, lasts]
      · simp [Host.slots, same]
    | semaphore | lock | gate | exit | notice | workers | sleep => exact Nat.le_add_right _ _

theorem kept_setSignal (host : Host) (serial : Nat) :
    Kept [serial] (host.setWakeUps serial) host (host.setSignal serial) := by
  cases found : host.signals.get? serial with
  | none =>
    have nothing : host.setSignal serial = host := by simp [setSignal, found]
    have untold : host.setWakeUps serial = [] := by simp [setWakeUps, found]
    rw [nothing, untold]
    refine ⟨⟨fun other => ?_, rfl, rfl, rfl⟩, (Kept.refl host).toTold⟩
    by_cases same : other = serial <;> simp [same, found]
  | some signal =>
    have kept := Kept.of_change (host.still_set found) (host.offers_set found) rfl (Nat.le_refl _)
    cases lasts : signal.lasting <;>
      simpa [setSignal, setWakeUps, found, deliverAll, deliver, lasts] using kept

theorem kept_setMonitor (host : Host) (thread : ThreadId) (serial : Nat) (cookie : Cookie) :
    Kept [serial] (host.setWakeUps serial) host (host.setMonitor thread serial cookie) := by
  have traced : Kept [] [] (host.setSignal serial) (host.setMonitor thread serial cookie) :=
    .of_same rfl rfl rfl rfl rfl rfl rfl rfl
  simpa using (host.kept_setSignal serial).trans traced

/-- The signals that are set while the owner of a lock is asked for. -/
def answerSets (cookie : Cookie) (host : Host) : List Nat :=
  let (answer, owners) := host.owners.next cookie
  match answer.sets.bind owners.monitors.get? with
  | some (serial, _) => [serial]
  | none => []

theorem kept_askOwner (host : Host) (asker : ThreadId) (cookie : Cookie) :
    Kept (host.answerSets cookie) ((host.answerSets cookie).flatMap host.setWakeUps) host
      (askOwner asker cookie host).2 := by
  let asked := { host with owners := (host.owners.next cookie).2 }
  unfold askOwner answerSets
  simp only
  cases (host.owners.next cookie).1.endEnter with
  | none =>
    have first : Kept [] [] host asked := .of_same rfl rfl rfl rfl rfl rfl rfl rfl
    cases (host.owners.next cookie).1.sets.bind (host.owners.next cookie).2.monitors.get? with
    | none => exact first
    | some monitor =>
      have told := first.toStill.setWakeUps monitor.1
      simpa [told] using first.trans (kept_setMonitor _ asker monitor.1 monitor.2)
  | some thread =>
    have first : Kept [] [] host (asked.endEnter thread) := .of_same rfl rfl rfl rfl rfl rfl rfl rfl
    cases (host.owners.next cookie).1.sets.bind (host.owners.next cookie).2.monitors.get? with
    | none => exact first
    | some monitor =>
      have told := first.toStill.setWakeUps monitor.1
      simpa [told] using first.trans (kept_setMonitor _ asker monitor.1 monitor.2)

/-- The signals that are set while a thread looks for a ring. -/
def ringSets (host : Host) (asker thread : ThreadId) (cookie : Cookie) : List Nat :=
  if host.detector.hasOracle then
    (((oracle asker).noting answerSets).follow (.start thread cookie) (host, [])).2.2
  else []

theorem kept_detect (host : Host) (asker thread : ThreadId) (cookie : Cookie) :
    Kept (host.ringSets asker thread cookie)
      ((host.ringSets asker thread cookie).flatMap host.setWakeUps) host
      (host.detect asker thread cookie).2 := by
  unfold detect ringSets
  split
  · let settled : Host × List Nat → Prop := fun state =>
      Kept state.2 (state.2.flatMap host.setWakeUps) host state.1
    have asked : ∀ state, settled state → ∀ other,
        settled (((oracle asker).noting answerSets).ask other state).2 := by
      intro state kept other
      have next := kept.trans (state.1.kept_askOwner asker other)
      have told : state.1.setWakeUps = host.setWakeUps := funext kept.toStill.setWakeUps
      rwa [told, ← List.flatMap_append] at next
    have noted : settled (((oracle asker).noting answerSets).follow (.start thread cookie)
        (host, [])).2 := Oracle.follow_keeps asked _ (.refl host)
    unfold settled at noted
    rwa [(Oracle.follow_noting (oracle asker) answerSets (.start thread cookie) host []).2] at noted
  · exact .refl host

theorem kept_tryEnter (host : Host) (asker thread : ThreadId) (cookie : Cookie) :
    Kept (ringSets { host with detector := host.detector.register thread cookie } asker thread
        cookie)
      ((ringSets { host with detector := host.detector.register thread cookie } asker thread
        cookie).flatMap host.setWakeUps) host (host.tryEnter asker thread cookie).2 := by
  have shown : Kept [] [] host
      { host with detector := host.detector.register thread cookie } :=
    .of_same rfl rfl rfl rfl rfl rfl rfl rfl
  exact shown.trans (kept_detect _ asker thread cookie)

/-! ### Alerts, gates and exits -/

/-- A thread that is alerted is told where it waits, if alerts can end its wait. -/
def alertWakeUps (host : Host) (thread : ThreadId) : List WakeUp :=
  match host.waits.get? thread with
  | some wait => if wait.options.alertable then [⟨wait.target, true⟩] else []
  | none => []

/-- What a thread's control becomes when one thread's control is changed. -/
theorem control_modify (host : Host) (thread : ThreadId)
    (change : Tasks.Control → Tasks.Control) (other : ThreadId) :
    control { host with controls := host.controls.modify thread change } other =
        host.control other ∨
      other = thread ∧ control { host with controls := host.controls.modify thread change } other =
        change (host.control other) := by
  simp only [control, Assoc.getD, Assoc.get?_modify]
  cases host.controls.get? other with
  | none => exact .inl rfl
  | some there =>
    by_cases same : other = thread
    · exact .inr ⟨same, by simp [same]⟩
    · exact .inl (by simp [same])

/-- One thread's control changes, but not its gate. If it is alerted or has ended from then on, this
is told. -/
theorem offers_modify (host : Host) {thread : ThreadId} {change : Tasks.Control → Tasks.Control}
    {wakeUps : List WakeUp} (gate : ∀ control, (change control).gate = control.gate)
    (exits : (∀ control, (change control).exited = control.exited) ∨
      ⟨.exit thread, true⟩ ∈ wakeUps)
    (alerts : (∀ control, (change control).alerted = true → control.alerted = true) ∨
      ∀ wait, host.waits.get? thread = some wait → wait.options.alertable = true →
        ⟨wait.target, true⟩ ∈ wakeUps) :
    Offers wakeUps host { host with controls := host.controls.modify thread change } := by
  have changed := host.control_modify thread change
  refine .of_controls rfl rfl rfl rfl (fun other there => .inl ?_) (fun other there => ?_)
    (fun other there => ?_) fun other there => ?_
  · rcases changed other with same | ⟨_, same⟩
    · rwa [same] at there
    · rwa [same, gate] at there
  · rcases changed other with same | ⟨rfl, same⟩
    · exact .inl (same ▸ there)
    · exact exits.imp_left fun kept => by rwa [same, kept] at there
  · rcases changed other with same | ⟨rfl, same⟩
    · exact .inl (same ▸ there)
    · exact alerts.imp_left fun kept => kept _ (same ▸ there)
  · rcases changed other with same | ⟨_, same⟩
    · rwa [same]
    · rwa [same, gate]

theorem kept_alert (host : Host) (thread : ThreadId) :
    Kept [] (host.alertWakeUps thread) host (host.alert thread) := by
  let alerted := { host with
    controls := host.controls.modify thread fun control => { control with alerted := true } }
  have offers : Offers (host.alertWakeUps thread) host alerted :=
    host.offers_modify (fun _ => rfl) (.inl fun _ => rfl)
      (.inr fun wait found alertable => by simp [alertWakeUps, found, alertable])
  have kept : Kept [] (host.alertWakeUps thread) host
      (alerted.deliverAll (host.alertWakeUps thread)) :=
    .of_change (.of_same rfl rfl rfl rfl) offers rfl (Nat.le_refl _)
  have made : host.alert thread = alerted.deliverAll (host.alertWakeUps thread) := by
    unfold alert alertWakeUps
    cases host.waits.get? thread with
    | none => rfl
    | some wait => cases alertable : wait.options.alertable <;> simp only [alertable] <;> rfl
  exact made ▸ kept

/-- The thread at a gate that moves is told so. -/
def gateWakeUps (host : Host) (thread : ThreadId) : List WakeUp :=
  if (host.control thread).gate = .suspended then [⟨.gate thread, true⟩] else []

theorem kept_moveGate (host : Host) (thread : ThreadId) (gate : Tasks.Gate) :
    Kept [] (host.gateWakeUps thread) host (host.moveGate thread gate).2 := by
  unfold moveGate gateWakeUps Tasks.Control.move?
  by_cases closed : (host.control thread).gate = .suspended
  · rw [if_pos closed, if_pos closed]
    let moved := { host with
      controls := host.controls.insert thread { host.control thread with gate } }
    have others : ∀ other, moved.control other =
        if other = thread then { host.control thread with gate } else host.control other := by
      intro other
      simp only [moved, control, Assoc.getD, Assoc.get?_insert]
      split <;> rfl
    have offers : Offers [⟨.gate thread, true⟩] host moved := by
      refine .of_controls rfl rfl rfl rfl (fun other there => ?_) (fun other there => ?_)
        (fun other there => ?_) fun other there => ?_
      · by_cases same : other = thread
        · exact .inr (by simp [same])
        · rw [others, if_neg same] at there
          exact .inl there
      · rw [others] at there
        split at there
        · next same => exact .inl (same ▸ there)
        · exact .inl there
      · rw [others] at there
        split at there
        · next same => exact .inl (same ▸ there)
        · exact .inl there
      · rw [others]
        split
        · next same =>
          rw [same, closed] at there
          cases there
        · exact there
    exact .of_change (.of_same rfl rfl rfl rfl) offers rfl (Nat.le_refl _)
  · rw [if_neg closed, if_neg closed]
    exact .refl host

theorem kept_startTask (host : Host) (serial : Nat) :
    Kept [] (host.gateWakeUps (host.task serial).thread) host (host.startTask serial).2 := by
  have moved := host.kept_moveGate (host.task serial).thread .running
  unfold startTask
  simp only
  split
  · next made => rwa [made] at moved
  · next made => rwa [made] at moved

/-- A thread that is unlisted before it was started is told so. -/
def removeWakeUps (host : Host) (thread : ThreadId) : List WakeUp :=
  if (host.tasks.remove thread).1 then host.gateWakeUps thread else []

theorem kept_removeTask (host : Host) (thread : ThreadId) :
    Kept [] (host.removeWakeUps thread) host (host.removeTask thread).2 := by
  have left : Kept [] [] host { host with tasks := (host.tasks.remove thread).2 } :=
    .of_same rfl rfl rfl rfl rfl rfl rfl rfl
  unfold removeTask removeWakeUps
  simp only
  split
  · exact left.trans (kept_moveGate { host with tasks := (host.tasks.remove thread).2 } thread _)
  · exact left

theorem kept_setPriority (host : Host) (caller : ThreadId) (serial : Nat) (level : Int) :
    Kept [] [] host (host.setPriority caller serial level).2 := by
  unfold setPriority
  split
  · exact .refl host
  · next verdict _ =>
    cases verdict with
    | none => exact .refl host
    | some priority =>
      exact ⟨.of_same rfl rfl rfl rfl, host.offers_modify (fun _ => rfl) (.inl fun _ => rfl)
        (.inl fun _ alerted => alerted), rfl, Nat.le_refl _⟩

theorem kept_releaseThread (host : Host) (thread : ThreadId) :
    Kept [] [] host (host.releaseThread thread).2 := by
  have adopted : ∀ {gone : Option Domain.MainExit} {registry : Domain.Registry},
      host.registry.releaseThread thread = .ok (gone, registry) →
        Kept [] [] host (host.adopt registry) := by
    intro gone registry released
    have events := host.registry.events_releaseThread released
    have quiet : host.notices registry = [] := by simp [notices, events]
    exact quiet ▸ host.kept_adopt (events ▸ .refl _)
  unfold releaseThread
  split
  · exact .refl host
  · next released => exact adopted released
  · next released => exact (adopted released).trans (.of_same rfl rfl rfl rfl rfl rfl rfl rfl)

/-- The steps in which a thread ends tell those who wait for its gate or for its exit. -/
def departWakeUps (host : Host) (thread : ThreadId) : List WakeUp :=
  match host.leaving.get? thread with
  | some .unlisting => host.removeWakeUps thread
  | some .marking => [⟨.exit thread, true⟩]
  | some .unbinding | none => []

theorem kept_exit (host : Host) (thread : ThreadId) :
    Kept [] [⟨.exit thread, true⟩] host ({ host with
      controls := host.controls.modify thread fun control => { control with exited := true }
      leaving := host.leaving.erase thread }.wakeAll (.exit thread)) := by
  let marked := { host with
    controls := host.controls.modify thread fun control => { control with exited := true }
    leaving := host.leaving.erase thread }
  have modified : Offers [⟨.exit thread, true⟩] host { host with
      controls := host.controls.modify thread fun control => { control with exited := true } } :=
    host.offers_modify (fun _ => rfl) (.inr (List.mem_singleton_self _))
      (.inl fun _ alerted => alerted)
  have offers : Offers [⟨.exit thread, true⟩] host marked :=
    ⟨modified.opens, modified.slots, modified.alerts, modified.closed⟩
  exact .of_change (.of_same rfl rfl rfl rfl) offers rfl (Nat.le_refl _)

theorem kept_depart (host : Host) (thread : ThreadId) :
    Kept [] (host.departWakeUps thread) host (host.depart thread) := by
  unfold depart departWakeUps
  cases host.leaving.get? thread with
  | none => exact .refl host
  | some departure =>
    cases departure with
    | unbinding =>
      have left : Kept [] [] (host.releaseThread thread).2
          { (host.releaseThread thread).2 with
            leaving := (host.releaseThread thread).2.leaving.insert thread .unlisting } :=
        .of_same rfl rfl rfl rfl rfl rfl rfl rfl
      exact (host.kept_releaseThread thread).trans left
    | unlisting =>
      have left : Kept [] [] (host.removeTask thread).2
          { (host.removeTask thread).2 with
            leaving := (host.removeTask thread).2.leaving.insert thread .marking } :=
        .of_same rfl rfl rfl rfl rfl rfl rfl rfl
      simpa using (host.kept_removeTask thread).trans left
    | marking => exact host.kept_exit thread

/-- Slots that are given back are told to as many of those who wait for them. -/
def slotWakeUps (host : Host) (serial slots : Nat) : List WakeUp :=
  match (host.semaphores.get? serial).map (Sync.Semaphore.release · slots) with
  | some (.ok _) => List.replicate slots ⟨.semaphore serial, false⟩
  | some (.error _) | none => []

/-- A lock that was left for the last time is told to one of those who wait for it. -/
def leaveWakeUps (host : Host) (thread : ThreadId) (serial : Nat) : List WakeUp :=
  match (host.locks.get? serial).map (Sync.CriticalSection.leave · thread) with
  | some (.ok left) => if left.hold = none then [⟨.lock serial, false⟩] else []
  | some (.error _) | none => []

/-- The runtime's report that a domain was unloaded is told to those who wait for notices. -/
def eventWakeUps (host : Host) : RuntimeEvent → List WakeUp
  | .domainUnloaded domain => host.notices (host.registry.unload domain)
  | .disabled | .assistantFired | .stackOverflow => []

theorem kept_onRuntimeEvent (host : Host) (event : RuntimeEvent) :
    Kept [] (host.eventWakeUps event) host (host.onRuntimeEvent event) := by
  have counted : Kept [] [] host { host with runtimeEvents := host.runtimeEvents + 1 } :=
    .of_same rfl rfl rfl rfl rfl rfl rfl rfl
  cases event with
  | domainUnloaded domain =>
    exact counted.trans (kept_adopt { host with runtimeEvents := host.runtimeEvents + 1 }
      (host.registry.accounts_unload domain))
  | disabled | assistantFired | stackOverflow => exact .of_same rfl rfl rfl rfl rfl rfl rfl rfl

theorem kept_escalated (host : Host) (action : Policy.Action) :
    Kept [] [] host (host.escalated action) := by
  refine .of_same rfl rfl rfl rfl rfl rfl ?_ rfl
  unfold escalated
  split <;> rfl

/-! ### Calls -/

/-- A call that makes no thread and no object, begins and ends no wait, lets no time pass, and
changes no object but by setting signals. -/
def Call.sparesObjects : Call → Bool
  | .spawn | .createTask _ | .wait _ _ _ _ | .sleep _ _ _ | .monitorWait _ _ _ _ _
  | .shutdown _ _ | .turn _ | .elapse _ | .addSignal _ | .clearSignal _ | .addSemaphore _
  | .releaseSemaphore _ _ | .addLock _ | .tryLock _ _ | .leaveLock _ _ | .restCrew => false
  | _ => true

/-- The signals that a call sets, apart from a turn. -/
def Call.sets (host : Host) : Call → List Nat
  | .setSignal serial | .setMonitor _ serial _ => [serial]
  | .tryEnter asker thread cookie =>
      ringSets { host with detector := host.detector.register thread cookie } asker thread cookie
  | .detect asker thread cookie => host.ringSets asker thread cookie
  | _ => []

/-- The wake-ups that go with a call, apart from a turn. -/
def Call.wakeUps (host : Host) : Call → List WakeUp
  | .onDomains operation => host.notices (host.registry.perform operation)
  | .post event => host.notices (host.registry.post event)
  | .hear event => host.eventWakeUps event
  | .createTask parent => host.notices (host.registry.reserveThread parent ⟨host.nextThread⟩).2
  | .startTask serial => host.gateWakeUps (host.task serial).thread
  | .removeTask thread => host.removeWakeUps thread
  | .alert thread => host.alertWakeUps thread
  | .depart thread => host.departWakeUps thread
  | .setSignal serial | .setMonitor _ serial _ => host.setWakeUps serial
  | .releaseSemaphore serial slots => host.slotWakeUps serial slots
  | .leaveLock thread serial => host.leaveWakeUps thread serial
  | .tryEnter asker thread cookie =>
      (ringSets { host with detector := host.detector.register thread cookie } asker thread
        cookie).flatMap host.setWakeUps
  | .detect asker thread cookie => (host.ringSets asker thread cookie).flatMap host.setWakeUps
  | _ => []

theorem kept_heed (host : Host) {call : Call} (spares : call.sparesObjects = true) :
    Kept (call.sets host) (call.wakeUps host) host (host.heed call) := by
  cases call with
  | spawn | createTask | wait | sleep | monitorWait | shutdown | turn | elapse | addSignal
  | clearSignal | addSemaphore | releaseSemaphore | addLock | tryLock | leaveLock | restCrew =>
    cases spares
  | onDomains operation => exact host.kept_adopt (host.registry.accounts_perform operation)
  | post event => exact host.kept_adopt (host.registry.events.accounts_post event)
  | purge domain =>
    let purged := { host.registry with events := (host.registry.events.purge domain).2 }
    have kept : Kept [] (host.notices purged) host (host.adopt purged) :=
      host.kept_adopt (host.registry.events.accounts_purge domain)
    have quiet : host.notices purged = [] := by simp [notices, purged, Domain.EventQueue.purge]
    rwa [quiet] at kept
  | escalate action => exact host.kept_escalated action
  | hear event => exact host.kept_onRuntimeEvent event
  | startTask serial => exact host.kept_startTask serial
  | removeTask thread => exact host.kept_removeTask thread
  | setLogical serial managed =>
    simp only [heed]
    split
    · exact .of_same rfl rfl rfl rfl rfl rfl rfl rfl
    · exact .refl host
  | setPriority caller serial level => exact host.kept_setPriority caller serial level
  | alert thread => exact host.kept_alert thread
  | releaseThread thread => exact host.kept_releaseThread thread
  | depart thread => exact host.kept_depart thread
  | setSignal serial => exact host.kept_setSignal serial
  | setMonitor thread serial cookie => exact host.kept_setMonitor thread serial cookie
  | tryEnter asker thread cookie => exact host.kept_tryEnter asker thread cookie
  | detect asker thread cookie => exact host.kept_detect asker thread cookie
  | currentTask | addManaged | beginDeparture | installOracle | own | disown | prepare
  | nameMonitor | takeAsked | endEnter | elsewhere => exact .of_same rfl rfl rfl rfl rfl rfl rfl rfl

end Steward.Host
