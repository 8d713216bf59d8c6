import Steward.Proofs.Host.Begun

/-! What calls do to the objects that threads share, and the deeds by which it is remembered. -/

set_option autoImplicit false

namespace Steward.Host

open Deadlock

variable {host middle after : Host}

/-- What a call does to the objects that threads share, and how the wait ends that it ends. -/
def deeds (host : Host) (call : Call) : List SyncDeed :=
  match call with
  | .turn thread => host.turnDeeds thread
  | .clearSignal serial => [.cleared serial]
  | .releaseSemaphore serial slots =>
      match (host.semaphores.get? serial).map (Sync.Semaphore.release · slots) with
      | some (.ok _) => [.gave serial slots]
      | some (.error _) | none => []
  | .tryLock thread serial =>
      match (host.locks.get? serial).bind (Sync.CriticalSection.enter? · thread) with
      | some _ => [.entered thread serial]
      | none => []
  | .leaveLock thread serial =>
      match (host.locks.get? serial).map (Sync.CriticalSection.leave · thread) with
      | some (.ok _) => [.left thread serial]
      | some (.error _) | none => []
  | _ => (call.sets host).map .set

/-- How the objects that threads share are changed by what is done to them. -/
inductive Effect (host : Host) : List SyncDeed → Host → Prop where
  /-- At most, signals are set, and a wait ends that took nothing. -/
  | still {sets : List Nat} {ends : List SyncDeed} {after : Host} (still : Still sets host after)
      (quiet : ∀ deed ∈ ends, deed.isQuiet = true) : Effect host (sets.map .set ++ ends) after
  | took {thread : ThreadId} {target : Target} {ending : Ending} {left after : Host}
      (shared : target.isShared = true) (taken : Takes host thread target ending left)
      (still : Still [] left after) : Effect host [.ended thread target .signaled] after
  | addedSignal {after : Host} (signal : Sync.Signal)
      (still : Still [] (host.addSignal signal).2 after) : Effect host [] after
  | addedSemaphore {after : Host} (semaphore : Sync.Semaphore)
      (still : Still [] (host.addSemaphore semaphore).2 after) : Effect host [] after
  | addedLock {after : Host} (lock : Sync.CriticalSection)
      (still : Still [] (host.addLock lock).2 after) : Effect host [] after
  | cleared {after : Host} (serial : Nat) (still : Still [] (host.clearSignal serial) after) :
      Effect host [.cleared serial] after
  | gave {serial slots : Nat} {semaphore released : Sync.Semaphore} {after : Host}
      (found : host.semaphores.get? serial = some semaphore)
      (made : semaphore.release slots = .ok released)
      (still : Still [] { host with semaphores := host.semaphores.insert serial released } after) :
      Effect host [.gave serial slots] after
  | entered {thread : ThreadId} {serial : Nat} {lock entered : Sync.CriticalSection} {after : Host}
      (found : host.locks.get? serial = some lock) (made : lock.enter? thread = some entered)
      (still : Still [] { host with locks := host.locks.insert serial entered } after) :
      Effect host [.entered thread serial] after
  | left {thread : ThreadId} {serial : Nat} {lock left : Sync.CriticalSection} {after : Host}
      (found : host.locks.get? serial = some lock) (made : lock.leave thread = .ok left)
      (still : Still [] { host with locks := host.locks.insert serial left } after) :
      Effect host [.left thread serial] after
  /-- A lock is told how often an entry looks before it sleeps. -/
  | respun {serial spins : Nat} {lock : Sync.CriticalSection} {after : Host}
      (found : host.locks.get? serial = some lock)
      (still : Still [] { host with locks := host.locks.insert serial { lock with spins } } after) :
      Effect host [] after

theorem Still.rest {sets : List Nat} (still : Still sets host after)
    (waits : Assoc ThreadId Wait) : Still sets host { after with waits } :=
  ⟨still.signals, still.semaphores, still.locks, still.nextSerial⟩

theorem Still.deliverAll (host : Host) (wakeUps : List WakeUp) :
    Still [] host (host.deliverAll wakeUps) := (host.kept_deliverAll wakeUps).toStill

namespace Effect

variable {deeds : List SyncDeed}

theorem refl (host : Host) : Effect host [] host := .still (.refl host) nofun

theorem of_still {sets : List Nat} (still : Still sets host after) :
    Effect host (sets.map .set) after := by
  have quiet : ∀ deed ∈ ([] : List SyncDeed), deed.isQuiet = true := nofun
  simpa using Effect.still still quiet

/-- Nothing happens to the objects afterwards. -/
theorem trans (effect : Effect host deeds middle) (still : Still [] middle after) :
    Effect host deeds after := by
  cases effect with
  | still before quiet => exact .still (by simpa using before.trans still) quiet
  | took shared taken before => exact .took shared taken (before.trans still)
  | addedSignal signal before => exact .addedSignal signal (before.trans still)
  | addedSemaphore semaphore before => exact .addedSemaphore semaphore (before.trans still)
  | addedLock lock before => exact .addedLock lock (before.trans still)
  | cleared serial before => exact .cleared serial (before.trans still)
  | gave found made before => exact .gave found made (before.trans still)
  | entered found made before => exact .entered found made (before.trans still)
  | left found made before => exact .left found made (before.trans still)
  | respun found before => exact .respun found (before.trans still)

theorem rest (effect : Effect host deeds after) (waits : Assoc ThreadId Wait) :
    Effect host deeds { after with waits } := effect.trans (.of_same rfl rfl rfl rfl)

/-- What was added stays. -/
theorem nextSerial_le (effect : Effect host deeds after) : host.nextSerial ≤ after.nextSerial := by
  cases effect with
  | still still | cleared _ still | gave _ _ still | entered _ _ still | left _ _ still
  | respun _ still => exact Nat.le_of_eq still.nextSerial.symm
  | took _ taken still => exact Nat.le_of_eq (still.nextSerial.trans taken.nextSerial).symm
  | addedSignal _ still | addedSemaphore _ still | addedLock _ still =>
    exact still.nextSerial ▸ Nat.le_succ host.nextSerial

end Effect

theorem still_createTask (host : Host) (parent : ThreadId) :
    Still [] host (host.createTask parent).2 := by
  let numbered := (host.addThread .suspended).2
  have new : Still [] host numbered := .of_same rfl rfl rfl rfl
  have adopted : ∀ registry, Still [] host (numbered.adopt registry) := by
    intro registry
    have placed : Still [] numbered { numbered with registry } := .of_same rfl rfl rfl rfl
    rw [adopt, wakeSome_eq_deliverAll]
    exact (new.trans placed).trans (.deliverAll _ _)
  simp only [createTask]
  split
  · exact adopted _
  · next registry _ =>
    exact (adopted registry).trans (.of_same rfl rfl rfl rfl)

/-- What is taken during a turn is taken from the host as it was. -/
theorem Takes.home {thread : ThreadId} {target : Target} {ending : Ending} {left : Host}
    (taken : Takes (host.away thread) thread target ending left) :
    Takes host thread target ending { left with waits := host.waits } := by
  cases taken with
  | signal found made => exact .signal found made
  | semaphore found made => exact .semaphore found made
  | lock found made => exact .lock found made
  | notice made => exact .notice made
  | passed apart unqueued lasting => exact .passed apart unqueued lasting

theorem Turned.effect {thread : ThreadId} {deeds : List SyncDeed} {wakeUps : List WakeUp}
    (turned : Turned host thread deeds wakeUps after) : Effect host deeds after := by
  have out : Still [] host (host.away thread) := .of_same rfl rfl rfl rfl
  cases turned with
  | idle => exact .refl host
  | dozed => exact (Effect.refl host).rest _
  | @took wait ending left after deeds found stirs taken kept told quiet =>
    cases shared : wait.target.isShared with
    | true =>
      have settled := kept.toStill
      rw [told shared]
      exact .took shared taken.home
        ⟨settled.signals, settled.semaphores, settled.locks, settled.nextSerial⟩
    | false =>
      have before := out.trans ((taken.still shared).trans kept.toStill)
      exact .still before (quiet shared)
  | gaveUp _ _ _ kept quiet => exact .still (by simpa using out.trans kept.toStill) quiet
  | resumed _ _ _ kept =>
    have settled := out.trans kept.toStill
    exact .of_still (settled.rest _)

theorem still_heed (host : Host) {call : Call} (spares : call.sparesObjects = true) :
    Still (call.sets host) host (host.heed call) := (host.kept_heed spares).toStill

theorem effect_whenIdle (host : Host) (thread : ThreadId) {begun : Host}
    (still : Still [] host begun) : Effect host [] (host.whenIdle thread begun) := by
  unfold whenIdle
  split
  · exact .of_still still
  · exact .refl host

theorem effect_releaseSemaphore (host : Host) (serial slots : Nat) :
    Effect host (host.deeds (.releaseSemaphore serial slots))
      (host.heed (.releaseSemaphore serial slots)) := by
  simp only [deeds, heed]
  cases found : host.semaphores.get? serial with
  | none => exact .refl host
  | some semaphore =>
    simp only [Option.map_some, releaseSemaphore]
    cases made : semaphore.release slots with
    | error fault => exact .refl host
    | ok released =>
      simp only
      rw [wakeSome_eq_deliverAll]
      exact .gave found made (.deliverAll _ _)

theorem effect_tryLock (host : Host) (thread : ThreadId) (serial : Nat) :
    Effect host (host.deeds (.tryLock thread serial)) (host.heed (.tryLock thread serial)) := by
  simp only [deeds, heed]
  cases made : (host.locks.get? serial).bind (Sync.CriticalSection.enter? · thread) with
  | none => exact .refl host
  | some entered =>
    obtain ⟨lock, found, entering⟩ := Option.bind_eq_some_iff.1 made
    exact .entered found entering (.refl _)

theorem effect_leaveLock (host : Host) (thread : ThreadId) (serial : Nat) :
    Effect host (host.deeds (.leaveLock thread serial)) (host.heed (.leaveLock thread serial)) := by
  simp only [deeds, heed]
  cases found : host.locks.get? serial with
  | none => exact .refl host
  | some lock =>
    simp only [Option.map_some, leaveLock]
    cases made : lock.leave thread with
    | error fault => exact .refl host
    | ok left =>
      refine .left found made ?_
      simp only
      split
      · exact .deliverAll _ [⟨.lock serial, false⟩]
      · exact .refl _

/-- What a call does to the objects that threads share is what is remembered of it. -/
theorem effect_heed (orderly : host.Orderly) (call : Call) :
    Effect host (host.deeds call) (host.heed call) := by
  cases spares : call.sparesObjects with
  | true =>
    have same : host.deeds call = (call.sets host).map .set := by
      cases call <;> first | rfl | cases spares
    exact same ▸ .of_still (host.still_heed spares)
  | false =>
    cases call with
    | spawn => exact .of_still (.of_same rfl rfl rfl rfl)
    | createTask parent => exact .of_still (host.still_createTask parent)
    | wait thread | sleep thread | shutdown thread =>
      exact host.effect_whenIdle thread (.of_same rfl rfl rfl rfl)
    | monitorWait thread serial cookie timeout options =>
      refine host.effect_whenIdle thread ?_
      unfold startMonitorWait
      split <;> exact .of_same rfl rfl rfl rfl
    | turn thread =>
      exact (host.turned thread fun wait found => (orderly.waits thread wait found).proper).effect
    | elapse | restCrew => exact .of_still (.of_same rfl rfl rfl rfl)
    | addSignal signal => exact .addedSignal signal (.refl _)
    | clearSignal serial => exact .cleared serial (.refl _)
    | addSemaphore semaphore => exact .addedSemaphore semaphore (.refl _)
    | releaseSemaphore serial slots => exact host.effect_releaseSemaphore serial slots
    | addLock lock => exact .addedLock lock (.refl _)
    | tryLock thread serial => exact host.effect_tryLock thread serial
    | leaveLock thread serial => exact host.effect_leaveLock thread serial
    | _ => cases spares

theorem effect_begin (orderly : host.Orderly) (call : Call) :
    Effect host (host.deeds call) (host.begin call) := by
  have heeded := effect_heed orderly call
  unfold begin
  split
  · exact heeded
  · exact heeded
  · exact heeded.rest _

end Steward.Host
