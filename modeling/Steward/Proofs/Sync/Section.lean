import Steward.Proofs.Host.Scene

/-! Critical sections among any number of threads. Who is inside, and how deep, is what is left of
the entries of each thread after its leaves. -/

set_option autoImplicit false

namespace Steward.Sync.CriticalSection

variable {lock after : CriticalSection} {thread other : ThreadId}

/-- How many entries of a thread are still to be left. -/
def heldBy (lock : CriticalSection) (thread : ThreadId) : Nat :=
  if lock.owner? = some thread then lock.depth else 0

theorem depth_pos (owned : lock.owner? = some thread) : 0 < lock.depth := by
  obtain ⟨hold, spins⟩ := lock
  cases hold with
  | none => cases owned
  | some hold => exact Nat.succ_pos hold.again

theorem heldBy_pos_iff : 0 < lock.heldBy thread ↔ lock.owner? = some thread := by
  unfold heldBy
  split
  · next owned => exact ⟨fun _ => owned, fun _ => depth_pos owned⟩
  · next apart =>
    exact ⟨fun inside => absurd inside (Nat.lt_irrefl 0), fun owned => absurd owned apart⟩

theorem heldBy_enter? (made : lock.enter? thread = some after) (other : ThreadId) :
    after.heldBy other = lock.heldBy other + if thread = other then 1 else 0 := by
  obtain ⟨hold, spins⟩ := lock
  cases hold with
  | none =>
    cases made
    simp [heldBy, owner?, depth]
  | some hold =>
    simp only [enter?] at made
    split at made
    · next same =>
      cases made
      by_cases here : thread = other <;> simp [heldBy, owner?, depth, same, here]
    · cases made

theorem heldBy_leave (made : lock.leave thread = .ok after) (other : ThreadId) :
    lock.heldBy other = after.heldBy other + if thread = other then 1 else 0 := by
  obtain ⟨hold, spins⟩ := lock
  cases hold with
  | none => cases made
  | some hold =>
    obtain ⟨owner, again⟩ := hold
    simp only [leave] at made
    split at made
    · next same =>
      cases again with
      | zero =>
        cases made
        simp [heldBy, owner?, depth, same]
      | succ again =>
        cases made
        by_cases here : thread = other <;> simp [heldBy, owner?, depth, same, here]
    · cases made

/-- Who is not inside cannot leave. -/
theorem leave_of_apart (apart : lock.owner? ≠ some thread) :
    lock.leave thread = .error (if lock.owner? = none then .notLocked else .notOwner) := by
  obtain ⟨hold, spins⟩ := lock
  cases hold with
  | none => rfl
  | some hold =>
    have foreign : hold.owner ≠ thread := fun same => apart (congrArg some same)
    simp [leave, owner?, foreign]

/-- While another thread is inside, nobody enters. -/
theorem enter?_of_owner (owned : lock.owner? = some other) (apart : other ≠ thread) :
    lock.enter? thread = none := by
  obtain ⟨hold, spins⟩ := lock
  cases hold with
  | none => cases owned
  | some hold =>
    have foreign : hold.owner ≠ thread := fun same => apart (Option.some.inj owned ▸ same)
    simp [enter?, foreign]

/-- Nobody else is inside, so the thread enters. -/
theorem enter?_isSome (free : ∀ other, lock.owner? = some other → other = thread) :
    (lock.enter? thread).isSome = true := by
  obtain ⟨hold, spins⟩ := lock
  cases hold with
  | none => rfl
  | some hold =>
    have own : hold.owner = thread := free hold.owner rfl
    simp [enter?, own]

theorem leave_of_owner (owned : lock.owner? = some thread) :
    ∃ left, lock.leave thread = .ok left := by
  obtain ⟨hold, spins⟩ := lock
  cases hold with
  | none => cases owned
  | some hold =>
    obtain ⟨owner, again⟩ := hold
    cases owned
    cases again with
    | zero => exact ⟨_, if_pos rfl⟩
    | succ again => exact ⟨_, if_pos rfl⟩

end Steward.Sync.CriticalSection

namespace Steward.Host

/-- A thread entered a lock, at once or after a wait. -/
def SyncDeed.enters (thread : ThreadId) (serial : Nat) : SyncDeed → Bool
  | entered other lock => decide (other = thread ∧ lock = serial)
  | ended other (.lock lock) .signaled => decide (other = thread ∧ lock = serial)
  | _ => false

/-- A thread left a lock. -/
def SyncDeed.leaves (thread : ThreadId) (serial : Nat) : SyncDeed → Bool
  | left other lock => decide (other = thread ∧ lock = serial)
  | _ => false

/-- How often a thread entered a lock. -/
def entries (thread : ThreadId) (serial : Nat) (deeds : List SyncDeed) : Nat :=
  deeds.countP (SyncDeed.enters thread serial)

/-- How often a thread left a lock. -/
def leaves (thread : ThreadId) (serial : Nat) (deeds : List SyncDeed) : Nat :=
  deeds.countP (SyncDeed.leaves thread serial)

variable {host after : Host} {serial : Nat} {deeds more : List SyncDeed}

theorem SyncDeed.enters_of_isQuiet {deed : SyncDeed} (quiet : deed.isQuiet = true)
    (thread : ThreadId) (serial : Nat) :
    deed.enters thread serial = false ∧ deed.leaves thread serial = false := by
  cases deed with
  | ended other target outcome =>
    refine ⟨?_, rfl⟩
    unfold SyncDeed.enters
    split
    · next same => cases same
    · next same =>
      cases same
      cases quiet
    · rfl
  | set | cleared | gave | entered | left => cases quiet

/-- Settings of signals and waits that took nothing are neither entries nor leaves. -/
theorem entries_quiet {sets : List Nat} {ends : List SyncDeed}
    (quiet : ∀ deed ∈ ends, deed.isQuiet = true) (thread : ThreadId) (serial : Nat) :
    entries thread serial (sets.map .set ++ ends) = 0 ∧
      leaves thread serial (sets.map .set ++ ends) = 0 := by
  unfold entries leaves
  constructor <;> rw [List.countP_eq_zero] <;> intro deed inside <;>
    rcases List.mem_append.1 inside with set | ended
  · obtain ⟨other, _, rfl⟩ := List.mem_map.1 set
    nofun
  · simp [(SyncDeed.enters_of_isQuiet (quiet deed ended) thread serial).1]
  · obtain ⟨other, _, rfl⟩ := List.mem_map.1 set
    nofun
  · simp [(SyncDeed.enters_of_isQuiet (quiet deed ended) thread serial).2]

/-- Whatever is done, what a thread holds of a lock grows by its entries and falls by its leaves. -/
theorem Effect.heldBy (effect : Effect host deeds after) (known : serial < host.nextSerial)
    {lock : Sync.CriticalSection} (found : host.locks.get? serial = some lock) :
    ∃ next, after.locks.get? serial = some next ∧ ∀ thread,
      lock.heldBy thread + entries thread serial deeds =
        next.heldBy thread + leaves thread serial deeds := by
  have unchanged : after.locks = host.locks →
      (∀ thread, entries thread serial deeds = 0 ∧ leaves thread serial deeds = 0) →
      ∃ next, after.locks.get? serial = some next ∧ ∀ thread,
        lock.heldBy thread + entries thread serial deeds =
          next.heldBy thread + leaves thread serial deeds :=
    fun same nothing => ⟨lock, by rw [same, found],
      fun thread => by rw [(nothing thread).1, (nothing thread).2]⟩
  -- A step at some lock, which may be this one.
  have atLock : ∀ {other : Nat} {old new : Sync.CriticalSection},
      host.locks.get? other = some old →
      Still [] { host with locks := host.locks.insert other new } after →
      (other = serial → ∀ thread, old.heldBy thread + entries thread serial deeds =
        new.heldBy thread + leaves thread serial deeds) →
      (other ≠ serial → ∀ thread,
        entries thread serial deeds = 0 ∧ leaves thread serial deeds = 0) →
      ∃ next, after.locks.get? serial = some next ∧ ∀ thread,
        lock.heldBy thread + entries thread serial deeds =
          next.heldBy thread + leaves thread serial deeds := by
    intro other old new there still change apart
    by_cases same : other = serial
    · subst same
      rw [found] at there
      cases there
      exact ⟨new, by rw [still.locks, Assoc.get?_insert_self], change rfl⟩
    · refine ⟨lock, ?_, fun thread => by rw [(apart same thread).1, (apart same thread).2]⟩
      rw [still.locks, Assoc.get?_insert_of_ne _ (Ne.symm same), found]
  cases effect with
  | still still quiet => exact unchanged still.locks fun thread => entries_quiet quiet thread serial
  | @took thread target ending left after shared taken still =>
    cases taken with
    | signal | semaphore => exact unchanged still.locks fun thread => ⟨rfl, rfl⟩
    | lock there made =>
      refine atLock there still (fun same other => ?_) fun apart other => ?_
      · have step := Sync.CriticalSection.heldBy_enter? made other
        simp [entries, leaves, SyncDeed.enters, SyncDeed.leaves, same, step]
      · simp [entries, leaves, SyncDeed.enters, SyncDeed.leaves, apart]
    | notice => cases shared
    | passed apart =>
      rw [apart] at shared
      cases shared
  | addedSignal added still | addedSemaphore added still =>
    exact unchanged still.locks fun thread => ⟨rfl, rfl⟩
  | addedLock added still =>
    refine ⟨lock, ?_, fun thread => rfl⟩
    rw [still.locks, addLock, Assoc.get?_insert_of_ne _ (Nat.ne_of_lt known), found]
  | cleared other still => exact unchanged still.locks fun thread => ⟨rfl, rfl⟩
  | gave there made still => exact unchanged still.locks fun thread => ⟨rfl, rfl⟩
  | entered there made still =>
    refine atLock there still (fun same other => ?_) fun apart other => ?_
    · have step := Sync.CriticalSection.heldBy_enter? made other
      simp [entries, leaves, SyncDeed.enters, SyncDeed.leaves, same, step]
    · simp [entries, leaves, SyncDeed.enters, SyncDeed.leaves, apart]
  | left there made still =>
    refine atLock there still (fun same other => ?_) fun apart other => ?_
    · have step := Sync.CriticalSection.heldBy_leave made other
      simp [entries, leaves, SyncDeed.enters, SyncDeed.leaves, same, step]
    · simp [entries, leaves, SyncDeed.enters, SyncDeed.leaves, apart]
  | respun there still => exact atLock there still (fun _ thread => rfl) fun _ thread => ⟨rfl, rfl⟩

/-- For each thread, the entries into a lock that are not left yet are those that the lock holds. -/
structure Balanced (serial : Nat) (deeds : List SyncDeed) (host : Host) : Prop where
  known : serial < host.nextSerial
  balance : ∃ lock, host.locks.get? serial = some lock ∧ ∀ thread,
    entries thread serial deeds = leaves thread serial deeds + lock.heldBy thread

theorem Balanced.effect (balanced : Balanced serial deeds host) (effect : Effect host more after) :
    Balanced serial (deeds ++ more) after := by
  obtain ⟨lock, found, balance⟩ := balanced.balance
  obtain ⟨next, there, change⟩ := effect.heldBy balanced.known found
  have known := Nat.lt_of_lt_of_le balanced.known effect.nextSerial_le
  refine ⟨known, next, there, fun thread => ?_⟩
  have before := balance thread
  have changed := change thread
  unfold entries leaves at *
  rw [List.countP_append, List.countP_append]
  omega

end Steward.Host

namespace Steward.Scene

open Host

variable {config : Config} {opened : String → Except Error Trace.Sink} {created : Host}
  {scene last : Scene} {earlier deeds : List SyncDeed}

theorem balanced_addLock (scene : Scene) (lock : Sync.CriticalSection) (free : lock.hold = none) :
    Balanced scene.host.nextSerial [] (scene.call (.addLock lock)).host := by
  refine ⟨Nat.lt_succ_self _, lock, Assoc.get?_insert_self .., fun thread => ?_⟩
  simp [entries, leaves, Sync.CriticalSection.heldBy, Sync.CriticalSection.owner?, free]

/-- Among any number of threads that enter and leave a new lock in any order, who is inside is who
entered more often than it left, as often as it says, and every other thread left as often as it
entered; such a thread cannot leave, and nobody enters while another thread is inside. Otherwise
whoever is inside can leave, and whoever wants to can enter. -/
theorem owner_eq_entries_sub_leaves (made : Host.create config opened = .ok created)
    (before : Run { host := created } earlier scene) (spins : Nat)
    (run : Run (scene.call (.addLock { spins })) deeds last) :
    ∃ lock, last.host.locks.get? scene.host.nextSerial = some lock ∧
      (∀ thread, lock.owner? = some thread ↔
        leaves thread scene.host.nextSerial deeds < entries thread scene.host.nextSerial deeds) ∧
      (∀ thread, lock.owner? = some thread → lock.depth =
        entries thread scene.host.nextSerial deeds - leaves thread scene.host.nextSerial deeds) ∧
      (∀ thread, lock.owner? ≠ some thread →
        entries thread scene.host.nextSerial deeds = leaves thread scene.host.nextSerial deeds) ∧
      (∀ thread, entries thread scene.host.nextSerial deeds =
          leaves thread scene.host.nextSerial deeds →
        last.host.leaveLock thread scene.host.nextSerial lock =
          (.error (.sync (if lock.owner? = none then .notLocked else .notOwner)), last.host)) ∧
      (∀ thread other, lock.owner? = some other → other ≠ thread →
        lock.enter? thread = none ∧
          last.host.heed (.tryLock thread scene.host.nextSerial) = last.host) ∧
      (∀ thread, lock.owner? = some thread →
        (last.host.leaveLock thread scene.host.nextSerial lock).1 = .ok ()) ∧
      (∀ thread, (∀ other, lock.owner? = some other → other = thread) →
        (lock.enter? thread).isSome = true) := by
  have orderly : scene.host.Orderly := before.orderly (.create made)
  have balanced : Balanced scene.host.nextSerial deeds last.host :=
    run.effects (orderly_call orderly rfl) (balanced_addLock scene { spins } rfl)
      fun _ _ _ _ effect kept => kept.effect effect
  obtain ⟨_, lock, found, balance⟩ := balanced
  have owner : ∀ thread, lock.owner? = some thread ↔
      leaves thread scene.host.nextSerial deeds < entries thread scene.host.nextSerial deeds := by
    intro thread
    rw [← Sync.CriticalSection.heldBy_pos_iff]
    have := balance thread
    omega
  refine ⟨lock, found, owner, fun thread owned => ?_, fun thread apart => ?_, fun thread even => ?_,
    fun thread other owned apart => ?_, fun thread owned => ?_,
    fun thread free => Sync.CriticalSection.enter?_isSome free⟩
  · have held : lock.heldBy thread = lock.depth := if_pos owned
    have := balance thread
    omega
  · have held : lock.heldBy thread = 0 := if_neg apart
    have := balance thread
    omega
  · have apart : lock.owner? ≠ some thread := fun owned => by
      have := (owner thread).1 owned
      omega
    simp only [leaveLock, Sync.CriticalSection.leave_of_apart apart]
  · have refused := Sync.CriticalSection.enter?_of_owner owned apart
    refine ⟨refused, ?_⟩
    simp [heed, found, refused]
  · obtain ⟨left, made⟩ := Sync.CriticalSection.leave_of_owner owned
    simp only [leaveLock, made]

/-- One thread goes in twice. Another looks once, waits, and is let in when the first has left. -/
def handOver : List Choice :=
  [.call (.tryLock ⟨1⟩ 0), .call (.tryLock ⟨1⟩ 0), .enter ⟨2⟩ 0, .look ⟨2⟩, .look ⟨2⟩,
    .call (.turn ⟨2⟩), .call (.leaveLock ⟨1⟩ 0), .call (.leaveLock ⟨1⟩ 0), .arrive,
    .call (.turn ⟨2⟩)]

theorem owner_eq_entries_sub_leaves_handOver :
    ∃ start, Host.create {} (fun _ => .ok (.memory 0 [])) = .ok start ∧
      ∃ last, (Scene.call { host := start.heedAll [.spawn, .spawn] }
          (.addLock { spins := 1 })).play handOver =
            some ([.entered ⟨1⟩ 0, .entered ⟨1⟩ 0, .left ⟨1⟩ 0, .left ⟨1⟩ 0,
              .ended ⟨2⟩ (.lock 0) .signaled], last) ∧
        ∃ lock, last.host.locks.get? 0 = some lock ∧ lock.owner? = some ⟨2⟩ ∧ lock.depth = 1 ∧
          last.host.leaveLock ⟨1⟩ 0 lock = (.error (.sync .notOwner), last.host) := by
  refine ⟨_, rfl, _, rfl, _, rfl, ?_⟩
  have before := run_heedAll (@Orderly.create {} (fun _ => .ok (.memory 0 [])) _ rfl)
    [.spawn, .spawn] rfl
  obtain ⟨lock, found, owner, depth, -, refused, -⟩ :=
    @owner_eq_entries_sub_leaves {} (fun _ => .ok (.memory 0 [])) _ _ _ _ _ rfl before 1
      (run_of_play handOver rfl)
  cases found
  exact ⟨(owner ⟨2⟩).2 (by decide), depth ⟨2⟩ ((owner ⟨2⟩).2 (by decide)), refused ⟨1⟩ rfl⟩

end Steward.Scene
