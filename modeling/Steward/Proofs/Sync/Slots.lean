import Mathlib.Algebra.BigOperators.Group.List.Basic
import Steward.Proofs.Host.Scene

/-! Slots of semaphores among any number of threads. Every slot that is gone was taken by a wait
that was told so, and every slot that came was given back. -/

set_option autoImplicit false

namespace Steward.Sync.Semaphore

variable {semaphore left : Semaphore} {initial maximum slots : Nat}

theorem count_take? (taken : semaphore.take? = some left) :
    left.count + 1 = semaphore.count ∧ left.maximum = semaphore.maximum := by
  unfold take? at taken
  split at taken
  · cases taken
  · next some =>
    cases taken
    exact ⟨Nat.succ_pred some, rfl⟩

theorem count_release (released : semaphore.release slots = .ok left) :
    left.count = semaphore.count + slots ∧ left.maximum = semaphore.maximum := by
  unfold release at released
  split at released
  · cases released
    exact ⟨rfl, rfl⟩
  · cases released

theorem release_of_le (within : semaphore.count + slots ≤ semaphore.maximum) :
    semaphore.release slots = .ok ⟨semaphore.count + slots, semaphore.maximum, within⟩ :=
  dif_pos within

theorem release_of_gt (beyond : semaphore.maximum < semaphore.count + slots) :
    semaphore.release slots = .error .semaphoreOverflow :=
  dif_neg (Nat.not_le.2 beyond)

theorem create_of_le (some : maximum ≠ 0) (within : initial ≤ maximum) :
    create initial maximum = .ok ⟨initial, maximum, within⟩ :=
  dif_pos ⟨some, within⟩

end Steward.Sync.Semaphore

namespace Steward.Host

/-- A wait was told that it has a slot of a semaphore. -/
def SyncDeed.takesSlot (serial : Nat) : SyncDeed → Bool
  | ended _ (.semaphore other) .signaled => decide (other = serial)
  | _ => false

/-- How many slots of a semaphore were given back at once. -/
def SyncDeed.slotsGiven (serial : Nat) : SyncDeed → Nat
  | gave other slots => if other = serial then slots else 0
  | _ => 0

/-- How many waits were told that they have a slot. -/
def slotsTaken (serial : Nat) (deeds : List SyncDeed) : Nat :=
  deeds.countP (SyncDeed.takesSlot serial)

/-- How many slots were given back. -/
def slotsGiven (serial : Nat) (deeds : List SyncDeed) : Nat :=
  (deeds.map (SyncDeed.slotsGiven serial)).sum

variable {host after : Host} {serial : Nat} {deeds more : List SyncDeed}

theorem SyncDeed.takesSlot_of_isQuiet {deed : SyncDeed} (quiet : deed.isQuiet = true)
    (serial : Nat) : deed.takesSlot serial = false ∧ deed.slotsGiven serial = 0 := by
  cases deed with
  | ended thread target outcome =>
    refine ⟨?_, rfl⟩
    unfold SyncDeed.takesSlot
    split
    · next same =>
      cases same
      cases quiet
    · rfl
  | set | cleared | gave | entered | left => cases quiet

/-- Settings of signals and waits that took nothing leave the slots alone. -/
theorem slots_quiet {sets : List Nat} {ends : List SyncDeed}
    (quiet : ∀ deed ∈ ends, deed.isQuiet = true) (serial : Nat) :
    slotsTaken serial (sets.map .set ++ ends) = 0 ∧
      slotsGiven serial (sets.map .set ++ ends) = 0 := by
  have idle : ∀ deed ∈ sets.map SyncDeed.set ++ ends,
      deed.takesSlot serial = false ∧ deed.slotsGiven serial = 0 := by
    intro deed inside
    rcases List.mem_append.1 inside with set | ended
    · obtain ⟨other, _, rfl⟩ := List.mem_map.1 set
      exact ⟨rfl, rfl⟩
    · exact SyncDeed.takesSlot_of_isQuiet (quiet deed ended) serial
  constructor
  · exact List.countP_eq_zero.2 fun deed inside => by simp [(idle deed inside).1]
  · refine List.sum_eq_zero fun slots inside => ?_
    obtain ⟨deed, there, rfl⟩ := List.mem_map.1 inside
    exact (idle deed there).2

/-- Whatever is done, a semaphore loses the slots that are taken of it and gains those that are
given back. -/
theorem Effect.count (effect : Effect host deeds after) (known : serial < host.nextSerial)
    {semaphore : Sync.Semaphore} (found : host.semaphores.get? serial = some semaphore) :
    ∃ next, after.semaphores.get? serial = some next ∧ next.maximum = semaphore.maximum ∧
      next.count + slotsTaken serial deeds = semaphore.count + slotsGiven serial deeds := by
  have unchanged : after.semaphores = host.semaphores →
      slotsTaken serial deeds = 0 ∧ slotsGiven serial deeds = 0 →
      ∃ next, after.semaphores.get? serial = some next ∧ next.maximum = semaphore.maximum ∧
        next.count + slotsTaken serial deeds = semaphore.count + slotsGiven serial deeds :=
    fun same nothing => ⟨semaphore, by rw [same, found], rfl, by rw [nothing.1, nothing.2]⟩
  cases effect with
  | still still quiet => exact unchanged still.semaphores (slots_quiet quiet serial)
  | @took thread target ending left after shared taken still =>
    cases taken with
    | signal | lock => exact unchanged still.semaphores ⟨rfl, rfl⟩
    | @semaphore other before left there made =>
      -- One slot less, and one wait that has it; or it is another semaphore.
      by_cases same : other = serial
      · subst same
        rw [found] at there
        cases there
        obtain ⟨count, maximum⟩ := Sync.Semaphore.count_take? made
        refine ⟨left, by rw [still.semaphores, Assoc.get?_insert_self], maximum, ?_⟩
        simpa [slotsTaken, slotsGiven, SyncDeed.takesSlot, SyncDeed.slotsGiven] using count
      · refine ⟨semaphore, ?_, rfl, ?_⟩
        · rw [still.semaphores, Assoc.get?_insert_of_ne _ (Ne.symm same), found]
        · simp [slotsTaken, slotsGiven, SyncDeed.takesSlot, SyncDeed.slotsGiven, same]
    | notice => cases shared
    | passed apart =>
      rw [apart] at shared
      cases shared
  | addedSignal signal still => exact unchanged still.semaphores ⟨rfl, rfl⟩
  | addedLock lock still => exact unchanged still.semaphores ⟨rfl, rfl⟩
  | addedSemaphore other still =>
    refine ⟨semaphore, ?_, rfl, rfl⟩
    rw [still.semaphores, addSemaphore, Assoc.get?_insert_of_ne _ (Nat.ne_of_lt known), found]
  | cleared other still => exact unchanged still.semaphores ⟨rfl, rfl⟩
  | @gave other slots before released after there made still =>
    by_cases same : other = serial
    · subst same
      rw [found] at there
      cases there
      obtain ⟨count, maximum⟩ := Sync.Semaphore.count_release made
      refine ⟨released, by rw [still.semaphores, Assoc.get?_insert_self], maximum, ?_⟩
      simpa [slotsTaken, slotsGiven, SyncDeed.takesSlot, SyncDeed.slotsGiven] using count
    · refine ⟨semaphore, ?_, rfl, ?_⟩
      · rw [still.semaphores, Assoc.get?_insert_of_ne _ (Ne.symm same), found]
      · simp [slotsTaken, slotsGiven, SyncDeed.takesSlot, SyncDeed.slotsGiven, same]
  | entered there made still => exact unchanged still.semaphores ⟨rfl, rfl⟩
  | left there made still => exact unchanged still.semaphores ⟨rfl, rfl⟩
  | respun there still => exact unchanged still.semaphores ⟨rfl, rfl⟩

/-- The slots of a semaphore are those it had at first, and those given back, but for those
taken. -/
structure Conserved (serial initial maximum : Nat) (deeds : List SyncDeed) (host : Host) :
    Prop where
  known : serial < host.nextSerial
  balance : ∃ semaphore, host.semaphores.get? serial = some semaphore ∧
    semaphore.maximum = maximum ∧
    semaphore.count + slotsTaken serial deeds = initial + slotsGiven serial deeds

theorem Conserved.effect {initial maximum : Nat}
    (conserved : Conserved serial initial maximum deeds host) (effect : Effect host more after) :
    Conserved serial initial maximum (deeds ++ more) after := by
  obtain ⟨semaphore, found, bound, balance⟩ := conserved.balance
  obtain ⟨next, there, same, change⟩ := effect.count conserved.known found
  have known := Nat.lt_of_lt_of_le conserved.known effect.nextSerial_le
  refine ⟨known, next, there, same.trans bound, ?_⟩
  unfold slotsTaken slotsGiven at *
  rw [List.countP_append, List.map_append, List.sum_append]
  omega

theorem releaseSemaphore_of_le (host : Host) (serial : Nat) {semaphore : Sync.Semaphore}
    {slots : Nat} (within : semaphore.count + slots ≤ semaphore.maximum) :
    (host.releaseSemaphore serial slots semaphore).1 = .ok semaphore.count := by
  simp only [releaseSemaphore, Sync.Semaphore.release_of_le within]

theorem releaseSemaphore_of_gt (host : Host) (serial : Nat) {semaphore : Sync.Semaphore}
    {slots : Nat} (beyond : semaphore.maximum < semaphore.count + slots) :
    host.releaseSemaphore serial slots semaphore = (.error (.sync .semaphoreOverflow), host) := by
  simp only [releaseSemaphore, Sync.Semaphore.release_of_gt beyond]

end Steward.Host

namespace Steward.Scene

open Host

variable {config : Config} {opened : String → Except Error Trace.Sink} {created : Host}
  {scene : Scene} {earlier : List SyncDeed}

/-- A semaphore that has at least one slot, and no more free slots than it has, can be made. Among
any number of threads that wait for it in any way and give slots back, its free slots are those it
had at first and those given back, but for those that waits were told to have. They stay within its
bound: what is given back beyond it is refused and changes nothing, be it beyond 32 bits as well. -/
theorem count_add_slotsTaken (made : Host.create config opened = .ok created)
    (before : Run { host := created } earlier scene) {initial maximum : Nat}
    (positive : 1 ≤ maximum) (within : initial ≤ maximum) :
    ∃ semaphore, Sync.Semaphore.create initial maximum = .ok semaphore ∧
      ∀ deeds last, Run (scene.call (.addSemaphore semaphore)) deeds last →
        ∃ now, last.host.semaphores.get? scene.host.nextSerial = some now ∧
          now.maximum = maximum ∧ now.count ≤ maximum ∧
          now.count + slotsTaken scene.host.nextSerial deeds =
            initial + slotsGiven scene.host.nextSerial deeds ∧
          (∀ slots, now.count + slots ≤ maximum →
            (last.host.releaseSemaphore scene.host.nextSerial slots now).1 = .ok now.count) ∧
          (∀ slots, maximum < now.count + slots →
            last.host.releaseSemaphore scene.host.nextSerial slots now =
              (.error (.sync .semaphoreOverflow), last.host)) ∧
          (∀ slots, maximum < 2 ^ 32 → 2 ^ 32 ≤ now.count + slots →
            last.host.releaseSemaphore scene.host.nextSerial slots now =
              (.error (.sync .semaphoreOverflow), last.host)) := by
  refine ⟨_, Sync.Semaphore.create_of_le (Nat.ne_of_gt positive) within, fun deeds last run => ?_⟩
  have orderly : scene.host.Orderly := before.orderly (.create made)
  have conserved : Conserved scene.host.nextSerial initial maximum deeds last.host :=
    run.effects (orderly_call orderly rfl)
      ⟨Nat.lt_succ_self _, _, Assoc.get?_insert_self .., rfl, rfl⟩
      fun _ _ _ _ effect kept => kept.effect effect
  obtain ⟨_, now, found, bound, balance⟩ := conserved
  subst bound
  exact ⟨now, found, rfl, now.within, balance,
    fun slots fits => last.host.releaseSemaphore_of_le _ fits,
    fun slots beyond => last.host.releaseSemaphore_of_gt _ beyond,
    fun slots word beyond => last.host.releaseSemaphore_of_gt _ (Nat.lt_of_lt_of_le word beyond)⟩

/-- One thread takes the only free slot. Another waits, and is let in when two are given back. -/
def slotsBack : List Choice :=
  [.call (.wait ⟨1⟩ (.semaphore 0) none {}), .call (.turn ⟨1⟩),
    .call (.wait ⟨2⟩ (.semaphore 0) none {}), .call (.turn ⟨2⟩),
    .call (.releaseSemaphore 0 2), .arrive, .arrive, .call (.turn ⟨2⟩)]

theorem count_add_slotsTaken_slotsBack :
    ∃ start, Host.create {} (fun _ => .ok (.memory 0 [])) = .ok start ∧
      ∃ last, (Scene.call { host := start.heedAll [.spawn, .spawn] }
          (.addSemaphore ⟨1, 2, by decide⟩)).play slotsBack =
            some ([.ended ⟨1⟩ (.semaphore 0) .signaled, .gave 0 2,
              .ended ⟨2⟩ (.semaphore 0) .signaled], last) ∧
        ∃ semaphore, last.host.semaphores.get? 0 = some semaphore ∧ semaphore.count = 1 ∧
          (last.host.releaseSemaphore 0 1 semaphore).1 = .ok 1 ∧
          last.host.releaseSemaphore 0 2 semaphore =
            (.error (.sync .semaphoreOverflow), last.host) ∧
          last.host.releaseSemaphore 0 (2 ^ 32 - 1) semaphore =
            (.error (.sync .semaphoreOverflow), last.host) := by
  refine ⟨_, rfl, _, rfl, _, rfl, ?_⟩
  have before := run_heedAll (@Orderly.create {} (fun _ => .ok (.memory 0 [])) _ rfl)
    [.spawn, .spawn] rfl
  obtain ⟨semaphore, made, runs⟩ :=
    @count_add_slotsTaken {} (fun _ => .ok (.memory 0 [])) _ _ _ rfl before 1 2 (by decide)
      (by decide)
  cases made
  obtain ⟨now, found, bound, -, balance, given, refused, overflown⟩ :=
    runs _ _ (run_of_play slotsBack rfl)
  cases found
  exact ⟨Nat.add_right_cancel balance, given 1 (by decide), refused 2 (by decide),
    overflown (2 ^ 32 - 1) (by decide) (by decide)⟩

end Steward.Scene
