import Steward.Host.Watch
import Steward.Proofs.Deadlock.Ring
import Steward.Proofs.Domain.Quota

/-! What goes on beside the waits and the domains of a host. Threads that wake each other, take what
they wait for or ask for the owners of locks change neither who is in which domain nor who waits for
what nor, as long as no answer ends a wait, the wait edges. -/

set_option autoImplicit false

namespace Steward.Deadlock.Owners

/-- No prepared answer makes a thread stop waiting. -/
def Aloof (owners : Owners) : Prop :=
  ∀ cookie answers, owners.prepared.get? cookie = some answers →
    ∀ answer ∈ answers, answer.endEnter = none

theorem Aloof.prepare {owners : Owners} (aloof : owners.Aloof) (cookie : Cookie)
    {answers : List Prepared} (quiet : ∀ answer ∈ answers, answer.endEnter = none) :
    (owners.prepare cookie answers).Aloof := by
  intro other found there
  simp only [Owners.prepare, Assoc.get?_insert] at there
  split at there
  · cases there
    exact quiet
  · exact aloof other found there

theorem Aloof.next {owners : Owners} (aloof : owners.Aloof) (cookie : Cookie) :
    (owners.next cookie).1.endEnter = none ∧ (owners.next cookie).2.Aloof := by
  unfold Owners.next
  split
  · next answer rest found =>
    have quiet := aloof cookie _ found
    exact ⟨quiet answer (by simp),
      aloof.prepare cookie fun other inside => quiet other (List.mem_cons_of_mem _ inside)⟩
  · exact ⟨rfl, aloof⟩

end Steward.Deadlock.Owners

namespace Steward.Host

open Deadlock

/-- What the wait of a thread is part of. -/
def purpose? (host : Host) (thread : ThreadId) : Option Purpose :=
  (host.waits.get? thread).map Wait.purpose

/-- Nobody began or ended a wait, and nobody came or went. -/
structure Steady (host after : Host) : Prop where
  members : host.registry.SameMembers after.registry
  nextThread : after.nextThread = host.nextThread
  purposes : ∀ thread, after.purpose? thread = host.purpose? thread
  edges : host.owners.Aloof → after.owners.Aloof ∧ after.detector.waits = host.detector.waits

namespace Steady

variable {host middle after : Host}

theorem of_same (registry : after.registry = host.registry)
    (nextThread : after.nextThread = host.nextThread) (waits : after.waits = host.waits)
    (owners : after.owners = host.owners)
    (edges : after.detector.waits = host.detector.waits) : Steady host after where
  members := registry ▸ .refl host.registry
  nextThread := nextThread
  purposes thread := by rw [purpose?, waits, purpose?]
  edges aloof := ⟨owners ▸ aloof, edges⟩

theorem refl (host : Host) : Steady host host := of_same rfl rfl rfl rfl rfl

theorem trans (first : Steady host middle) (second : Steady middle after) : Steady host after where
  members := first.members.trans second.members
  nextThread := second.nextThread.trans first.nextThread
  purposes thread := (second.purposes thread).trans (first.purposes thread)
  edges aloof := by
    obtain ⟨still, before⟩ := first.edges aloof
    obtain ⟨last, later⟩ := second.edges still
    exact ⟨last, later.trans before⟩

theorem of_waits {waits : Assoc ThreadId Wait}
    (same : ∀ thread, (waits.get? thread).map Wait.purpose = host.purpose? thread) :
    Steady host { host with waits } :=
  ⟨.refl host.registry, rfl, same, fun aloof => ⟨aloof, rfl⟩⟩

end Steady

theorem purpose_wake (wait : Wait) : wait.wake.purpose = wait.purpose := by
  unfold Wait.wake
  split <;> rfl

theorem steady_wakeOne (host : Host) (target : Target) : Steady host (host.wakeOne target) := by
  unfold wakeOne
  split
  · next woken _ _ =>
    refine .of_waits fun thread => ?_
    rw [Assoc.get?_modify, Option.map_map, purpose?]
    refine Option.map_congr fun wait _ => ?_
    by_cases same : thread = woken <;> simp [same, purpose_wake]
  · exact .refl host

theorem steady_wakeSome (target : Target) (count : Nat) (host : Host) :
    Steady host (wakeSome target count host) := by
  induction count generalizing host with
  | zero => exact .refl host
  | succ count ih => exact (host.steady_wakeOne target).trans (ih _)

theorem steady_mapValues (host : Host) (change : ThreadId → Wait → Wait)
    (same : ∀ thread wait, (change thread wait).purpose = wait.purpose) :
    Steady host { host with waits := host.waits.mapValues change } := by
  refine .of_waits fun thread => ?_
  rw [Assoc.get?_mapValues, Option.map_map, purpose?]
  exact Option.map_congr fun wait _ => same thread wait

theorem steady_wakeAll (host : Host) (target : Target) : Steady host (host.wakeAll target) := by
  refine host.steady_mapValues _ fun _ wait => ?_
  split
  · exact purpose_wake wait
  · rfl

theorem steady_elapse (host : Host) (clock : Nat) : Steady host (host.elapse clock) := by
  have later : Steady host { host with clock := max host.clock clock } :=
    .of_same rfl rfl rfl rfl rfl
  refine later.trans (steady_mapValues _ _ fun _ wait => ?_)
  split
  · exact purpose_wake wait
  · rfl

theorem steady_clearAlert (host : Host) (thread : ThreadId) :
    Steady host (host.clearAlert thread) := .of_same rfl rfl rfl rfl rfl

theorem steady_passOn (host : Host) (target : Target) : Steady host (host.passOn target) := by
  unfold passOn
  split
  · split
    · exact host.steady_wakeOne _
    · exact .refl host
  · exact .refl host

theorem steady_setSignal (host : Host) (serial : Nat) : Steady host (host.setSignal serial) := by
  unfold setSignal
  split
  · exact .refl host
  · next signal _ =>
    have set : Steady host { host with signals := host.signals.insert serial signal.set } :=
      .of_same rfl rfl rfl rfl rfl
    simp only
    split
    · exact set.trans (steady_wakeAll _ _)
    · exact set.trans (steady_wakeOne _ _)

theorem steady_setMonitor (host : Host) (thread : ThreadId) (serial : Nat) (cookie : Cookie) :
    Steady host (host.setMonitor thread serial cookie) :=
  (host.steady_setSignal serial).trans (.of_same rfl rfl rfl rfl rfl)

theorem steady_askOwner (host : Host) (asker : ThreadId) (cookie : Cookie) :
    Steady host (askOwner asker cookie host).2 := by
  let asked := { host with owners := (host.owners.next cookie).2 }
  unfold askOwner
  simp only
  cases ending : (host.owners.next cookie).1.endEnter with
  | none =>
    have first : Steady host asked :=
      ⟨.refl _, rfl, fun _ => rfl, fun aloof => ⟨(aloof.next cookie).2, rfl⟩⟩
    split
    · exact first.trans (steady_setMonitor _ _ _ _)
    · exact first
  | some thread =>
    -- Only an answer that ends a wait would touch a wait edge.
    have first : Steady host (asked.endEnter thread) := by
      refine ⟨.refl _, rfl, fun _ => rfl, fun aloof => ?_⟩
      have quiet := (aloof.next cookie).1
      rw [ending] at quiet
      cases quiet
    split
    · exact first.trans (steady_setMonitor _ _ _ _)
    · exact first

theorem steady_detect (host : Host) (asker thread : ThreadId) (cookie : Cookie) :
    Steady host (host.detect asker thread cookie).2 := by
  unfold detect
  split
  · exact Oracle.follow_keeps
      (fun world steady other => steady.trans (world.steady_askOwner asker other)) _ (.refl host)
  · exact .refl host

theorem steady_take? {host after : Host} {thread : ThreadId} {target : Target} {ending : Ending}
    (taken : host.take? thread target = some (ending, after)) : Steady host after := by
  cases target with
  | signal | semaphore | lock =>
    simp only [take?, Option.bind_eq_bind, Option.bind_eq_some_iff, Option.pure_def,
      Option.some.injEq, Prod.mk.injEq] at taken
    obtain ⟨_, _, _, _, _, rfl⟩ := taken
    exact .of_same rfl rfl rfl rfl rfl
  | notice =>
    simp only [take?, Option.bind_eq_bind, Option.bind_eq_some_iff, Option.pure_def,
      Option.some.injEq, Prod.mk.injEq] at taken
    obtain ⟨⟨_, left⟩, _, _, rfl⟩ := taken
    exact ⟨.noticed _ left, rfl, fun _ => rfl, fun aloof => ⟨aloof, rfl⟩⟩
  | gate other =>
    simp only [take?] at taken
    split at taken
    · cases taken
    · cases taken
      exact .refl host
    · cases taken
      exact .refl host
  | exit | workers =>
    simp only [take?] at taken
    split at taken
    · cases taken
      exact .refl host
    · cases taken
  | sleep => cases taken

/-- A look brings a wait to its end, or sends the thread to sleep. -/
theorem attempt_cases (host : Host) (thread : ThreadId) (wait : Wait) :
    (∃ ending after, host.attempt thread wait = (some ending, after) ∧ Steady host after) ∨
      host.attempt thread wait =
        (none, { host with waits := host.waits.insert thread { wait with stage := .asleep } }) := by
  unfold attempt look
  split
  · exact .inl ⟨_, _, rfl, (host.steady_clearAlert thread).trans (steady_passOn _ _)⟩
  · split
    · next ending after taken => exact .inl ⟨ending, after, rfl, steady_take? taken⟩
    · split
      · exact .inl ⟨_, _, rfl, host.steady_clearAlert thread⟩
      · split
        · exact .inl ⟨_, _, rfl, .refl host⟩
        · exact .inr rfl

end Steward.Host
