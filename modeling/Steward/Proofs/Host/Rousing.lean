import Steward.Proofs.Host.Pending

/-! Waking as such. Whatever wakes threads makes some of those who sleep look again, and changes
nothing else about a host. A wake-up is meant for one of those who sleep on a target, or for all of
them. -/

set_option autoImplicit false

namespace Steward

namespace Host

theorem Wait.wake_wake (wait : Wait) : wait.wake.wake = wait.wake := by
  unfold Wait.wake
  split <;> rfl

theorem Wait.wake_of_stirring {wait : Wait} (stirs : wait.stage ≠ .asleep) : wait.wake = wait :=
  if_neg stirs

@[simp] theorem Wait.wake_target (wait : Wait) : wait.wake.target = wait.target := by
  unfold Wait.wake
  split <;> rfl

@[simp] theorem Wait.wake_options (wait : Wait) : wait.wake.options = wait.options := by
  unfold Wait.wake
  split <;> rfl

@[simp] theorem Wait.wake_deadline (wait : Wait) : wait.wake.deadline = wait.deadline := by
  unfold Wait.wake
  split <;> rfl

theorem Wait.wake_stirs (wait : Wait) : wait.wake.stage ≠ .asleep := by
  unfold Wait.wake
  split
  · nofun
  · assumption

variable {host middle after : Host}

/-- Wake those who sleep among some of the waiting threads. -/
def rouse (host : Host) (woken : ThreadId → Wait → Bool) : Host :=
  { host with waits := host.waits.mapValues fun thread wait =>
      if woken thread wait then wait.wake else wait }

theorem get?_rouse (host : Host) (woken : ThreadId → Wait → Bool) (thread : ThreadId) :
    (host.rouse woken).waits.get? thread =
      (host.waits.get? thread).map fun wait => if woken thread wait then wait.wake else wait :=
  Assoc.get?_mapValues ..

theorem rouse_rouse (host : Host) (first second : ThreadId → Wait → Bool) :
    (host.rouse first).rouse second = host.rouse fun thread wait =>
      first thread wait || second thread (if first thread wait then wait.wake else wait) := by
  simp only [rouse, Assoc.mapValues_mapValues]
  congr
  funext thread wait
  by_cases early : first thread wait = true
  · simp only [early, if_true, Wait.wake_wake, ite_self, Bool.true_or]
  · simp only [early, Bool.false_eq_true, if_false, Bool.false_or]

theorem rouse_nobody (host : Host) : host.rouse (fun _ _ => false) = host := by
  simp [rouse, Assoc.mapValues]

/-- At most, threads were woken. -/
def Rouses (host after : Host) : Prop := ∃ woken, after = host.rouse woken

namespace Rouses

theorem refl (host : Host) : Rouses host host := ⟨_, host.rouse_nobody.symm⟩

theorem trans (first : Rouses host middle) (second : Rouses middle after) : Rouses host after := by
  obtain ⟨early, rfl⟩ := first
  obtain ⟨late, rfl⟩ := second
  exact ⟨_, rouse_rouse host early late⟩

end Rouses

theorem rouses_wakeOne (host : Host) (target : Target) : Rouses host (host.wakeOne target) := by
  unfold wakeOne
  split
  · next woken _ _ => exact ⟨fun thread _ => decide (thread = woken), by simp [rouse, Assoc.modify]⟩
  · exact .refl host

theorem rouses_wakeAll (host : Host) (target : Target) : Rouses host (host.wakeAll target) :=
  ⟨fun _ wait => decide (wait.target = target), by simp [rouse, wakeAll]⟩

/-! ### Wake-ups -/

/-- A wake-up for everyone who sleeps on a target, or for one of them. -/
structure WakeUp where
  target : Target
  everyone : Bool
  deriving DecidableEq

/-- Wake whom a wake-up is meant for. -/
def deliver (host : Host) (wakeUp : WakeUp) : Host :=
  if wakeUp.everyone then host.wakeAll wakeUp.target else host.wakeOne wakeUp.target

def deliverAll (host : Host) (wakeUps : List WakeUp) : Host := wakeUps.foldl deliver host

theorem rouses_deliver (host : Host) (wakeUp : WakeUp) : Rouses host (host.deliver wakeUp) := by
  unfold deliver
  split
  · exact host.rouses_wakeAll _
  · exact host.rouses_wakeOne _

theorem rouses_deliverAll (host : Host) (wakeUps : List WakeUp) :
    Rouses host (host.deliverAll wakeUps) := by
  induction wakeUps generalizing host with
  | nil => exact .refl host
  | cons wakeUp rest ih => exact (host.rouses_deliver wakeUp).trans (ih _)

theorem deliverAll_append (host : Host) (first second : List WakeUp) :
    host.deliverAll (first ++ second) = (host.deliverAll first).deliverAll second :=
  List.foldl_append

/-- Only the waits decide who is woken. -/
theorem waits_deliver {first second : Host} (same : first.waits = second.waits)
    (wakeUp : WakeUp) : (first.deliver wakeUp).waits = (second.deliver wakeUp).waits := by
  unfold deliver
  split
  · simp only [wakeAll, same]
  · simp only [wakeOne, same]
    split <;> simp only [same]

theorem waits_deliverAll {first second : Host} (same : first.waits = second.waits)
    (wakeUps : List WakeUp) :
    (first.deliverAll wakeUps).waits = (second.deliverAll wakeUps).waits := by
  induction wakeUps generalizing first second with
  | nil => exact same
  | cons wakeUp rest ih => exact ih (waits_deliver same wakeUp)

/-- Nothing but the waits changes when threads are woken. -/
theorem eq_deliverAll {begun : Host} {wakeUps : List WakeUp}
    (same : begun = { after with waits := begun.waits })
    (delivered : after.waits = (begun.deliverAll wakeUps).waits) :
    after = begun.deliverAll wakeUps := by
  obtain ⟨woken, roused⟩ := begun.rouses_deliverAll wakeUps
  rw [roused] at delivered ⊢
  rw [same]
  simp only [rouse] at delivered ⊢
  rw [← delivered]

theorem wakeSome_eq_deliverAll (target : Target) (count : Nat) (host : Host) :
    wakeSome target count host = host.deliverAll (List.replicate count ⟨target, false⟩) := by
  induction count generalizing host with
  | zero => rfl
  | succ count ih => exact ih (host.wakeOne target)

/-- An outcome of the register is put in place, and readers of its notices are woken. -/
theorem rouses_adopt (host : Host) (registry : Domain.Registry) :
    Rouses { host with registry } (host.adopt registry) := by
  rw [adopt, wakeSome_eq_deliverAll]
  exact rouses_deliverAll _ _

end Host

end Steward
