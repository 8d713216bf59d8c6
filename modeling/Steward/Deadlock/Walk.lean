import Steward.Assoc
import Steward.Deadlock.Report

/-! The search for a ring among waiting threads. It goes from a thread to the owner of the lock
that the thread waits for, and on from there, until nobody is found, or somebody who waits for
nothing, or a thread that was met before. -/

set_option autoImplicit false

namespace Steward.Deadlock

/-- Which lock each waiting thread waits for. -/
abbrev Waits := Assoc ThreadId Cookie

/-- The threads met so far, and the lock that the last one waits for. -/
structure Walk where
  chain : List ThreadId
  lock : Cookie
  deriving DecidableEq

inductive Progress where
  | verdict (report : Option Report)
  | onward (walk : Walk)

/-- The threads of a ring with their locks, unless one of them stopped waiting. -/
def ringOf (waits : Waits) : List ThreadId → Option (List (ThreadId × Cookie))
  | [] => some []
  | thread :: rest =>
      match waits.get? thread, ringOf waits rest with
      | some cookie, some ring => some ((thread, cookie) :: ring)
      | _, _ => none

namespace Walk

def start (thread : ThreadId) (cookie : Cookie) : Walk := ⟨[thread], cookie⟩

/-- Go on to the owner of the lock. A thread that was met before closes a ring, which starts
there. -/
def meet (walk : Walk) (waits : Waits) : Option ThreadId → Progress
  | none => .verdict none
  | some owner =>
      if owner ∈ walk.chain then
        .verdict ((ringOf waits (walk.chain.dropWhile fun met => met ≠ owner)).map Report.ofRing)
      else
        match waits.get? owner with
        | none => .verdict none
        | some cookie => .onward ⟨walk.chain ++ [owner], cookie⟩

/-- How many waiting threads were not met yet. -/
def ahead (walk : Walk) (waits : Waits) : Nat := waits.keys.countP fun thread => thread ∉ walk.chain

theorem countP_lt_countP {α : Type} {items : List α} {first second : α → Bool} (item : α)
    (weaker : ∀ other, first other = true → second other = true) (inside : item ∈ items)
    (fails : first item = false) (holds : second item = true) :
    items.countP first < items.countP second := by
  induction items with
  | nil => simp at inside
  | cons head rest ih =>
    have le := List.countP_mono_left (l := rest) fun other _ => weaker other
    rcases List.mem_cons.1 inside with rfl | later
    · simp only [List.countP_cons, fails, holds]
      simp
      omega
    · have less := ih later
      have here : (if first head = true then 1 else 0) ≤ if second head = true then 1 else 0 := by
        by_cases given : first head = true
        · simp [given, weaker head given]
        · simp [given]
      simp only [List.countP_cons]
      omega

/-- Every step meets a waiting thread for the first time. -/
theorem ahead_of_meet {walk next : Walk} {waits : Waits} {owner : Option ThreadId}
    (step : walk.meet waits owner = .onward next) : next.ahead waits < walk.ahead waits := by
  unfold meet at step
  split at step
  · simp at step
  · next owner =>
    split at step
    · simp at step
    · next fresh =>
      split at step
      · simp at step
      · next cookie found =>
        cases step
        apply countP_lt_countP owner
        · intro other
          simp only [decide_eq_true_eq, List.mem_append, not_or]
          exact And.left
        · exact List.mem_map_of_mem (Assoc.mem_of_get? found)
        · simp
        · simpa using fresh

theorem ahead_le_of_sublist (walk : Walk) {fewer waits : Waits}
    (part : fewer.keys.Sublist waits.keys) : walk.ahead fewer ≤ walk.ahead waits :=
  part.countP_le

end Walk

/-- Someone who knows the owners of locks. Being asked may change the world, but it does not make
a thread wait. -/
structure Oracle (World : Type) where
  ask : Cookie → World → Option ThreadId × World
  waits : World → Waits
  waits_ask : ∀ cookie world, (waits (ask cookie world).2).keys.Sublist (waits world).keys

namespace Oracle

variable {World : Type}

/-- Walk to the end, one question for each step. -/
def follow (oracle : Oracle World) (walk : Walk) (world : World) : Option Report × World :=
  let told := oracle.ask walk.lock world
  match _step : walk.meet (oracle.waits told.2) told.1 with
  | .verdict report => (report, told.2)
  | .onward next => oracle.follow next told.2
termination_by walk.ahead (oracle.waits world)
decreasing_by
  exact Nat.lt_of_lt_of_le (Walk.ahead_of_meet _step)
    (walk.ahead_le_of_sublist (oracle.waits_ask walk.lock world))

/-- Owners that do not change while they are asked for. -/
def fixed (owner : Cookie → Option ThreadId) : Oracle Waits where
  ask cookie waits := (owner cookie, waits)
  waits := id
  waits_ask _ _ := List.Sublist.refl _

end Oracle

/-- The ring that a thread runs into, when it waits for a lock. -/
def detect (owner : Cookie → Option ThreadId) (waits : Waits) (thread : ThreadId)
    (cookie : Cookie) : Option Report :=
  ((Oracle.fixed owner).follow (.start thread cookie) waits).1

end Steward.Deadlock
