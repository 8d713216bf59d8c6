import Steward.Host.Watch
import Steward.Proofs.Deadlock.Ring

/-! Rings among the threads of a host. While the answers about owners stay the same, what a host
finds depends on the wait edges alone, and whoever closes a ring is told of all of it. -/

set_option autoImplicit false

namespace Steward.Host

open Deadlock

/-- Somebody tells the owners of locks, and what he tells does not change by asking. -/
structure FixedOwners (host : Host) (owner : Cookie → Option ThreadId) : Prop where
  installed : host.detector.hasOracle = true
  unprepared : ∀ cookie, host.owners.prepared.getD cookie [] = []
  table : ∀ cookie, host.owners.table.get? cookie = owner cookie

namespace FixedOwners

variable {host : Host} {owner : Cookie → Option ThreadId}

theorem askOwner_eq (fixed : host.FixedOwners owner) (asker : ThreadId) (cookie : Cookie) :
    askOwner asker cookie host = (owner cookie, { host with
      owners := { host.owners with asked := cookie :: host.owners.asked } }) := by
  have none : host.owners.next cookie =
      ({}, { host.owners with asked := cookie :: host.owners.asked }) := by
    have unprepared := fixed.unprepared cookie
    unfold Owners.next
    split
    · next answer rest found => simp [Assoc.getD, found] at unprepared
    · rfl
  simp [askOwner, none, Owners.ownerIn, fixed.table cookie]

theorem asked (fixed : host.FixedOwners owner) (cookies : List Cookie) :
    FixedOwners { host with owners := { host.owners with asked := cookies } } owner :=
  ⟨fixed.installed, fixed.unprepared, fixed.table⟩

theorem tryEnter (fixed : host.FixedOwners owner) (asker thread : ThreadId) (cookie : Cookie) :
    let shown := register host.detector.waits thread cookie
    (host.tryEnter asker thread cookie).1 = Deadlock.detect owner shown thread cookie ∧
      (host.tryEnter asker thread cookie).2.detector.waits = shown ∧
      FixedOwners (host.tryEnter asker thread cookie).2 owner := by
  intro shown
  -- Being asked only notes the question, so the search sees the same edges and owners throughout.
  have answers : ∀ world : Host, world.FixedOwners owner ∧ world.detector.waits = shown →
      ∀ cookie, ((oracle asker).ask cookie world).1 = owner cookie ∧
        (((oracle asker).ask cookie world).2.FixedOwners owner ∧
          ((oracle asker).ask cookie world).2.detector.waits = shown) := by
    rintro world ⟨same, edges⟩ cookie
    simp only [oracle, same.askOwner_eq]
    exact ⟨trivial, same.asked _, edges⟩
  have begun : FixedOwners { host with detector := host.detector.register thread cookie } owner :=
    ⟨fixed.installed, fixed.unprepared, fixed.table⟩
  have found := Oracle.follow_eq_fixed (fun _ steady => steady.2) answers (.start thread cookie)
    ⟨begun, rfl⟩
  rw [Host.tryEnter, Host.detect, if_pos begun.installed]
  exact ⟨found.1, found.2.2, found.2.1⟩

/-- Where nobody owns any lock, one question is all of the search. -/
theorem tryEnter_of_unowned (fixed : host.FixedOwners fun _ => none)
    (asker thread : ThreadId) (cookie : Cookie) :
    host.tryEnter asker thread cookie = (none, { host with
      detector := host.detector.register thread cookie
      owners := { host.owners with asked := cookie :: host.owners.asked } }) := by
  have shown : FixedOwners { host with detector := host.detector.register thread cookie }
      fun _ => none := ⟨fixed.installed, fixed.unprepared, fixed.table⟩
  rw [Host.tryEnter, Host.detect, if_pos shown.installed, Oracle.follow_eq]
  simp only [oracle, Walk.start, shown.askOwner_eq, Walk.meet]

end FixedOwners

/-- A call by which a thread says what some thread waits for. -/
structure EnterCall where
  asker : ThreadId
  thread : ThreadId
  cookie : Cookie

/-- Calls made one after the other, with nobody ending a wait in between. -/
def enterAll (host : Host) : List EnterCall → List (Option Report) × Host
  | [] => ([], host)
  | call :: rest =>
      let (report, entered) := host.tryEnter call.asker call.thread call.cookie
      let (reports, left) := entered.enterAll rest
      (report :: reports, left)

theorem enterAll_eq {host : Host} {owner : Cookie → Option ThreadId}
    (fixed : host.FixedOwners owner) (calls : List EnterCall) :
    (host.enterAll calls).1 = Deadlock.enterAll owner host.detector.waits
      (calls.map fun call => (call.thread, call.cookie)) := by
  induction calls generalizing host with
  | nil => rfl
  | cons call rest ih =>
    obtain ⟨told, edges, kept⟩ := fixed.tryEnter call.asker call.thread call.cookie
    simp only [enterAll, List.map_cons, Deadlock.enterAll, told, ih kept, edges]

/-- The threads of a ring that did not wait before are told nothing, whatever the order in which
they come and whatever the others wait for, up to the last one, who is told of the whole ring. -/
theorem enterAll_ring {owner : Cookie → Option ThreadId} (ring : Ring owner) {waits : Waits}
    (idle : ∀ index < ring.length, waits.get? (ring.thread index) = none) {order : List Nat}
    {last : Nat} (every : (order ++ [last]).Perm (List.range ring.length)) :
    Deadlock.enterAll owner waits
        ((order ++ [last]).map fun index => (ring.thread index, ring.cookie index)) =
        order.map (fun _ => none) ++ [some (ring.report last)] ∧
      ∀ (host : Host) (asker : Nat → ThreadId), host.FixedOwners owner →
        host.detector.waits = waits →
        (host.enterAll ((order ++ [last]).map fun index =>
          ⟨asker index, ring.thread index, ring.cookie index⟩)).1 =
          order.map (fun _ => none) ++ [some (ring.report last)] := by
  have before : ring.Entered waits [] := fun index within => by
    rw [idle index within]
    simp
  have reports := ring.enterAll_of_entered before every
  refine ⟨reports, fun host asker fixed edges => ?_⟩
  rw [enterAll_eq fixed, edges, List.map_map]
  exact reports

def threeLocks : Owners :=
  ((Owners.own {} ⟨0xa⟩ ⟨2⟩).own ⟨0xb⟩ ⟨3⟩).own ⟨0xc⟩ ⟨1⟩

def threeThreads : Ring threeLocks.table.get? where
  length := 3
  thread index := ⟨index + 1⟩
  cookie index := ⟨index + 0xa⟩
  distinct := by simp
  owned := by decide

/-- A fourth thread waits for a lock of the ring, and the first thread of the ring comes last. -/
theorem enterAll_threeThreads :
    ∃ start host, create {} (fun _ => .ok (.memory 0 [])) = .ok start ∧
      host = { start with
        owners := threeLocks, detector := ⟨(Assoc.empty : Waits).insert ⟨9⟩ ⟨0xb⟩, true, 0⟩ } ∧
      (host.enterAll [⟨⟨2⟩, ⟨2⟩, ⟨0xb⟩⟩, ⟨⟨3⟩, ⟨3⟩, ⟨0xc⟩⟩, ⟨⟨1⟩, ⟨1⟩, ⟨0xa⟩⟩]).1 =
        [none, none, some ⟨[⟨⟨1⟩, ⟨0xa⟩, ⟨2⟩⟩, ⟨⟨2⟩, ⟨0xb⟩, ⟨3⟩⟩, ⟨⟨3⟩, ⟨0xc⟩, ⟨1⟩⟩]⟩] := by
  refine ⟨_, _, rfl, rfl, ?_⟩
  have everyone : ([1, 2] ++ [0]).Perm (List.range threeThreads.length) := by decide
  exact (enterAll_ring threeThreads (by decide) everyone).2 _ threeThreads.thread
    ⟨rfl, fun _ => rfl, fun _ => rfl⟩ rfl

end Steward.Host
