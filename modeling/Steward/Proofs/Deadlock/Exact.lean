import Steward.Proofs.Host.Deadlock

/-! What a search finds, said without the search. From a thread one comes to the owner of the lock
that it waits for, and on from there. Whoever never comes to an end runs into a cycle, and it is
this cycle that a report tells of. -/

set_option autoImplicit false

namespace Steward.Deadlock

namespace Report

theorem cycle_ofRing (ring : List (ThreadId × Cookie)) :
    (ofRing ring).cycle =
      (ring.zip (ring.drop 1 ++ ring.take 1)).map fun pair => ⟨pair.1.1, pair.1.2, pair.2.1⟩ := by
  rw [ofRing, ← List.map_uncurry_zip_eq_zipWith]
  rfl

theorem length_turned (ring : List (ThreadId × Cookie)) :
    (ring.drop 1 ++ ring.take 1).length = ring.length := by
  rw [List.length_append, List.length_drop, List.length_take]
  omega

@[simp] theorem participants_ofRing (ring : List (ThreadId × Cookie)) :
    (ofRing ring).participants = ring.map Prod.fst := by
  have left := List.map_fst_zip (Nat.le_of_eq (length_turned ring).symm)
  rw [participants, cycle_ofRing, List.map_map, ← congrArg (List.map Prod.fst) left, List.map_map]
  rfl

@[simp] theorem cookies_ofRing (ring : List (ThreadId × Cookie)) :
    (ofRing ring).cookies = ring.map Prod.snd := by
  have left := List.map_fst_zip (Nat.le_of_eq (length_turned ring).symm)
  rw [cookies, cycle_ofRing, List.map_map, ← congrArg (List.map Prod.snd) left, List.map_map]
  rfl

@[simp] theorem owners_ofRing (ring : List (ThreadId × Cookie)) :
    (ofRing ring).cycle.map Edge.owner = (ring.drop 1 ++ ring.take 1).map Prod.fst := by
  have right := List.map_snd_zip (Nat.le_of_eq (length_turned ring))
  rw [cycle_ofRing, List.map_map, ← congrArg (List.map Prod.fst) right, List.map_map]
  rfl

theorem exists_of_mem_ofRing {ring : List (ThreadId × Cookie)} {edge : Edge}
    (inside : edge ∈ (ofRing ring).cycle) :
    ∃ (index : Nat) (within : index < ring.length), edge = ⟨ring[index].1, ring[index].2,
      (ring.get ⟨(index + 1) % ring.length,
        Nat.mod_lt _ (Nat.zero_lt_of_lt within)⟩).1⟩ := by
  obtain ⟨index, found⟩ := List.getElem?_of_mem inside
  have within : index < ring.length := by
    have below := (List.getElem?_eq_some_iff.1 found).1
    rwa [cycle_ofRing, List.length_map, List.length_zip, length_turned, Nat.min_self] at below
  rw [getElem?_ofRing ring within] at found
  exact ⟨index, within, (Option.some.inj found).symm⟩

end Report

theorem dropWhile_of_split {chain before after : List ThreadId} {other : ThreadId}
    (split : chain = before ++ other :: after) (apart : other ∉ before) :
    chain.dropWhile (fun met => met ≠ other) = other :: after := by
  rw [split, List.dropWhile_append_of_pos]
  · simp
  · intro met inside
    have different : met ≠ other := fun same => apart (same ▸ inside)
    simpa using different

/-- Threads that all wait make a ring. -/
theorem ringOf_of_waiting {waits : Waits} {threads : List ThreadId}
    (waiting : ∀ thread ∈ threads, (waits.get? thread).isSome) :
    ∃ ring, ringOf waits threads = some ring ∧ ring.map Prod.fst = threads ∧
      ring.map (some ∘ Prod.snd) = threads.map waits.get? := by
  induction threads with
  | nil => exact ⟨[], rfl, rfl, rfl⟩
  | cons thread rest ih =>
    obtain ⟨cookie, found⟩ := Option.isSome_iff_exists.1 (waiting thread (List.mem_cons_self ..))
    obtain ⟨ring, built, threads, cookies⟩ :=
      ih fun other inside => waiting other (List.mem_cons_of_mem _ inside)
    exact ⟨(thread, cookie) :: ring, by simp [ringOf, found, built], by simp [threads],
      by simp [found, cookies]⟩

/-- The owner of the lock that a thread waits for. -/
def next (owner : Cookie → Option ThreadId) (waits : Waits) (thread : ThreadId) :
    Option ThreadId :=
  (waits.get? thread).bind owner

/-- Who is reached from a thread by so many steps, unless a step leads to nobody. -/
def reach (owner : Cookie → Option ThreadId) (waits : Waits) (thread : ThreadId) :
    Nat → Option ThreadId
  | 0 => some thread
  | steps + 1 => (reach owner waits thread steps).bind (next owner waits)

section

variable {owner : Cookie → Option ThreadId} {waits : Waits} {thread : ThreadId}

theorem reach_none_of_le {steps later : Nat} (ended : reach owner waits thread steps = none)
    (le : steps ≤ later) : reach owner waits thread later = none := by
  induction le with
  | refl => exact ended
  | step _ ih => rw [reach, ih, Option.bind_none]

/-- Equal places are left to equal places. -/
theorem reach_add {first second : Nat}
    (same : reach owner waits thread first = reach owner waits thread second) (steps : Nat) :
    reach owner waits thread (first + steps) = reach owner waits thread (second + steps) := by
  induction steps with
  | zero => exact same
  | succ steps ih => rw [← Nat.add_assoc, ← Nat.add_assoc, reach, reach, ih]

/-- The way from a thread leads, after some steps, into a cycle, which is given from the first of
its threads on that is reached. -/
structure RunsInto (owner : Cookie → Option ThreadId) (waits : Waits) (thread : ThreadId)
    (lead : Nat) (cycle : List ThreadId) : Prop where
  nonempty : cycle ≠ []
  reached : ∀ step < cycle.length, reach owner waits thread (lead + step) = cycle[step]?
  closed : reach owner waits thread (lead + cycle.length) = reach owner waits thread lead
  distinct : ∀ first < lead + cycle.length, ∀ second < lead + cycle.length,
    reach owner waits thread first = reach owner waits thread second → first = second

namespace RunsInto

variable {lead : Nat} {cycle : List ThreadId}

theorem length_pos (runs : RunsInto owner waits thread lead cycle) : 0 < cycle.length :=
  List.length_pos_iff.2 runs.nonempty

/-- Whoever is reached later was reached before the cycle closed. -/
theorem exists_place (runs : RunsInto owner waits thread lead cycle) {steps : Nat}
    (further : lead ≤ steps) :
    ∃ step < cycle.length,
      reach owner waits thread steps = reach owner waits thread (lead + step) := by
  induction steps using Nat.strongRecOn with
  | ind steps ih =>
    have positive := runs.length_pos
    rcases Nat.lt_or_ge steps (lead + cycle.length) with early | late
    · exact ⟨steps - lead, by omega, by rw [Nat.add_sub_cancel' further]⟩
    · obtain ⟨step, within, same⟩ := ih (steps - cycle.length) (by omega) (by omega)
      have around := reach_add runs.closed (steps - cycle.length - lead)
      rw [show lead + cycle.length + (steps - cycle.length - lead) = steps by omega,
        show lead + (steps - cycle.length - lead) = steps - cycle.length by omega] at around
      exact ⟨step, within, around.trans same⟩

/-- Nobody comes to an end in a cycle. -/
theorem isSome (runs : RunsInto owner waits thread lead cycle) (steps : Nat) :
    (reach owner waits thread steps).isSome := by
  cases ended : reach owner waits thread steps with
  | some met => rfl
  | none =>
    -- What follows an end is an end as well, also in the cycle.
    have beyond := reach_none_of_le ended (Nat.le_add_left steps lead)
    obtain ⟨step, within, same⟩ := runs.exists_place (Nat.le_add_right lead steps)
    rw [beyond, runs.reached step within, List.getElem?_eq_getElem within] at same
    cases same

/-- A thread to which the way comes back is the first of the cycle. -/
theorem head?_eq (runs : RunsInto owner waits thread lead cycle) {steps : Nat}
    (positive : 0 < steps) (back : reach owner waits thread steps = some thread) :
    cycle.head? = some thread := by
  -- The way comes back again and again, at last where it runs in the cycle.
  have again : ∀ rounds, reach owner waits thread (rounds * steps) = some thread := by
    intro rounds
    induction rounds with
    | zero => rw [Nat.zero_mul, reach]
    | succ rounds ih =>
      have once : reach owner waits thread steps = reach owner waits thread 0 := back
      rw [Nat.succ_mul, Nat.add_comm, reach_add once, Nat.zero_add, ih]
  obtain ⟨step, within, same⟩ := runs.exists_place (Nat.le_mul_of_pos_right lead positive)
  have start := runs.distinct 0 (by omega) (lead + step) (by omega)
    (Eq.trans (again lead).symm same)
  have here := runs.reached 0 runs.length_pos
  rw [show lead = 0 by omega] at here
  rw [List.head?_eq_getElem?, ← here]
  rfl

theorem not_mem (runs : RunsInto owner waits thread lead cycle)
    (apart : ∀ steps, 0 < steps → reach owner waits thread steps ≠ some thread) :
    thread ∉ cycle := by
  intro inside
  obtain ⟨step, within, same⟩ := List.mem_iff_getElem.1 inside
  have here := runs.reached step within
  rw [List.getElem?_eq_getElem within, same] at here
  have again := reach_add runs.closed step
  rw [here] at again
  exact apart _ (by have := runs.length_pos; omega) again

end RunsInto

/-- A search has met the threads that are reached first, and all of them wait. -/
structure OnWay (owner : Cookie → Option ThreadId) (waits : Waits) (thread : ThreadId)
    (walk : Walk) : Prop where
  met : ∀ step < walk.chain.length, reach owner waits thread step = walk.chain[step]?
  distinct : walk.chain.Nodup
  waiting : ∀ other ∈ walk.chain, (waits.get? other).isSome
  lock : walk.chain.getLast?.bind waits.get? = some walk.lock

namespace OnWay

variable {walk : Walk}

theorem start {cookie : Cookie} (shown : waits.get? thread = some cookie) :
    OnWay owner waits thread (.start thread cookie) where
  met step within := by
    rw [Walk.start, List.length_singleton, Nat.lt_one_iff] at within
    rw [within]
    rfl
  distinct := by simp [Walk.start]
  waiting := by simp [Walk.start, shown]
  lock := by simp [Walk.start, shown]

theorem length_pos (on : OnWay owner waits thread walk) : 0 < walk.chain.length := by
  cases empty : walk.chain with
  | nil => simpa [empty] using on.lock
  | cons => simp

/-- The owner of the lock is who is reached next. -/
theorem told (on : OnWay owner waits thread walk) :
    owner walk.lock = reach owner waits thread walk.chain.length := by
  have positive := on.length_pos
  have lock := on.lock
  rw [List.getLast?_eq_getElem?, ← on.met _ (by omega)] at lock
  rw [show walk.chain.length = walk.chain.length - 1 + 1 by omega, reach]
  cases last : reach owner waits thread (walk.chain.length - 1) with
  | none => simp [last] at lock
  | some other => simpa [last, next] using congrArg (Option.bind · owner) lock.symm

theorem onward (on : OnWay owner waits thread walk) {other : ThreadId} {cookie : Cookie}
    (told : owner walk.lock = some other) (fresh : other ∉ walk.chain)
    (shown : waits.get? other = some cookie) :
    OnWay owner waits thread ⟨walk.chain ++ [other], cookie⟩ where
  met step within := by
    rw [List.length_append, List.length_singleton] at within
    rcases Nat.lt_or_eq_of_le (Nat.le_of_lt_succ within) with before | rfl
    · rw [List.getElem?_append_left before, on.met step before]
    · rw [List.getElem?_concat_length, ← on.told, told]
  distinct := List.nodup_append.2 ⟨on.distinct, by simp, fun first inside second last
    same => fresh (by rwa [← List.mem_singleton.1 last, ← same])⟩
  waiting first inside := by
    rcases List.mem_append.1 inside with before | last
    · exact on.waiting first before
    · rw [List.mem_singleton.1 last, shown]
      rfl
  lock := by simp [shown]

/-- Who is met for the second time closes a cycle. -/
theorem closes (on : OnWay owner waits thread walk) {other : ThreadId}
    (told : owner walk.lock = some other) {before after : List ThreadId}
    (split : walk.chain = before ++ other :: after) :
    RunsInto owner waits thread before.length (other :: after) where
  nonempty := List.cons_ne_nil _ _
  reached step within := by
    rw [on.met _ (by rw [split, List.length_append]; omega), split,
      List.getElem?_append_right (Nat.le_add_right _ _), Nat.add_sub_cancel_left]
  closed := by
    rw [← List.length_append, ← split, ← on.told, told,
      on.met _ (by rw [split, List.length_append, List.length_cons]; omega), split]
    simp
  distinct first within second further same := by
    rw [← List.length_append, ← split] at within further
    rw [on.met first within, on.met second further] at same
    exact (List.getElem?_inj within on.distinct).1 same

end OnWay

/-- What a search may say to a thread: the cycle that the thread runs into, or that it comes to an
end. -/
inductive Answers (owner : Cookie → Option ThreadId) (waits : Waits) (thread : ThreadId) :
    Option Report → Prop
  | ended (steps : Nat) (nobody : reach owner waits thread steps = none) :
      Answers owner waits thread none
  | cycle (lead : Nat) (report : Report)
      (runs : RunsInto owner waits thread lead report.participants)
      (locks : report.cookies.map some = report.participants.map waits.get?) :
      Answers owner waits thread (some report)

theorem OnWay.follow {walk : Walk} (on : OnWay owner waits thread walk) :
    Answers owner waits thread ((Oracle.fixed owner).follow walk waits).1 := by
  -- By induction on how many waiting threads were not met yet.
  induction left : walk.ahead waits using Nat.strongRecOn generalizing walk with
  | ind left ih =>
    rw [Oracle.follow_eq]
    simp only [Oracle.fixed, id]
    cases told : owner walk.lock with
    | none => exact .ended walk.chain.length (on.told.symm.trans told)
    | some other =>
      by_cases known : other ∈ walk.chain
      · obtain ⟨before, after, split, apart⟩ := List.eq_append_cons_of_mem known
        have shown : ∀ member ∈ other :: after, (waits.get? member).isSome := fun member inside =>
          on.waiting member (by
            rw [split]
            exact List.mem_append_right _ inside)
        obtain ⟨ring, built, threads, cookies⟩ := ringOf_of_waiting shown
        simp only [Walk.meet, if_pos known, dropWhile_of_split split apart, built, Option.map_some]
        refine .cycle before.length _ ?_ ?_
        · rw [Report.participants_ofRing, threads]
          exact on.closes told split
        · rw [Report.cookies_ofRing, Report.participants_ofRing, threads, List.map_map, cookies]
      · simp only [Walk.meet, if_neg known]
        cases shown : waits.get? other with
        | none =>
          refine .ended (walk.chain.length + 1) ?_
          rw [reach, ← on.told, told]
          simp [next, shown]
        | some cookie =>
          refine ih _ ?_ (on.onward told known shown) rfl
          have step : walk.meet waits (some other) =
              .onward ⟨walk.chain ++ [other], cookie⟩ := by
            simp [Walk.meet, known, shown]
          rw [← left]
          exact Walk.ahead_of_meet step

/-- What a thread is told that waits: of a cycle exactly when it never comes to an end, and then of
the cycle that it runs into, with the locks that are waited for there. -/
structure Exact (owner : Cookie → Option ThreadId) (waits : Waits) (thread : ThreadId)
    (found : Option Report) : Prop where
  endless : found.isSome ↔ ∀ steps, (reach owner waits thread steps).isSome
  cycle : ∀ report, found = some report →
    ∃ lead, RunsInto owner waits thread lead report.participants
  locks : ∀ report, found = some report →
    report.cookies.map some = report.participants.map waits.get?
  inside : ∀ report, found = some report → ∀ steps, 0 < steps →
    reach owner waits thread steps = some thread → report.participants.head? = some thread
  outside : ∀ report, found = some report →
    (∀ steps, 0 < steps → reach owner waits thread steps ≠ some thread) →
      thread ∉ report.participants

theorem Answers.exact {found : Option Report} (answers : Answers owner waits thread found) :
    Exact owner waits thread found := by
  cases answers with
  | ended steps nobody =>
    refine ⟨?_, ?_, ?_, ?_, ?_⟩
    · simpa using ⟨steps, nobody⟩
    all_goals simp
  | cycle lead report runs locks =>
    refine ⟨⟨fun _ => runs.isSome, fun _ => rfl⟩, ?_, ?_, ?_, ?_⟩ <;> rintro _ ⟨⟩
    · exact ⟨lead, runs⟩
    · exact locks
    · exact fun steps positive back => runs.head?_eq positive back
    · exact runs.not_mem

theorem get?_register {cookie : Cookie}
    (free : waits.get? thread = none ∨ waits.get? thread = some cookie) :
    (register waits thread cookie).get? thread = some cookie := by
  unfold register
  rcases free with absent | same
  · simp [Assoc.contains, absent]
  · simp [Assoc.contains, same]

end

end Steward.Deadlock

namespace Steward.Host

open Deadlock

/-- While the owners stay the same, a thread that waits for nothing else is told of a cycle exactly
when the way from it to the owners of the locks never ends, and then of the cycle that it runs
into. Where nobody tells the owners, no cycle is told of. -/
theorem tryEnter_exact :
    (∀ (owner : Cookie → Option ThreadId) (waits : Waits) (thread : ThreadId) (cookie : Cookie),
      waits.get? thread = none ∨ waits.get? thread = some cookie →
      let shown := register waits thread cookie
      let found := Deadlock.detect owner shown thread cookie
      Exact owner shown thread found ∧
        ∀ (host : Host) (asker : ThreadId), host.FixedOwners owner → host.detector.waits = waits →
          (host.tryEnter asker thread cookie).1 = found ∧
            (host.tryEnter asker thread cookie).2.detector.waits = shown) ∧
    ∀ (host : Host) (asker thread : ThreadId) (cookie : Cookie),
      host.detector.hasOracle = false →
      (host.tryEnter asker thread cookie).1 = none ∧
        (host.detect asker thread cookie).1 = none := by
  constructor
  · intro owner waits thread cookie free
    refine ⟨(OnWay.start (get?_register free)).follow.exact, fun host asker fixed edges => ?_⟩
    obtain ⟨told, after, -⟩ := fixed.tryEnter asker thread cookie
    exact edges ▸ ⟨told, after⟩
  · intro host asker thread cookie absent
    simp [tryEnter, Host.detect, Detector.register, absent]

/-- All of three threads wait for each other's locks. -/
def threeWaits : Waits :=
  ((Assoc.empty.insert ⟨1⟩ ⟨0xa⟩).insert ⟨2⟩ ⟨0xb⟩).insert ⟨3⟩ ⟨0xc⟩

/-- A fourth thread runs into the cycle, one step away from it. -/
theorem tryEnter_threeWaits :
    ∃ start host report lead, create {} (fun _ => .ok (.memory 0 [])) = .ok start ∧
      host = { start with owners := threeLocks, detector := ⟨threeWaits, true, 0⟩ } ∧
      (host.tryEnter ⟨9⟩ ⟨9⟩ ⟨0xb⟩).1 = some report ∧
      RunsInto threeLocks.table.get? (register threeWaits ⟨9⟩ ⟨0xb⟩) ⟨9⟩ lead
        report.participants ∧
      (∀ steps,
        (reach threeLocks.table.get? (register threeWaits ⟨9⟩ ⟨0xb⟩) ⟨9⟩ steps).isSome) := by
  obtain ⟨exact, hosts⟩ := tryEnter_exact.1 threeLocks.table.get? threeWaits ⟨9⟩ ⟨0xb⟩
    (.inl (by decide))
  have found : (Deadlock.detect threeLocks.table.get? (register threeWaits ⟨9⟩ ⟨0xb⟩) ⟨9⟩
      ⟨0xb⟩).isSome := by decide +kernel
  obtain ⟨report, told⟩ := Option.isSome_iff_exists.1 found
  obtain ⟨lead, runs⟩ := exact.cycle report told
  exact ⟨_, _, report, lead, rfl, rfl,
    (hosts _ ⟨9⟩ ⟨rfl, fun _ => rfl, fun _ => rfl⟩ rfl).1.trans told, runs, exact.endless.1 found⟩

end Steward.Host
