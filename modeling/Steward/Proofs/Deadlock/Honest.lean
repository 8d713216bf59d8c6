import Steward.Proofs.Deadlock.Exact

/-! What a report says, and what was answered. A search follows the lock that it was given for its
first thread, while the report names the lock that is noted for the thread. The other edges of a
report were all told by somebody who knows the owners. -/

set_option autoImplicit false

namespace Steward.Deadlock

variable {World : Type}

/-- A search goes on to the owner that it is told, if it did not meet him before and he waits. -/
theorem Walk.meet_eq_onward_iff {walk next : Walk} {waits : Waits} {answer : Option ThreadId} :
    walk.meet waits answer = .onward next ↔ ∃ owner lock, answer = some owner ∧
      owner ∉ walk.chain ∧ waits.get? owner = some lock ∧
        next = ⟨walk.chain ++ [owner], lock⟩ := by
  cases answer with
  | none => simp [meet]
  | some owner =>
    by_cases met : owner ∈ walk.chain
    · simp [meet, met]
    · cases shown : waits.get? owner with
      | none => simp [meet, met, shown]
      | some lock => simp [meet, met, shown, eq_comm]

namespace Oracle

/-- The questions of a search, with their answers. -/
def questions (oracle : Oracle World) (walk : Walk) (world : World) :
    List (Cookie × Option ThreadId) :=
  let told := oracle.ask walk.lock world
  match _step : walk.meet (oracle.waits told.2) told.1 with
  | .verdict _ => [(walk.lock, told.1)]
  | .onward next => (walk.lock, told.1) :: oracle.questions next told.2
termination_by walk.ahead (oracle.waits world)
decreasing_by
  exact Nat.lt_of_lt_of_le (Walk.ahead_of_meet _step)
    (walk.ahead_le_of_sublist (oracle.waits_ask walk.lock world))

theorem questions_eq (oracle : Oracle World) (walk : Walk) (world : World) :
    oracle.questions walk world =
      match walk.meet (oracle.waits (oracle.ask walk.lock world).2)
        (oracle.ask walk.lock world).1 with
      | .verdict _ => [(walk.lock, (oracle.ask walk.lock world).1)]
      | .onward next => (walk.lock, (oracle.ask walk.lock world).1) ::
          oracle.questions next (oracle.ask walk.lock world).2 := by
  rw [questions]
  split <;> simp_all

/-- What every answer confirms is confirmed by a whole search. -/
theorem questions_keep {oracle : Oracle World} {steady : World → Prop}
    {confirms : Cookie → Option ThreadId → Prop}
    (answers : ∀ world, steady world → ∀ cookie,
      confirms cookie (oracle.ask cookie world).1 ∧ steady (oracle.ask cookie world).2)
    (walk : Walk) {world : World} (start : steady world) :
    ∀ question ∈ oracle.questions walk world, confirms question.1 question.2 := by
  fun_induction oracle.questions walk world with
  | case1 walk world told report met =>
    simpa using (answers world start walk.lock).1
  | case2 walk world told next met ih =>
    obtain ⟨confirmed, kept⟩ := answers world start walk.lock
    simpa using ⟨confirmed, fun lock owner inside => ih kept (lock, owner) inside⟩

/-- Being asked does not change what a thread waits for, if the thread goes on to wait. -/
def Forgets (oracle : Oracle World) : Prop :=
  ∀ cookie world thread lock,
    (oracle.waits (oracle.ask cookie world).2).get? thread = some lock →
      (oracle.waits world).get? thread = some lock

end Oracle

/-- A report tells the truth: its edges are noted, the owners hold the locks, and the threads are
different and follow each other in a ring. -/
structure Honest (waits : Waits) (owns : Cookie → ThreadId → Prop) (report : Report) : Prop where
  nonempty : report.cycle ≠ []
  distinct : report.participants.Nodup
  recorded : ∀ edge ∈ report.cycle, waits.get? edge.thread = some edge.cookie
  owned : ∀ edge ∈ report.cycle, owns edge.cookie edge.owner
  closed : report.cycle.map Edge.owner = report.participants.drop 1 ++ report.participants.take 1

/-- What is true of the report of a search that begins with a thread and a lock: it is honest,
except that the owner told for the thread is the owner of the given lock. -/
structure Backed (waits : Waits) (owns : Cookie → ThreadId → Prop) (thread : ThreadId)
    (cookie : Cookie) (report : Report) : Prop where
  nonempty : report.cycle ≠ []
  distinct : report.participants.Nodup
  recorded : ∀ edge ∈ report.cycle, waits.get? edge.thread = some edge.cookie
  owned : ∀ edge ∈ report.cycle,
    owns (if edge.thread = thread then cookie else edge.cookie) edge.owner
  closed : report.cycle.map Edge.owner = report.participants.drop 1 ++ report.participants.take 1

section

variable {waits : Waits} {owns : Cookie → ThreadId → Prop} {thread : ThreadId} {cookie : Cookie}
  {report : Report}

theorem Backed.honest_iff (backed : Backed waits owns thread cookie report) :
    Honest waits owns report ↔
      ∀ edge ∈ report.cycle, edge.thread = thread → owns edge.cookie edge.owner := by
  constructor
  · exact fun honest edge inside _ => honest.owned edge inside
  · refine fun own => ⟨backed.nonempty, backed.distinct, backed.recorded, ?_, backed.closed⟩
    intro edge inside
    by_cases same : edge.thread = thread
    · exact own edge inside same
    · simpa only [if_neg same] using backed.owned edge inside

theorem Backed.honest (backed : Backed waits owns thread cookie report)
    (noted : ∀ lock, waits.get? thread = some lock → lock = cookie) : Honest waits owns report := by
  refine backed.honest_iff.2 fun edge inside same => ?_
  have given := backed.owned edge inside
  rw [if_pos same] at given
  rwa [noted edge.cookie (same ▸ backed.recorded edge inside)]

end

theorem of_ringOf {waits : Waits} {threads : List ThreadId} {ring : List (ThreadId × Cookie)}
    (built : ringOf waits threads = some ring) :
    ring.map Prod.fst = threads ∧ ∀ member ∈ ring, waits.get? member.1 = some member.2 := by
  induction threads generalizing ring with
  | nil =>
    cases built
    simp
  | cons thread rest ih =>
    rw [ringOf] at built
    split at built
    · next cookie later shown further =>
      cases built
      obtain ⟨threads, noted⟩ := ih further
      exact ⟨by rw [List.map_cons, threads], by simpa using ⟨shown, fun _ _ => noted _⟩⟩
    · cases built

/-- The threads that a search has met, each with the lock by which it went on from there. -/
structure Trail (waits : Waits) (owns : Cookie → ThreadId → Prop) (thread : ThreadId)
    (cookie : Cookie) (walk : Walk) (path : List (ThreadId × Cookie)) : Prop where
  threads : path.map Prod.fst = walk.chain
  distinct : walk.chain.Nodup
  first : thread ∈ walk.chain
  locks : ∀ member ∈ path, ∀ lock, waits.get? member.1 = some lock →
    member.2 = if member.1 = thread then cookie else lock
  last : path.getLast?.map Prod.snd = some walk.lock
  linked : ∀ index (inside : index + 1 < path.length), owns path[index].2 path[index + 1].1

namespace Trail

variable {waits : Waits} {owns : Cookie → ThreadId → Prop} {thread : ThreadId} {cookie : Cookie}
  {walk : Walk} {path : List (ThreadId × Cookie)}

theorem start : Trail waits owns thread cookie (.start thread cookie) [(thread, cookie)] where
  threads := rfl
  distinct := by simp [Walk.start]
  first := List.mem_singleton_self thread
  locks := by simp
  last := rfl
  linked index inside := by simp at inside

theorem forget {fewer : Waits} (trail : Trail waits owns thread cookie walk path)
    (part : ∀ other lock, fewer.get? other = some lock → waits.get? other = some lock) :
    Trail fewer owns thread cookie walk path :=
  { trail with
    locks := fun member inside lock noted => trail.locks member inside lock (part _ _ noted) }

theorem lock_eq (trail : Trail waits owns thread cookie walk path) (positive : 0 < path.length) :
    path[path.length - 1].2 = walk.lock := by
  have last := trail.last
  rw [List.getLast?_eq_getElem?, List.getElem?_eq_getElem (by omega)] at last
  simpa using last

theorem onward (trail : Trail waits owns thread cookie walk path) {other : ThreadId}
    {lock : Cookie} (told : owns walk.lock other) (fresh : other ∉ walk.chain)
    (shown : waits.get? other = some lock) :
    Trail waits owns thread cookie ⟨walk.chain ++ [other], lock⟩ (path ++ [(other, lock)]) where
  threads := by rw [List.map_append, trail.threads]; rfl
  distinct := List.nodup_append.2 ⟨trail.distinct, by simp, fun met inside second last same =>
    fresh (by rwa [← List.mem_singleton.1 last, ← same])⟩
  first := List.mem_append_left _ trail.first
  locks member inside noted found := by
    rcases List.mem_append.1 inside with before | last
    · exact trail.locks member before noted found
    · have apart : other ≠ thread := fun same => fresh (same ▸ trail.first)
      rw [List.mem_singleton.1 last] at found ⊢
      rw [if_neg apart]
      exact Option.some.inj (shown.symm.trans found)
  last := by simp
  linked index inside := by
    rw [List.length_append, List.length_singleton] at inside
    rcases Nat.lt_or_eq_of_le (Nat.le_of_lt_succ inside) with before | last
    · rw [List.getElem_append_left (by omega), List.getElem_append_left before]
      exact trail.linked index before
    · have lock := trail.lock_eq (by omega)
      simp only [← last, Nat.add_sub_cancel] at lock
      rw [List.getElem_append_left (by omega), lock, List.getElem_concat_length last]
      exact told

/-- The ring that is closed by a thread met before. -/
theorem closes (trail : Trail waits owns thread cookie walk path) {other : ThreadId}
    (told : owns walk.lock other) (known : other ∈ walk.chain) {ring : List (ThreadId × Cookie)}
    (built : ringOf waits (walk.chain.dropWhile fun met => met ≠ other) = some ring) :
    Backed waits owns thread cookie (Report.ofRing ring) := by
  obtain ⟨threads, noted⟩ := of_ringOf built
  obtain ⟨before, after, split, apart⟩ := List.eq_append_cons_of_mem known
  rw [dropWhile_of_split split apart] at threads
  have length : path.length = before.length + ring.length := by
    rw [← List.length_map Prod.fst, trail.threads, split, List.length_append, ← threads,
      List.length_map]
  have positive : 0 < ring.length := by
    rw [← List.length_map Prod.fst, threads]
    exact Nat.succ_pos _
  -- The ring lies at the end of the trail.
  have place : ∀ index (within : index < ring.length),
      ring[index].1 = path[before.length + index].1 := by
    intro index within
    have met : path.map Prod.fst = before ++ ring.map Prod.fst := by
      rw [trail.threads, split, threads]
    have same := congrArg (·[before.length + index]?) met
    simp only [List.getElem?_append_right (Nat.le_add_right _ _), Nat.add_sub_cancel_left,
      List.getElem?_map] at same
    rw [List.getElem?_eq_getElem (by omega), List.getElem?_eq_getElem within] at same
    simpa using same.symm
  have taken : ∀ index (within : index < ring.length),
      path[before.length + index].2 = if ring[index].1 = thread then cookie else ring[index].2 := by
    intro index within
    rw [place index within]
    refine trail.locks _ (List.getElem_mem _) _ ?_
    rw [← place index within]
    exact noted _ (List.getElem_mem _)
  refine ⟨?_, ?_, ?_, ?_, ?_⟩
  · intro empty
    have nobody : (Report.ofRing ring).participants = [] := by rw [Report.participants, empty]; rfl
    rw [Report.participants_ofRing, threads] at nobody
    cases nobody
  · rw [Report.participants_ofRing, threads, ← dropWhile_of_split split apart]
    exact (List.dropWhile_sublist _).nodup trail.distinct
  · intro edge inside
    obtain ⟨index, within, rfl⟩ := Report.exists_of_mem_ofRing inside
    exact noted _ (List.getElem_mem _)
  · intro edge inside
    obtain ⟨index, within, rfl⟩ := Report.exists_of_mem_ofRing inside
    simp only
    rw [← taken index within]
    rcases Nat.lt_or_eq_of_le (show index + 1 ≤ ring.length from within) with inner | last
    · simp only [Nat.mod_eq_of_lt inner, List.get_eq_getElem]
      rw [place (index + 1) inner]
      exact trail.linked (before.length + index) (by omega)
    · -- The last lock is the one that was asked for when the ring closed.
      have first : (ring.map Prod.fst)[0]? = some other := by rw [threads]; rfl
      have lock := trail.lock_eq (by omega)
      simp only [show path.length - 1 = before.length + index by omega] at lock
      simp only [last, Nat.mod_self, List.get_eq_getElem]
      rw [List.getElem?_map, List.getElem?_eq_getElem positive] at first
      rw [lock, Option.some.inj first]
      exact told
  · rw [Report.owners_ofRing, Report.participants_ofRing, List.map_append, List.map_drop,
      List.map_take]

/-- What a search finds that has come along a trail. -/
theorem follow {oracle : Oracle World} (forgets : oracle.Forgets) {world after : World}
    (trail : Trail (oracle.waits world) owns thread cookie walk path)
    (knows : ∀ lock owner, (lock, some owner) ∈ oracle.questions walk world → owns lock owner)
    {report : Report} (found : oracle.follow walk world = (some report, after)) :
    Backed (oracle.waits after) owns thread cookie report := by
  -- By induction on how many waiting threads were not met yet.
  induction left : walk.ahead (oracle.waits world) using Nat.strongRecOn
    generalizing walk world path with
  | ind left ih =>
    rw [Oracle.follow_eq] at found
    rw [Oracle.questions_eq] at knows
    have now := trail.forget (forgets walk.lock world)
    have fewer := walk.ahead_le_of_sublist (oracle.waits_ask walk.lock world)
    generalize oracle.ask walk.lock world = told at *
    cases met : walk.meet (oracle.waits told.2) told.1 with
    | verdict verdict =>
      simp only [met, Prod.mk.injEq, List.mem_singleton] at found knows
      obtain ⟨rfl, rfl⟩ := found
      unfold Walk.meet at met
      split at met
      · cases met
      · next other answered =>
        split at met
        · next known =>
          injection met with made
          obtain ⟨ring, built, rfl⟩ := Option.map_eq_some_iff.1 made
          exact now.closes (knows _ _ ⟨rfl, answered.symm⟩) known built
        · split at met <;> cases met
    | onward next =>
      simp only [met] at found knows
      have less := Walk.ahead_of_meet met
      obtain ⟨other, lock, answered, fresh, shown, rfl⟩ := Walk.meet_eq_onward_iff.1 met
      have owned := knows walk.lock other (by rw [answered]; exact List.mem_cons_self ..)
      exact ih _ (by omega) (now.onward owned fresh shown)
        (fun lock owner inside => knows lock owner (List.mem_cons_of_mem _ inside)) found rfl

end Trail

end Steward.Deadlock

namespace Steward.Host

open Deadlock

theorem setMonitor_detector (host : Host) (thread : ThreadId) (serial : Nat) (cookie : Cookie) :
    (host.setMonitor thread serial cookie).detector = host.detector := by
  rw [setMonitor, setSignal_detector]

theorem endEnter_forgets {host : Host} {gone thread : ThreadId} {lock : Cookie}
    (noted : (host.endEnter gone).detector.waits.get? thread = some lock) :
    host.detector.waits.get? thread = some lock := by
  by_cases same : thread = gone
  · simp [Host.endEnter, Detector.endEnter, same] at noted
  · simpa [Host.endEnter, Detector.endEnter, same] using noted

theorem oracle_forgets (asker : ThreadId) : (oracle asker).Forgets := by
  intro cookie host thread lock noted
  simp only [oracle, askOwner] at noted ⊢
  split at noted
  · rw [setMonitor_detector] at noted
    split at noted
    · exact endEnter_forgets noted
    · exact noted
  · split at noted
    · exact endEnter_forgets noted
    · exact noted

/-- Whatever a host answers to a search is held to be true. -/
def Knows (host : Host) (asker thread : ThreadId) (cookie : Cookie)
    (owns : Cookie → ThreadId → Prop) : Prop :=
  ∀ lock owner, (lock, some owner) ∈ (oracle asker).questions (.start thread cookie) host →
    owns lock owner

/-- The host while a thread shows what it waits for. -/
def shows (host : Host) (thread : ThreadId) (cookie : Cookie) : Host :=
  { host with detector := host.detector.register thread cookie }

variable {host after : Host} {asker thread : ThreadId} {cookie : Cookie}
  {owns : Cookie → ThreadId → Prop} {owner : Cookie → Option ThreadId} {report : Report}

theorem detect_backed (knows : host.Knows asker thread cookie owns)
    (found : host.detect asker thread cookie = (some report, after)) :
    Backed after.detector.waits owns thread cookie report := by
  rw [Host.detect] at found
  split at found
  · exact Trail.start.follow (oracle_forgets asker) knows found
  · cases found

theorem FixedOwners.knows (fixed : host.FixedOwners owner) :
    host.Knows asker thread cookie fun lock holder => owner lock = some holder := by
  intro lock holder inside
  have answers : ∀ world : Host, world.FixedOwners owner → ∀ cookie,
      owner cookie = ((oracle asker).ask cookie world).1 ∧
        ((oracle asker).ask cookie world).2.FixedOwners owner := by
    intro world same cookie
    simp only [oracle, same.askOwner_eq]
    exact ⟨trivial, same.asked _⟩
  exact Oracle.questions_keep answers (.start thread cookie) fixed (lock, some holder) inside

theorem FixedOwners.shows (fixed : host.FixedOwners owner) :
    (host.shows thread cookie).FixedOwners owner :=
  ⟨fixed.installed, fixed.unprepared, fixed.table⟩

/-- A search makes nobody wait for another lock. -/
theorem detect_forgets (found : host.detect asker thread cookie = (some report, after))
    {other : ThreadId} {lock : Cookie} (noted : after.detector.waits.get? other = some lock) :
    host.detector.waits.get? other = some lock := by
  rw [Host.detect] at found
  split at found
  · let sooner : Host → Prop := fun world =>
      world.detector.waits.get? other = some lock → host.detector.waits.get? other = some lock
    have answers : ∀ world, sooner world → ∀ cookie, sooner ((oracle asker).ask cookie world).2 :=
      fun world sooner cookie noted => sooner (oracle_forgets asker cookie world other lock noted)
    have kept := Oracle.follow_keeps answers (.start thread cookie) id
    rw [found] at kept
    exact kept noted
  · cases found

theorem fixed_honest_iff {waits : Waits}
    (backed : Backed waits (fun lock holder => owner lock = some holder) thread cookie report) :
    Honest waits (fun lock holder => owner lock = some holder) report ↔
      ∀ edge ∈ report.cycle, edge.thread = thread → owner edge.cookie = owner cookie := by
  rw [backed.honest_iff]
  refine forall₂_congr fun edge inside => forall_congr' fun same => ?_
  have given := backed.owned edge inside
  rw [if_pos same] at given
  rw [given]

/-- A report is honest exactly when the lock that is noted for the thread that asked is held by
the owner told for it, if the thread belongs to the ring at all. A thread that waited for nothing
else before is told the truth, and while the owners stay the same, a report is honest exactly when
the noted lock and the given one have one owner. -/
theorem report_honest_iff (host after : Host) (asker thread : ThreadId) (cookie : Cookie)
    (report : Report) :
    (∀ owns, host.Knows asker thread cookie owns →
      host.detect asker thread cookie = (some report, after) →
      Backed after.detector.waits owns thread cookie report ∧
        (Honest after.detector.waits owns report ↔
          ∀ edge ∈ report.cycle, edge.thread = thread → owns edge.cookie edge.owner)) ∧
    (∀ owns, (host.shows thread cookie).Knows asker thread cookie owns →
      host.tryEnter asker thread cookie = (some report, after) →
      Backed after.detector.waits owns thread cookie report ∧
        (Honest after.detector.waits owns report ↔
          ∀ edge ∈ report.cycle, edge.thread = thread → owns edge.cookie edge.owner) ∧
        (host.detector.waits.get? thread = none ∨ host.detector.waits.get? thread = some cookie →
          Honest after.detector.waits owns report)) ∧
    ∀ owner, host.FixedOwners owner →
      host.detect asker thread cookie = (some report, after) ∨
        host.tryEnter asker thread cookie = (some report, after) →
      (Honest after.detector.waits (fun lock holder => owner lock = some holder) report ↔
        ∀ edge ∈ report.cycle, edge.thread = thread → owner edge.cookie = owner cookie) := by
  refine ⟨fun owns knows found => ?_, fun owns knows found => ?_, fun owner fixed found => ?_⟩
  · have backed := detect_backed knows found
    exact ⟨backed, backed.honest_iff⟩
  · have backed := detect_backed knows found
    refine ⟨backed, backed.honest_iff, fun free => backed.honest fun lock noted => ?_⟩
    have shown := detect_forgets found noted
    exact Option.some.inj (shown.symm.trans (get?_register free))
  · rcases found with found | found
    · exact fixed_honest_iff (detect_backed fixed.knows found)
    · exact fixed_honest_iff (detect_backed fixed.shows.knows found)

/-- Beside the three threads that wait for each other, a fourth comes. -/
theorem honest_threeWaits :
    ∃ start host, create {} (fun _ => .ok (.memory 0 [])) = .ok start ∧
      host = { start with owners := threeLocks, detector := ⟨threeWaits, true, 0⟩ } ∧
      host.detector.waits.get? ⟨9⟩ = none ∧
      ∃ report after, host.tryEnter ⟨9⟩ ⟨9⟩ ⟨0xb⟩ = (some report, after) ∧
        Honest after.detector.waits (fun lock holder => threeLocks.table.get? lock = some holder)
          report := by
  obtain ⟨start, created⟩ :
      ∃ start, create {} (fun _ => .ok (.memory 0 [])) = .ok start := ⟨_, rfl⟩
  let host := { start with owners := threeLocks, detector := ⟨threeWaits, true, 0⟩ }
  have free : host.detector.waits.get? ⟨9⟩ = none := rfl
  have fixed : host.FixedOwners threeLocks.table.get? := ⟨rfl, fun _ => rfl, fun _ => rfl⟩
  have found : (Deadlock.detect threeLocks.table.get? (register threeWaits ⟨9⟩ ⟨0xb⟩) ⟨9⟩
      ⟨0xb⟩).isSome := by decide +kernel
  obtain ⟨report, told⟩ := Option.isSome_iff_exists.1 found
  have entered : host.tryEnter ⟨9⟩ ⟨9⟩ ⟨0xb⟩ = (some report, (host.tryEnter ⟨9⟩ ⟨9⟩ ⟨0xb⟩).2) :=
    Prod.ext ((fixed.tryEnter ⟨9⟩ ⟨9⟩ ⟨0xb⟩).1.trans told) rfl
  exact ⟨start, host, created, rfl, free, report, _, entered,
    ((report_honest_iff host _ ⟨9⟩ ⟨9⟩ ⟨0xb⟩ report).2.1 _ fixed.shows.knows entered).2.2
      (.inl free)⟩

/-- One lock only has an owner. -/
def oneLock : Owners := Owners.own {} ⟨2⟩ ⟨1000⟩

/-- A thread that waits for a lock of nobody shows that it waits for a lock of its own as well: the
report says that it holds the lock of nobody. -/
theorem not_honest_oneLock :
    ∃ start host, create {} (fun _ => .ok (.memory 0 [])) = .ok start ∧
      host = { start with owners := oneLock, detector := ⟨{}, true, 0⟩ } ∧
      host.FixedOwners oneLock.table.get? ∧
      let first := host.tryEnter ⟨1000⟩ ⟨1000⟩ ⟨1⟩
      let second := first.2.tryEnter ⟨1000⟩ ⟨1000⟩ ⟨2⟩
      first.1 = none ∧ second.1 = some ⟨[⟨⟨1000⟩, ⟨1⟩, ⟨1000⟩⟩]⟩ ∧
        ∀ waits, ¬ Honest waits (fun lock holder => oneLock.table.get? lock = some holder)
          ⟨[⟨⟨1000⟩, ⟨1⟩, ⟨1000⟩⟩]⟩ := by
  refine ⟨_, _, rfl, rfl, ⟨rfl, fun _ => rfl, fun _ => rfl⟩, by decide +kernel, by decide +kernel,
    fun waits honest => ?_⟩
  have owned := honest.owned ⟨⟨1000⟩, ⟨1⟩, ⟨1000⟩⟩ (by simp)
  exact absurd owned (by decide)

end Steward.Host
