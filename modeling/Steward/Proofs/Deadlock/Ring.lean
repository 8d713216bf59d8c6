import Steward.Deadlock.Detector

/-! Rings of threads that wait for each other's locks. A search that starts in a ring finds nothing
while a thread of the ring does not wait yet, and the whole ring when all of them do; so whoever of
a ring comes last hears of it, in whatever order the threads come. -/

set_option autoImplicit false

namespace Steward.Deadlock

theorem getElem?_ofRing (ring : List (ThreadId × Cookie)) {index : Nat}
    (within : index < ring.length) :
    (Report.ofRing ring).cycle[index]? = some ⟨ring[index].1, ring[index].2,
      (ring.get ⟨(index + 1) % ring.length, Nat.mod_lt _ (by omega)⟩).1⟩ := by
  simp only [Report.ofRing, List.getElem?_zipWith, List.getElem?_eq_getElem within]
  -- The lock of the last thread of the ring is held by the first.
  rcases Nat.lt_or_eq_of_le (show index + 1 ≤ ring.length from within) with inner | last
  · have next : (ring.drop 1 ++ ring.take 1)[index]? = some ring[index + 1] := by
      rw [List.getElem?_append_left (by rw [List.length_drop]; omega), List.getElem?_drop,
        Nat.add_comm, List.getElem?_eq_getElem inner]
    simp only [next, Nat.mod_eq_of_lt inner, List.get_eq_getElem]
  · have next : (ring.drop 1 ++ ring.take 1)[index]? = some ring[0] := by
      rw [List.getElem?_append_right (by rw [List.length_drop]; omega), List.length_drop,
        show index - (ring.length - 1) = 0 by omega, List.getElem?_take_of_lt (by decide),
        List.getElem?_eq_getElem]
    simp only [next, last, Nat.mod_self, List.get_eq_getElem]

theorem ringOf_map_fst {waits : Waits} {ring : List (ThreadId × Cookie)}
    (shown : ∀ member ∈ ring, waits.get? member.1 = some member.2) :
    ringOf waits (ring.map Prod.fst) = some ring := by
  induction ring with
  | nil => rfl
  | cons member rest ih =>
    simp only [List.map_cons, ringOf, shown member (List.mem_cons_self ..),
      ih fun other inside => shown other (List.mem_cons_of_mem _ inside)]

namespace Oracle

variable {World : Type}

theorem follow_eq (oracle : Oracle World) (walk : Walk) (world : World) :
    oracle.follow walk world =
      match walk.meet (oracle.waits (oracle.ask walk.lock world).2)
        (oracle.ask walk.lock world).1 with
      | .verdict report => (report, (oracle.ask walk.lock world).2)
      | .onward next => oracle.follow next (oracle.ask walk.lock world).2 := by
  rw [follow]
  split <;> simp_all

/-- What every answer keeps is kept by a whole search. -/
theorem follow_keeps {oracle : Oracle World} {holds : World → Prop}
    (answers : ∀ world, holds world → ∀ cookie, holds (oracle.ask cookie world).2) (walk : Walk)
    {world : World} (start : holds world) : holds (oracle.follow walk world).2 := by
  fun_induction oracle.follow walk world with
  | case1 walk world told report met => exact answers world start walk.lock
  | case2 walk world told next met ih => exact ih (answers world start walk.lock)

/-- Who always gives the same answers, and changes no wait edge with them, is as good as a table. -/
theorem follow_eq_fixed {oracle : Oracle World} {steady : World → Prop}
    {owner : Cookie → Option ThreadId} {waits : Waits}
    (edges : ∀ world, steady world → oracle.waits world = waits)
    (answers : ∀ world, steady world → ∀ cookie,
      (oracle.ask cookie world).1 = owner cookie ∧ steady (oracle.ask cookie world).2)
    (walk : Walk) {world : World} (start : steady world) :
    (oracle.follow walk world).1 = ((fixed owner).follow walk waits).1 ∧
      steady (oracle.follow walk world).2 := by
  induction left : walk.ahead waits using Nat.strongRecOn generalizing walk world with
  | ind left ih =>
    obtain ⟨told, kept⟩ := answers world start walk.lock
    rw [follow_eq, follow_eq, edges _ kept, told]
    simp only [fixed, id]
    cases met : walk.meet waits (owner walk.lock) with
    | verdict report => exact ⟨rfl, kept⟩
    | onward next => exact ih _ (left ▸ Walk.ahead_of_meet met) next kept rfl

end Oracle

/-! A ring can be walked around from any of its places. -/

theorem eq_of_turned {length start first second : Nat} (within : first < length)
    (further : second < length) (same : (start + first) % length = (start + second) % length) :
    first = second := by
  have equal : ((start + first : Nat) % length : Int) = (start + second : Nat) % length :=
    congrArg Int.ofNat same
  simp only [Int.natCast_add] at equal
  rw [Int.emod_add_cancel_left, Int.emod_eq_of_lt (by omega) (by omega),
    Int.emod_eq_of_lt (by omega) (by omega)] at equal
  exact Int.ofNat_inj.1 equal

theorem exists_turned {length start index : Nat} (within : index < length) :
    ∃ step < length, (start + step) % length = index := by
  -- One walks from the start to the end of the ring, and on to the place.
  refine ⟨(index + (length - start % length)) % length, Nat.mod_lt _ (by omega), ?_⟩
  have below : start % length < length := Nat.mod_lt _ (by omega)
  have split := Nat.div_add_mod start length
  have whole : start + (index + (length - start % length)) =
      index + length * (start / length + 1) := by
    rw [Nat.mul_add]
    omega
  rw [Nat.add_mod_mod, whole, Nat.add_mul_mod_self_left, Nat.mod_eq_of_lt within]

/-- Threads in a ring: the lock that each of them asks for is held by the next one. -/
structure Ring (owner : Cookie → Option ThreadId) where
  length : Nat
  thread : Nat → ThreadId
  cookie : Nat → Cookie
  distinct : ∀ first < length, ∀ second < length, thread first = thread second → first = second
  owned : ∀ index < length, owner (cookie index) = some (thread ((index + 1) % length))

namespace Ring

variable {owner : Cookie → Option ThreadId}

def members (ring : Ring owner) : List (ThreadId × Cookie) :=
  (List.range ring.length).map fun index => (ring.thread index, ring.cookie index)

/-- The same ring, begun at another of its threads. -/
def turned (ring : Ring owner) (start : Nat) : Ring owner where
  length := ring.length
  thread index := ring.thread ((start + index) % ring.length)
  cookie index := ring.cookie ((start + index) % ring.length)
  distinct first within second further same := by
    have positive : 0 < ring.length := by omega
    exact eq_of_turned within further
      (ring.distinct _ (Nat.mod_lt _ positive) _ (Nat.mod_lt _ positive) same)
  owned index within := by
    rw [ring.owned _ (Nat.mod_lt _ (by omega)), Nat.mod_add_mod, Nat.add_mod_mod, Nat.add_assoc]

/-- What a search says that met the threads up to an index. -/
theorem follow_fixed (ring : Ring owner) {waits : Waits}
    (shown : ∀ index < ring.length, ∀ cookie,
      waits.get? (ring.thread index) = some cookie → cookie = ring.cookie index)
    (left step : Nat) (count : step + 1 + left = ring.length)
    (met : ∀ index ≤ step, waits.get? (ring.thread index) = some (ring.cookie index)) :
    ((Oracle.fixed owner).follow
      ⟨(List.range (step + 1)).map ring.thread, ring.cookie step⟩ waits).1 =
      if ∀ index < ring.length, waits.contains (ring.thread index) = true then
        some (Report.ofRing ring.members)
      else none := by
  -- The search goes on until it has met the whole ring, or somebody who does not wait.
  induction left generalizing step with
  | zero =>
    have whole : step + 1 = ring.length := count
    have told : owner (ring.cookie step) = some (ring.thread 0) := by
      rw [ring.owned step (by omega), whole, Nat.mod_self]
    have chain : (List.range (step + 1)).map ring.thread = ring.members.map Prod.fst := by
      simp [members, whole]
    have back : (ring.members.map Prod.fst).dropWhile (fun met => met ≠ ring.thread 0) =
        ring.members.map Prod.fst := by
      rw [← chain, List.range_succ_eq_map, List.map_cons]
      simp
    have waiting : ringOf waits (ring.members.map Prod.fst) = some ring.members := by
      apply ringOf_map_fst
      intro member inside
      obtain ⟨index, within, rfl⟩ := List.mem_map.1 inside
      exact met index (by have := List.mem_range.1 within; omega)
    have everyone : ∀ index < ring.length, waits.contains (ring.thread index) = true := by
      intro index within
      simp [Assoc.contains, met index (by omega)]
    have first : ring.thread 0 ∈ ring.members.map Prod.fst := by
      rw [← chain]
      exact List.mem_map_of_mem (List.mem_range.2 (by omega))
    rw [Oracle.follow_eq, if_pos everyone]
    simp only [Oracle.fixed, id, told, chain, Walk.meet, if_pos first, back, waiting,
      Option.map_some]
  | succ left ih =>
    have told : owner (ring.cookie step) = some (ring.thread (step + 1)) := by
      rw [ring.owned step (by omega), Nat.mod_eq_of_lt (by omega)]
    have fresh : ring.thread (step + 1) ∉ (List.range (step + 1)).map ring.thread := by
      intro again
      obtain ⟨index, within, same⟩ := List.mem_map.1 again
      have below := List.mem_range.1 within
      have equal := ring.distinct index (by omega) (step + 1) (by omega) same
      omega
    rw [Oracle.follow_eq]
    simp only [Oracle.fixed, id, told, Walk.meet, if_neg fresh]
    cases found : waits.get? (ring.thread (step + 1)) with
    | none =>
      rw [if_neg]
      intro everyone
      have absent := everyone (step + 1) (by omega)
      simp [Assoc.contains, found] at absent
    | some cookie =>
      have same := shown (step + 1) (by omega) cookie found
      subst same
      have further := ih (step + 1) (by omega) fun index within => by
        rcases Nat.lt_or_eq_of_le within with before | rfl
        · exact met index (by omega)
        · exact found
      rw [List.range_succ, List.map_append] at further
      exact further

/-- What a thread of a ring runs into, once it shows the lock it waits for. -/
theorem detect_eq (ring : Ring owner) {waits : Waits}
    (shown : ∀ index < ring.length, ∀ cookie,
      waits.get? (ring.thread index) = some cookie → cookie = ring.cookie index)
    {start : Nat} (within : start < ring.length)
    (waiting : waits.get? (ring.thread start) = some (ring.cookie start)) :
    detect owner waits (ring.thread start) (ring.cookie start) =
      if ∀ index < ring.length, waits.contains (ring.thread index) = true then
        some (Report.ofRing (ring.turned start).members)
      else none := by
  have here : (start + 0) % ring.length = start := Nat.mod_eq_of_lt within
  have found := @follow_fixed _ (ring.turned start) waits
    (fun index _ => shown _ (Nat.mod_lt _ (by omega))) (ring.length - 1) 0
    (by simp only [turned]; omega)
    (fun index least => by
      obtain rfl := Nat.le_zero.1 least
      simpa only [turned, here] using waiting)
  simp only [Nat.zero_add, List.range_one, List.map_cons, List.map_nil, turned, here] at found
  -- The turned ring has the same threads.
  have everyone : (∀ index < ring.length,
      waits.contains (ring.thread ((start + index) % ring.length)) = true) ↔
      ∀ index < ring.length, waits.contains (ring.thread index) = true := by
    constructor
    · intro all index below
      obtain ⟨step, less, rfl⟩ := @exists_turned _ start _ below
      exact all step less
    · intro all index _
      exact all _ (Nat.mod_lt _ (by omega))
  rw [detect, Walk.start, found]
  simp only [everyone, turned]

/-- What a thread of a ring waits for; behind the last thread the ring begins anew. -/
def edge (ring : Ring owner) (index : Nat) : Edge :=
  ⟨ring.thread (index % ring.length), ring.cookie (index % ring.length),
    ring.thread ((index + 1) % ring.length)⟩

/-- The edges of a ring, one after the other from a thread on. -/
def report (ring : Ring owner) (start : Nat) : Report :=
  ⟨(List.range ring.length).map fun step => ring.edge (start + step)⟩

theorem ofRing_turned (ring : Ring owner) (start : Nat) :
    Report.ofRing (ring.turned start).members = ring.report start := by
  have length : (ring.turned start).members.length = ring.length := by simp [members, turned]
  rw [report, Report.mk.injEq]
  apply List.ext_getElem?
  intro index
  rcases Nat.lt_or_ge index ring.length with within | beyond
  · rw [getElem?_ofRing _ (by rw [length]; exact within), List.getElem?_map,
      List.getElem?_range within]
    simp [members, turned, edge, Nat.add_assoc]
  · rw [List.getElem?_eq_none, List.getElem?_eq_none]
    · simpa using beyond
    · simp [Report.ofRing, length]
      omega

/-- The threads of a ring at these places wait, and no others of it. -/
def Entered (ring : Ring owner) (waits : Waits) (entered : List Nat) : Prop :=
  ∀ index < ring.length, waits.get? (ring.thread index) =
    if index ∈ entered then some (ring.cookie index) else none

namespace Entered

variable {ring : Ring owner} {waits : Waits} {entered : List Nat}

theorem register (before : ring.Entered waits entered) {index : Nat}
    (within : index < ring.length) :
    ring.Entered (register waits (ring.thread index) (ring.cookie index)) (entered ++ [index]) := by
  intro other below
  have here := before index within
  have there := before other below
  unfold Deadlock.register
  by_cases same : other = index
  · subst same
    by_cases already : other ∈ entered <;> simp [Assoc.contains, here, already]
  · have apart : ring.thread other ≠ ring.thread index := fun equal =>
      same (ring.distinct other below index within equal)
    split
    · simpa [same] using there
    · simpa [same, apart] using there

theorem detect (after : ring.Entered waits entered) {index : Nat} (within : index < ring.length)
    (inside : index ∈ entered) :
    detect owner waits (ring.thread index) (ring.cookie index) =
      if ∀ other < ring.length, other ∈ entered then some (ring.report index) else none := by
  have shown : ∀ other < ring.length, ∀ cookie,
      waits.get? (ring.thread other) = some cookie → cookie = ring.cookie other := by
    intro other below cookie found
    rw [after other below] at found
    split at found
    · exact (Option.some.inj found).symm
    · cases found
  have everyone : (∀ other < ring.length, waits.contains (ring.thread other) = true) ↔
      ∀ other < ring.length, other ∈ entered := by
    refine forall_congr' fun other => forall_congr' fun below => ?_
    rw [Assoc.contains, after other below]
    split <;> simp_all
  rw [ring.detect_eq shown within (by rw [after index within, if_pos inside]), ofRing_turned]
  simp only [everyone]

end Entered

end Ring

/-- Threads show one after the other what they wait for, and look for a ring; none of them stops
waiting. -/
def enterAll (owner : Cookie → Option ThreadId) (waits : Waits) :
    List (ThreadId × Cookie) → List (Option Report)
  | [] => []
  | (thread, cookie) :: rest =>
      let shown := register waits thread cookie
      detect owner shown thread cookie :: enterAll owner shown rest

namespace Ring

variable {owner : Cookie → Option ThreadId}

theorem enterAll_of_entered (ring : Ring owner) {waits : Waits} {entered order : List Nat}
    {last : Nat} (before : ring.Entered waits entered)
    (every : (entered ++ (order ++ [last])).Perm (List.range ring.length)) :
    enterAll owner waits
      ((order ++ [last]).map fun index => (ring.thread index, ring.cookie index)) =
      order.map (fun _ => none) ++ [some (ring.report last)] := by
  -- By induction on who is still to come before the last: it is the last who is missed by all.
  induction order generalizing waits entered with
  | nil =>
    have within : last < ring.length := List.mem_range.1 (every.mem_iff.1 (by simp))
    have everyone : ∀ other < ring.length, other ∈ entered ++ [last] := fun other below =>
      every.mem_iff.2 (List.mem_range.2 below)
    have found := (before.register within).detect within (by simp)
    rw [if_pos everyone] at found
    simp [enterAll, found]
  | cons index order ih =>
    have within : index < ring.length := List.mem_range.1 (every.mem_iff.1 (by simp))
    have final : last < ring.length := List.mem_range.1 (every.mem_iff.1 (by simp))
    have moved : entered ++ (index :: order ++ [last]) =
        (entered ++ [index]) ++ (order ++ [last]) := by simp
    rw [moved] at every
    have missing : last ∉ entered ++ [index] := by
      have distinct := every.nodup_iff.2 List.nodup_range
      intro already
      exact (List.nodup_append.1 distinct).2.2 last already last (by simp) rfl
    have unseen := (before.register within).detect within (by simp)
    rw [if_neg fun everyone => missing (everyone last final)] at unseen
    simp only [List.cons_append, List.map_cons, enterAll, unseen, ih (before.register within) every]

end Ring

end Steward.Deadlock
