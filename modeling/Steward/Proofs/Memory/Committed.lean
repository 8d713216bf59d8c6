import Steward.Proofs.Memory.Contents

/-! Which pages of an address space are committed, place by place. -/

set_option autoImplicit false

namespace Steward.Memory

/-- An index lies in an index range. -/
def covers (range : Nat × Nat) (index : Nat) : Bool := range.1 ≤ index ∧ index < range.2

namespace Region

variable {region : Region}

/-- The page at an index is committed. -/
def commits (region : Region) (index : Nat) : Bool := region.pages[index]?.any Page.isCommitted

theorem lt_of_commits {index : Nat} (there : region.commits index = true) :
    index < region.pages.length := by
  refine Nat.lt_of_not_le fun outside => ?_
  simp [commits, List.getElem?_eq_none outside] at there

theorem commits_reserve (base size : Nat) (protection : Protection) (index : Nat) :
    (reserve base size protection).commits index = false := by
  rw [commits, Bool.eq_false_iff]
  intro there
  obtain ⟨page, found, committed⟩ := (Option.any_eq_true _ _).1 there
  rw [List.eq_of_mem_replicate (List.mem_of_getElem? found)] at committed
  cases committed

theorem commits_commit (region : Region) (range : Nat × Nat) (protection : Protection)
    (index : Nat) :
    (region.commit range protection).2.commits index = (region.commits index ||
      (covers range index && decide (index < region.pages.length))) := by
  rw [commits, commit, getElem?_change, commits, covers]
  by_cases there : index < region.pages.length
  · rw [List.getElem?_eq_getElem there]
    by_cases within : range.1 ≤ index ∧ index < range.2
    · simp [within, there]
    · simp [within]
  · rw [List.getElem?_eq_none (Nat.le_of_not_lt there)]
    simp [there]

theorem commits_decommit (region : Region) (range : Nat × Nat) (index : Nat) :
    (region.decommit range).2.commits index =
      (region.commits index && !covers range index) := by
  rw [commits, decommit, getElem?_change, commits, covers]
  cases region.pages[index]? with
  | none => rfl
  | some page =>
    by_cases within : range.1 ≤ index ∧ index < range.2
    · simp [within]
    · simp [within]

theorem Alike.commits {first second : Region} (alike : first.Alike second) (index : Nat) :
    second.commits index = first.commits index := by
  have same := congrArg (fun pages : List Bool => pages[index]?.any id) alike.pages
  simpa [Region.commits, Option.any_map] using same

/-- What a commit counts, by places. -/
theorem uncommittedBytes_eq (region : Region) (range : Nat × Nat) :
    region.uncommittedBytes range = (List.range region.pages.length).countP (fun index =>
      covers range index && !region.commits index) * pageSize := by
  rw [uncommittedBytes, countP_slice]
  congr 1
  refine List.countP_congr fun index inside => ?_
  rw [commits, covers, List.getElem?_eq_getElem (List.mem_range.1 inside)]
  simp

/-- What a decommit counts, by places. -/
theorem decommit_fst (region : Region) (range : Nat × Nat) :
    (region.decommit range).1 = (List.range region.pages.length).countP (fun index =>
      covers range index && region.commits index) * pageSize := by
  rw [decommit, countP_slice]
  rfl

end Region

namespace Space

variable {space : Space}

/-- The page at an index of the reservation at a base is committed. -/
def commits (space : Space) (base index : Nat) : Bool :=
  space.regions.any fun region => decide (region.base = base) && region.commits index

theorem commits_iff {base index : Nat} :
    space.commits base index = true ↔
      ∃ region ∈ space.regions, region.base = base ∧ region.commits index = true := by
  simp [commits]

theorem Ordered.commits (ordered : space.Ordered) {region : Region}
    (inside : region ∈ space.regions) (index : Nat) :
    space.commits region.base index = region.commits index := by
  rw [Bool.eq_iff_iff, commits_iff]
  constructor
  · rintro ⟨other, there, same, committed⟩
    exact ordered.eq_of_base there inside same ▸ committed
  · exact fun committed => ⟨region, inside, rfl, committed⟩

theorem commits_of_regions {other : Space} (same : other.regions = space.regions)
    (base index : Nat) : other.commits base index = space.commits base index := by
  rw [commits, commits, same]

theorem commits_of_new {base : Nat} (new : space.hasBase base = false) (index : Nat) :
    space.commits base index = false := by
  rw [Bool.eq_false_iff, Ne, commits_iff]
  rintro ⟨region, inside, same, _⟩
  rw [hasBase_iff.2 ⟨region, inside, same⟩] at new
  cases new

theorem commits_insert (space : Space) (changed : Region) (base index : Nat) :
    (space.insert changed).commits base index =
      if base = changed.base then changed.commits index else space.commits base index := by
  rw [Bool.eq_iff_iff, commits_iff]
  split
  · next same =>
    constructor
    · rintro ⟨region, inside, there, committed⟩
      obtain rfl | ⟨_, apart⟩ := mem_insert.1 inside
      · exact committed
      · exact absurd (there.trans same) apart
    · exact fun committed => ⟨changed, mem_insert.2 (.inl rfl), same.symm, committed⟩
  · next apart =>
    rw [commits_iff]
    constructor
    · rintro ⟨region, inside, rfl, committed⟩
      obtain rfl | ⟨there, _⟩ := mem_insert.1 inside
      · exact absurd rfl apart
      · exact ⟨region, there, rfl, committed⟩
    · rintro ⟨region, inside, rfl, committed⟩
      exact ⟨region, mem_insert.2 (.inr ⟨inside, apart⟩), rfl, committed⟩

theorem commits_remove (space : Space) (base other index : Nat) :
    (space.remove base).commits other index =
      (decide (other ≠ base) && space.commits other index) := by
  rw [Bool.eq_iff_iff, Bool.and_eq_true, decide_eq_true_eq, commits_iff, commits_iff]
  constructor
  · rintro ⟨region, inside, rfl, committed⟩
    obtain ⟨there, apart⟩ := mem_remove.1 inside
    exact ⟨apart, region, there, rfl, committed⟩
  · rintro ⟨apart, region, inside, rfl, committed⟩
    exact ⟨region, mem_remove.2 ⟨inside, apart⟩, rfl, committed⟩

end Space

end Steward.Memory
