import Steward.Proofs.Memory.Region
import Steward.Memory.Space

/-! Reservations of an address space stay in ascending order of their bases, no two with the same
base, and a new one never takes the base of another. -/

set_option autoImplicit false

namespace Steward.Memory.Space

/-- Bases ascend strictly, and no reservation is empty. -/
structure Ordered (space : Space) : Prop where
  ascending : space.regions.Pairwise fun first second => first.base < second.base
  filled : ∀ region ∈ space.regions, 0 < region.pages.length

theorem hasBase_iff {space : Space} {base : Nat} :
    space.hasBase base = true ↔ ∃ region ∈ space.regions, region.base = base := by
  simp [hasBase]

theorem mem_insert {space : Space} {region other : Region} :
    other ∈ (space.insert region).regions ↔
      other = region ∨ other ∈ space.regions ∧ other.base ≠ region.base := by
  simp only [insert, List.mem_append, List.mem_cons, List.mem_filter, decide_eq_true_eq]
  constructor
  · rintro (⟨inside, before⟩ | rfl | ⟨inside, behind⟩)
    · exact .inr ⟨inside, by omega⟩
    · exact .inl rfl
    · exact .inr ⟨inside, by omega⟩
  · rintro (rfl | ⟨inside, apart⟩)
    · exact .inr (.inl rfl)
    · rcases Nat.lt_or_gt_of_ne apart with before | behind
      · exact .inl ⟨inside, before⟩
      · exact .inr (.inr ⟨inside, behind⟩)

theorem mem_remove {space : Space} {base : Nat} {other : Region} :
    other ∈ (space.remove base).regions ↔ other ∈ space.regions ∧ other.base ≠ base := by
  simp [remove]

theorem hasBase_insert (space : Space) (region : Region) (base : Nat) :
    (space.insert region).hasBase base = (decide (region.base = base) || space.hasBase base) := by
  rw [Bool.eq_iff_iff, Bool.or_eq_true, decide_eq_true_eq, hasBase_iff, hasBase_iff]
  simp only [mem_insert]
  constructor
  · rintro ⟨other, rfl | ⟨inside, _⟩, same⟩
    · exact .inl same
    · exact .inr ⟨other, inside, same⟩
  · rintro (same | ⟨other, inside, same⟩)
    · exact ⟨region, .inl rfl, same⟩
    · by_cases there : region.base = base
      · exact ⟨region, .inl rfl, there⟩
      · exact ⟨other, .inr ⟨inside, by omega⟩, same⟩

theorem hasBase_insert_self (space : Space) (region : Region) :
    (space.insert region).hasBase region.base = true := by
  simp [hasBase_insert]

theorem hasBase_remove (space : Space) (base other : Nat) :
    (space.remove base).hasBase other = (decide (other ≠ base) && space.hasBase other) := by
  rw [Bool.eq_iff_iff, Bool.and_eq_true, decide_eq_true_eq, hasBase_iff, hasBase_iff]
  simp only [mem_remove]
  constructor
  · rintro ⟨region, ⟨inside, apart⟩, rfl⟩
    exact ⟨apart, region, inside, rfl⟩
  · rintro ⟨apart, region, inside, rfl⟩
    exact ⟨region, ⟨inside, apart⟩, rfl⟩

namespace Ordered

variable {space : Space}

theorem insert (ordered : Ordered space) {region : Region} (filled : 0 < region.pages.length) :
    Ordered (space.insert region) := by
  constructor
  · simp only [Space.insert, List.pairwise_append, List.pairwise_cons]
    refine ⟨ordered.ascending.filter _, ⟨?_, ordered.ascending.filter _⟩, ?_⟩
    · intro other behind
      exact of_decide_eq_true (List.mem_filter.1 behind).2
    · intro first before second behind
      have less : first.base < region.base := of_decide_eq_true (List.mem_filter.1 before).2
      rcases List.mem_cons.1 behind with rfl | behind
      · exact less
      · have more : region.base < second.base := of_decide_eq_true (List.mem_filter.1 behind).2
        omega
  · intro other inside
    rcases mem_insert.1 inside with rfl | ⟨inside, _⟩
    · exact filled
    · exact ordered.filled other inside

theorem remove (ordered : Ordered space) (base : Nat) : Ordered (space.remove base) :=
  ⟨ordered.ascending.filter _, fun other inside => ordered.filled other (mem_remove.1 inside).1⟩

theorem empty : Ordered {} := ⟨.nil, fun _ inside => by cases inside⟩

/-- A base is the base of one reservation only. -/
theorem eq_of_base (ordered : Ordered space) {first second : Region}
    (left : first ∈ space.regions) (right : second ∈ space.regions)
    (same : first.base = second.base) : first = second := by
  obtain ⟨index, _, rfl⟩ := List.getElem_of_mem left
  obtain ⟨other, _, rfl⟩ := List.getElem_of_mem right
  have less := List.pairwise_iff_getElem.1 ordered.ascending
  rcases Nat.lt_trichotomy index other with before | rfl | behind
  · exact absurd same (Nat.ne_of_lt (less index other _ _ before))
  · rfl
  · exact absurd same.symm (Nat.ne_of_lt (less other index _ _ behind))

end Ordered

theorem mem_of_regionAt? {space : Space} {address : Nat} {region : Region}
    (found : space.regionAt? address = some region) :
    region ∈ space.regions ∧ region.contains address = true := by
  obtain ⟨below, inside⟩ := Option.filter_eq_some_iff.1 found
  exact ⟨(List.mem_filter.1 (List.mem_of_getLast? below)).1, inside⟩

theorem regionAt?_of_region {space : Space} {address : Nat} {region : Region}
    (found : space.region address = .ok region) : space.regionAt? address = some region := by
  unfold Space.region at found
  split at found
  · next located =>
    cases found
    exact located
  · cases found

theorem mem_of_region {space : Space} {address : Nat} {region : Region}
    (found : space.region address = .ok region) : region ∈ space.regions :=
  (mem_of_regionAt? (regionAt?_of_region found)).1

theorem le_firstGap (size base : Nat) (regions : List Region) :
    base ≤ firstGap size base regions := by
  induction regions generalizing base with
  | nil => exact Nat.le_refl base
  | cons region rest ih =>
    unfold firstGap
    split
    · exact ih base
    · split
      · exact Nat.le_refl base
      · have up := le_granuleCeil region.limit
        have found := ih (granuleCeil region.limit)
        omega

/-- A gap is never where a reservation begins. -/
theorem firstGap_ne_base {size base : Nat} {regions : List Region} (positive : 0 < size)
    (ascending : regions.Pairwise fun first second => first.base < second.base)
    (filled : ∀ region ∈ regions, 0 < region.pages.length) :
    ∀ region ∈ regions, region.base ≠ firstGap size base regions := by
  induction regions generalizing base with
  | nil => simp
  | cons head rest ih =>
    rw [List.pairwise_cons] at ascending
    have long : head.base < head.limit := by
      have pages := filled head (List.mem_cons_self ..)
      simp only [Region.limit, Region.size, pageSize]
      omega
    have later : ∀ start, ∀ region ∈ rest, region.base ≠ firstGap size start rest := fun start =>
      ih ascending.2 fun region inside => filled region (List.mem_cons_of_mem head inside)
    unfold firstGap
    intro region inside
    split
    · next passed =>
      -- The search starts behind the first reservation and never goes back.
      rcases List.mem_cons.1 inside with rfl | behind
      · have start := le_firstGap size base rest
        omega
      · exact later base region behind
    · split
      · rcases List.mem_cons.1 inside with rfl | behind
        · omega
        · have less := ascending.1 region behind
          omega
      · rcases List.mem_cons.1 inside with rfl | behind
        · have up := le_granuleCeil region.limit
          have start := le_firstGap size (granuleCeil region.limit) rest
          omega
        · exact later _ region behind

/-- A place that is found for a reservation is not the base of another, and the others stay. -/
theorem place_fresh {space after : Space} {wanted : Option Nat} {size base : Nat}
    (ordered : Ordered space) (positive : 0 < size)
    (word : ∀ address, wanted = some address → address ≤ Word.top)
    (placed : space.place wanted size = .ok (base, after)) :
    space.hasBase base = false ∧ after.regions = space.regions := by
  cases wanted with
  | none =>
    simp only [place, Except.ok.injEq, Prod.mk.injEq] at placed
    obtain ⟨rfl, rfl⟩ := placed
    refine ⟨Bool.eq_false_iff.2 fun taken => ?_, rfl⟩
    obtain ⟨region, inside, same⟩ := hasBase_iff.1 taken
    exact firstGap_ne_base positive ordered.ascending ordered.filled region inside same
  | some address =>
    simp only [place] at placed
    split at placed
    · next free =>
      simp only [Except.ok.injEq, Prod.mk.injEq] at placed
      obtain ⟨rfl, rfl⟩ := placed
      refine ⟨Bool.eq_false_iff.2 fun taken => ?_, rfl⟩
      obtain ⟨region, inside, same⟩ := hasBase_iff.1 taken
      simp only [isFree, Bool.and_eq_true, Bool.not_eq_true', List.any_eq_false] at free
      have apart := free.2 region inside
      have low : address / granularity * granularity < Word.top := by
        have within := word address rfl
        have down := Nat.div_mul_le_self address granularity
        simp only [granularity, Word.top] at *
        omega
      simp only [same, Word.saturatingAdd, decide_eq_true_eq, not_and] at apart
      have past := apart (Nat.le_refl _)
      omega
    · cases placed

theorem insert_of_protect {space after : Space} {address length : Nat}
    {protection previous : Protection}
    (made : space.protect address length protection = .ok (previous, after)) :
    ∃ region changed, region ∈ space.regions ∧ region.Alike changed ∧
      after = space.insert changed := by
  unfold protect at made
  split at made
  · cases made
  · next region found =>
    split at made
    · cases made
    · split at made
      · cases made
      · next done =>
        cases made
        exact ⟨region, _, mem_of_region found, Region.alike_of_protect done, rfl⟩

theorem insert_of_write {space after : Space} {address : Nat} {data : List UInt8}
    (made : space.write address data = .ok after) :
    ∃ region changed, region ∈ space.regions ∧ region.Alike changed ∧
      after = space.insert changed := by
  unfold write at made
  split at made
  · cases made
  · next region found =>
    split at made
    · cases made
    · next done =>
      cases made
      exact ⟨region, _, mem_of_region found, Region.alike_of_write done, rfl⟩

end Steward.Memory.Space
