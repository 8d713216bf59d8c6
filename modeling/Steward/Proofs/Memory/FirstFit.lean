import Mathlib.Data.List.Pairwise
import Mathlib.Order.Bounds.Basic
import Steward.Proofs.Memory.Layout

/-! First fit. A reservation without a wanted address goes to the least multiple of the granularity
from the mark on where its range meets no other reservation. One can look for it past reservations
one by one, or by leaps: as long as the range is taken, go on behind the last reservation that
begins below its end. The leaps come to an end, and at the same base. -/

set_option autoImplicit false

namespace Steward.Memory

theorem isLeast_granuleCeil (value : Nat) :
    IsLeast {mark | granularity ∣ mark ∧ value ≤ mark} (granuleCeil value) := by
  constructor
  · exact ⟨granuleCeil_dvd value, le_granuleCeil value⟩
  · rintro mark ⟨⟨count, rfl⟩, above⟩
    unfold granuleCeil granularity at *
    omega

namespace Region

/-- No address lies in both reservations. -/
def Disjoint (first second : Region) : Prop :=
  ∀ address, ¬(first.Encloses address ∧ second.Encloses address)

instance : Std.Symm Region.Disjoint := ⟨fun _ _ apart address both => apart address both.symm⟩

/-- An address of a range lies in a reservation. -/
def Meets (region : Region) (base size : Nat) : Prop :=
  ∃ address, base ≤ address ∧ address < base + size ∧ region.Encloses address

theorem meets_iff {region : Region} {base size : Nat} (filled : region.base < region.limit)
    (positive : 0 < size) :
    region.Meets base size ↔ region.base < base + size ∧ base < region.limit := by
  constructor
  · rintro ⟨address, low, high, begins, ends⟩
    omega
  · rintro ⟨before, behind⟩
    -- Of the two starts, the later one lies in both.
    exact ⟨max base region.base, by omega, by omega, by omega, by omega⟩

end Region

namespace Space

/-- The bases at which a new reservation of a size can be put without a wanted address. -/
def openings (space : Space) (size : Nat) : Set Nat :=
  {base | granularity ∣ base ∧ space.next ≤ base ∧
    ∀ region ∈ space.regions, ¬region.Meets base size}

/-- The last reservation that begins below the end of a range. -/
def lastBelow? (space : Space) (base size : Nat) : Option Region :=
  (space.regions.filter fun region => region.base < Word.saturatingAdd base size).getLast?

/-- Where the search goes on when a range is taken. -/
def leap (space : Space) (size base : Nat) : Nat :=
  granuleCeil (((space.lastBelow? base size).map Region.limit).getD base)

/-- The search by leaps ends: from one base on it comes to another, which is free. -/
inductive LeapsTo (space : Space) (size : Nat) : Nat → Nat → Prop where
  | free {base : Nat} (free : space.isFree base size = true) : LeapsTo space size base base
  | taken {base found : Nat} (taken : space.isFree base size = false)
      (rest : LeapsTo space size (space.leap size base) found) : LeapsTo space size base found

/-! ### Past reservations one by one -/

/-- The search past reservations skips no base at which the range would meet none of them. -/
theorem firstGap_le {size base other : Nat} {regions : List Region} (positive : 0 < size)
    (filled : ∀ region ∈ regions, region.base < region.limit) (aligned : granularity ∣ other)
    (above : base ≤ other) (clear : ∀ region ∈ regions, ¬region.Meets other size) :
    firstGap size base regions ≤ other := by
  induction regions generalizing base with
  | nil => exact above
  | cons head rest ih =>
    have later : ∀ start ≤ other, firstGap size start rest ≤ other := by
      intro start below
      apply ih _ below
      · exact fun region inside => clear region (List.mem_cons_of_mem head inside)
      · exact fun region inside => filled region (List.mem_cons_of_mem head inside)
    unfold firstGap
    split
    · exact later base above
    · split
      · exact above
      · -- The head is in the way up to its end, and the other base is a multiple behind that.
        have apart := clear head (List.mem_cons_self ..)
        rw [Region.meets_iff (filled head (List.mem_cons_self ..)) positive] at apart
        apply later
        apply (isLeast_granuleCeil head.limit).2
        exact ⟨aligned, by omega⟩

theorem isLeast_firstGap {space : Space} {size : Nat} (ordered : space.Ordered)
    (filled : ∀ region ∈ space.regions, region.base < region.limit)
    (marked : granularity ∣ space.next) (positive : 0 < size) :
    IsLeast (space.openings size) (firstGap size space.next space.regions) := by
  constructor
  · refine ⟨granularity_dvd_firstGap _ marked, le_firstGap _ _ _, fun region inside => ?_⟩
    rw [Region.meets_iff (filled region inside) positive]
    have clear := @firstGap_clear size space.next _ ordered.ascending region inside
    omega
  · rintro other ⟨aligned, above, clear⟩
    exact firstGap_le positive filled aligned above clear

/-! ### By leaps -/

section
variable {space : Space} {size base : Nat}

theorem Ordered.base_lt_limit (ordered : space.Ordered) :
    ∀ region ∈ space.regions, region.base < region.limit := by
  intro region inside
  have pages := ordered.filled region inside
  unfold Region.limit Region.size pageSize
  omega

/-- Of two reservations without a common address, the lower one ends before the other begins. -/
theorem Ordered.limit_le_base (ordered : space.Ordered)
    (disjoint : space.regions.Pairwise Region.Disjoint) {first second : Region}
    (left : first ∈ space.regions) (right : second ∈ space.regions)
    (less : first.base < second.base) : first.limit ≤ second.base := by
  have different : first ≠ second := fun same => absurd (congrArg Region.base same) (by omega)
  have apart := disjoint.forall left right different second.base
  have filled := ordered.base_lt_limit second right
  unfold Region.Encloses at apart
  omega

variable (ordered : space.Ordered) (disjoint : space.regions.Pairwise Region.Disjoint)
  (positive : 0 < size)
include ordered disjoint positive

theorem not_meets_of_isFree
    (short : ∀ region ∈ space.regions, region.base < base + size → region.limit ≤ Word.top)
    (free : space.isFree base size = true) :
    ∀ region ∈ space.regions, ¬region.Meets base size := by
  intro region inside meets
  rw [Region.meets_iff (ordered.base_lt_limit region inside) positive] at meets
  simp only [isFree, Bool.and_eq_true, Bool.not_eq_true', List.any_eq_false,
    Option.any_eq_false, decide_eq_true_eq] at free
  have ends := short region inside meets.1
  by_cases below : region.base < base
  · obtain ⟨nearest, there, low, highest, last⟩ :=
      exists_nearest (· < base) ordered.ascending inside below
    have word := short nearest there (by omega)
    have clear := mt Region.endsBehind_iff.2 (Bool.eq_false_iff.1 (free.1 nearest last))
    -- Only the nearest one was looked at; a lower one ends before that one begins.
    rcases Nat.eq_or_lt_of_le highest with same | less
    · cases ordered.eq_of_base inside there same
      omega
    · have gap := ordered.limit_le_base disjoint inside there less
      omega
  · have clear := free.2 region inside
    have filled := ordered.base_lt_limit region inside
    unfold Word.saturatingAdd at clear
    omega

/-- When a range is taken, the last reservation that begins below its end is in the way. -/
theorem blocker_of_taken (taken : space.isFree base size = false) :
    ∃ region ∈ space.regions, space.lastBelow? base size = some region ∧
      region.base < base + size ∧ base < region.limit := by
  -- Whichever of its two looks found something, that begins below the end and ends behind the base.
  obtain ⟨found, inside, starts, ends⟩ : ∃ region ∈ space.regions,
      region.base < Word.saturatingAdd base size ∧ base < region.limit := by
    simp only [isFree, Bool.and_eq_false_iff, Bool.not_eq_false', Option.any_eq_true,
      List.any_eq_true, Bool.and_eq_true, decide_eq_true_eq] at taken
    rcases taken with ⟨nearest, last, behind⟩ | ⟨region, inside, above, below⟩
    · obtain ⟨inside, before⟩ := List.mem_filter.1 (List.mem_of_getLast? last)
      have low : nearest.base < base := of_decide_eq_true before
      have ends := Region.endsBehind_iff.1 behind
      unfold Word.saturatingAdd
      exact ⟨nearest, inside, by omega, ends.1⟩
    · have filled := ordered.base_lt_limit region inside
      exact ⟨region, inside, below, by omega⟩
  obtain ⟨last, there, below, highest, chosen⟩ :=
    exists_nearest (· < Word.saturatingAdd base size) ordered.ascending inside starts
  have filled := ordered.base_lt_limit last there
  unfold Word.saturatingAdd at below
  refine ⟨last, there, chosen, by omega, ?_⟩
  -- The last one is the one that was found, or it lies wholly behind that one.
  rcases Nat.eq_or_lt_of_le highest with same | less
  · cases ordered.eq_of_base inside there same
    exact ends
  · have gap := ordered.limit_le_base disjoint inside there less
    omega

/-- A leap goes up, and over no base at which the range would meet no reservation. -/
theorem leap_of_taken (taken : space.isFree base size = false) :
    base < space.leap size base ∧ granularity ∣ space.leap size base ∧
      ∀ other ∈ space.openings size, base ≤ other → space.leap size base ≤ other := by
  obtain ⟨region, inside, last, starts, ends⟩ :=
    blocker_of_taken ordered disjoint positive taken
  have target : space.leap size base = granuleCeil region.limit := by
    simp [leap, last]
  have least := isLeast_granuleCeil region.limit
  rw [target]
  refine ⟨?_, least.1.1, ?_⟩
  · have up := least.1.2
    omega
  · rintro other ⟨aligned, _, clear⟩ above
    have apart := clear region inside
    rw [Region.meets_iff (ordered.base_lt_limit region inside) positive] at apart
    apply least.2
    exact ⟨aligned, by omega⟩

/-- From every base below it, the leaps lead to the least opening: each goes up and none over it. -/
theorem leapsTo_of_isLeast {found : Nat} (least : IsLeast (space.openings size) found)
    (short : ∀ region ∈ space.regions, region.base < found + size → region.limit ≤ Word.top)
    (aligned : granularity ∣ base) (marked : space.next ≤ base) (below : base ≤ found) :
    LeapsTo space size base found := by
  induction left : found - base using Nat.strong_induction_on generalizing base with
  | h left ih =>
    have here : ∀ region ∈ space.regions, region.base < base + size →
        region.limit ≤ Word.top := fun region inside starts => short region inside (by omega)
    cases free : space.isFree base size with
    | true =>
      have clear := not_meets_of_isFree ordered disjoint positive here free
      have first : found ≤ base := least.2 ⟨aligned, marked, clear⟩
      obtain rfl : base = found := by omega
      exact .free free
    | false =>
      obtain ⟨up, multiple, skips⟩ := leap_of_taken ordered disjoint positive free
      have within := skips found least.1 below
      apply LeapsTo.taken free
      apply ih (found - space.leap size base) _ multiple _ within rfl
      · omega
      · omega

end

/-- In an address space whose reservations have no address in common and stay within the word
range, a reservation without a wanted address goes to the first multiple of the granularity from
the mark on where it meets none, and the mark moves to the next multiple behind it. The search by
leaps ends there as well, if the new reservation or all old ones end where the sums of words are
exact. -/
theorem place_firstFit {space : Space} {size : Nat} (ordered : space.Ordered)
    (disjoint : space.regions.Pairwise Region.Disjoint)
    (fits : ∀ region ∈ space.regions, region.limit ≤ Word.top + 1)
    (marked : granularity ∣ space.next) (positive : 0 < size) :
    ∃ base next, space.place none size = .ok (base, { space with next }) ∧
      IsLeast (space.openings size) base ∧
      IsLeast {mark | granularity ∣ mark ∧ base + size ≤ mark} next ∧
      (base + size ≤ Word.top + 1 ∨ (∀ region ∈ space.regions, region.limit ≤ Word.top) →
        LeapsTo space size space.next base) := by
  have least := isLeast_firstGap ordered ordered.base_lt_limit marked positive
  refine ⟨_, _, rfl, least, isLeast_granuleCeil _, fun exact => ?_⟩
  apply leapsTo_of_isLeast ordered disjoint positive least _ marked (Nat.le_refl _) least.1.2.1
  intro region inside starts
  rcases exact with ends | words
  · -- A reservation up to the end of the word range would meet a range that begins behind it.
    have apart := least.1.2.2 region inside
    have fit := fits region inside
    rw [Region.meets_iff (ordered.base_lt_limit region inside) positive] at apart
    omega
  · exact words region inside

/-- Two reservations at wanted addresses, with a gap between them that is too short. -/
def scatteredSpace : Space :=
  { regions := [.reserve 0x10000000 0x1000 .readWrite, .reserve 0x10020000 0x3000 .readOnly] }

theorem place_firstFit_scatteredSpace :
    scatteredSpace.place none 0x20000 =
        .ok (0x10030000, { scatteredSpace with next := 0x10050000 }) ∧
      IsLeast (scatteredSpace.openings 0x20000) 0x10030000 ∧
      LeapsTo scatteredSpace 0x20000 0x10000000 0x10030000 := by
  have ordered : scatteredSpace.Ordered := ⟨by simp [scatteredSpace], by decide⟩
  have limits : (Region.reserve 0x10000000 0x1000 .readWrite).limit = 0x10001000 := by decide
  have disjoint : scatteredSpace.regions.Pairwise Region.Disjoint := by
    simp only [scatteredSpace, List.pairwise_cons, List.mem_singleton, forall_eq]
    refine ⟨fun address both => ?_, by simp⟩
    simp only [Region.Encloses, limits, Region.base_reserve] at both
    omega
  obtain ⟨base, next, placed, least, _, leaps⟩ :=
    place_firstFit ordered disjoint (by decide) (by decide) (show 0 < 0x20000 by decide)
  have gap : firstGap 0x20000 scatteredSpace.next scatteredSpace.regions = 0x10030000 := by
    decide +kernel
  have here : scatteredSpace.place none 0x20000 =
      .ok (0x10030000, { scatteredSpace with next := 0x10050000 }) := by
    simp [place, gap, granuleCeil, granularity]
  obtain ⟨rfl, _⟩ := Prod.mk.inj (Except.ok.inj (placed.symm.trans here))
  exact ⟨here, least, leaps (.inl (by decide))⟩

end Space

end Steward.Memory
