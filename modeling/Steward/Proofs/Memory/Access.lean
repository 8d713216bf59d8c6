import Steward.Proofs.Memory.Touching

/-! When reads, writes and changes of protection succeed, and what a query tells about it. Each of
them goes over the pages of a range in its own way: a read and a write piece by piece, a change of
protection by an index range. All three ask of the same pages what a query of them would answer. -/

set_option autoImplicit false

namespace Steward.Memory

namespace Region

variable {region changed : Region} {address length other : Nat} {wanted : Protection}

/-- The page at an address is committed and may be accessed in a wanted way. -/
def Grants (region : Region) (address : Nat) (wanted : Protection) : Prop :=
  region.contains address = true ∧ ∃ page, region.pages[region.pageIndex address]? = some page ∧
    page.isCommitted = true ∧ page.protection.allows wanted = true

end Region

namespace Space

variable {space : Space} {region : Region} {address length other : Nat}

/-- A range lies in the reservation that contains its start, and what is known of each of its
addresses passes a test. -/
def Spans (space : Space) (address length : Nat) (test : RegionInfo → Prop) : Prop :=
  ∃ region ∈ space.regions, region.contains address = true ∧ address + length ≤ region.limit ∧
    ∀ other, address ≤ other → other < address + length → test (space.query other)

theorem spans_iff (laid : space.Laid) (word : address ≤ Word.top) {test : RegionInfo → Prop} :
    space.Spans address length test ↔
      ∃ region, space.regionAt? address = some region ∧ address + length ≤ region.limit ∧
        ∀ other, address ≤ other → other < address + length → test (space.query other) := by
  simp only [Spans, laid.regionAt?_eq_some_iff word, and_assoc]

/-- What a query tells is what the reservation has at the index of the address. -/
theorem query_of_found (found : space.regionAt? other = some region) {page : Page}
    (there : region.pages[region.pageIndex other]? = some page) :
    space.query other = ⟨pageFloor other, region.base, region.size,
      if page.isCommitted then .committed else .reserved, page.protection⟩ := by
  simp [query, found, Region.query, there]

theorem exists_page (found : space.regionAt? other = some region) :
    ∃ page, region.pages[region.pageIndex other]? = some page :=
  ⟨_, List.getElem?_eq_getElem (Region.pageIndex_lt (mem_of_regionAt? found).2)⟩

theorem commits_iff_query (found : space.regionAt? other = some region) :
    region.commits (region.pageIndex other) = true ↔ (space.query other).state = .committed := by
  obtain ⟨page, there⟩ := exists_page found
  rw [query_of_found found there, Region.commits, there]
  cases committed : page.isCommitted <;> simp [committed]

/-- The addresses of a range that lies in a reservation are looked up there. -/
theorem regionAt?_of_within (laid : space.Laid) (word : address + length ≤ Word.top + 1)
    (found : space.regionAt? address = some region)
    (fits : address + length ≤ region.limit) (low : address ≤ other)
    (high : other < address + length) : space.regionAt? other = some region := by
  obtain ⟨inside, holds⟩ := mem_of_regionAt? found
  have within : other ≤ Word.top := by omega
  rw [laid.regionAt?_eq_some_iff within]
  rw [Region.contains_iff] at holds ⊢
  exact ⟨inside, by omega, by omega⟩

section
variable (laid : space.Laid) (positive : 0 < length) (word : address + length ≤ Word.top + 1)
include laid positive word

end

section
variable (laid : space.Laid) (positive : 0 < length)
include laid positive

/-- Every page that a range touches is the page of an address of the range. -/
theorem commits_indices_iff (word : address + length ≤ Word.top + 1)
    (found : space.regionAt? address = some region) (fits : address + length ≤ region.limit) :
    (∀ index, covers (region.indices address length) index = true →
        region.commits index = true) ↔
      ∀ other, address ≤ other → other < address + length →
        (space.query other).state = .committed := by
  obtain ⟨inside, holds⟩ := mem_of_regionAt? found
  have aligned := pageSize_dvd_of_granularity (laid.aligned region inside)
  have start := (Region.contains_iff.1 holds).1
  constructor
  · intro every other low high
    apply (commits_iff_query (regionAt?_of_within laid word found fits low high)).1
    apply every
    rw [Region.covers_indices_iff aligned positive start (Nat.le_trans start low)]
    exact ⟨other, low, high, rfl⟩
  · intro every index covered
    rw [← Region.pageIndex_pageStart region index] at covered ⊢
    have first : region.base ≤ Region.pageStart region.base index := Nat.le_add_right _ _
    obtain ⟨other, low, high, page⟩ :=
      (Region.covers_indices_iff aligned positive start first).1 covered
    have same := (Region.pageIndex_eq_iff aligned (Nat.le_trans start low) first).2 page
    rw [← same, commits_iff_query (regionAt?_of_within laid word found fits low high)]
    exact every other low high

variable (below : address + length + pageSize ≤ Word.top + 1)
include below

end

end Space

end Steward.Memory
