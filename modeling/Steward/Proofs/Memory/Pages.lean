import Mathlib.Algebra.Ring.Nat
import Steward.Proofs.Memory.Access

/-! Address spaces page by page, and what a request for memory makes of the pages: those that its
range touches are committed or reserved as it says, and every other page is left alone. -/

set_option autoImplicit false

namespace Steward.Memory

namespace Region

variable {region : Region} {base address size index : Nat} {protection : Protection}

theorem length_reserve (base size : Nat) (protection : Protection) :
    (reserve base size protection).pages.length = pageCeil size / pageSize :=
  List.length_replicate

theorem bytes_of_reserve {page : Page}
    (found : (reserve base size protection).pages[index]? = some page) : page.bytes = none :=
  congrArg Page.bytes (List.eq_of_mem_replicate (List.mem_of_getElem? found))

/-- A range that touches a page of a reservation around it has the index of that page. -/
theorem covers_indices_pageStart (aligned : pageSize ∣ region.base) (positive : 0 < size)
    (low : region.base ≤ address) :
    covers (region.indices address size) index = true ↔
      Touched address size (pageStart region.base index) := by
  have start : region.base ≤ pageStart region.base index := Nat.le_add_right _ _
  rw [← covers_indices_iff aligned positive low start, pageIndex_pageStart]

/-- A commit of a range backs the pages that the range touches. Those that were backed already keep
their contents. -/
theorem getElem?_commit (aligned : pageSize ∣ region.base) (positive : 0 < size)
    (low : region.base ≤ address) (fits : address + size ≤ region.limit) :
    (Touched address size (pageStart region.base index) →
      (region.commit (region.indices address size) protection).2.pages[index]? =
        some ⟨protection, some ((region.pages[index]?.bind Page.bytes).getD blankPage)⟩) ∧
    (¬Touched address size (pageStart region.base index) →
      (region.commit (region.indices address size) protection).2.pages[index]? =
        region.pages[index]?) := by
  have covered := @covers_indices_pageStart region address size index aligned positive low
  rw [covers, decide_eq_true_eq] at covered
  rw [commit, getElem?_change, ← covered]
  constructor
  · intro within
    have last := indices_le positive low fits
    have short : index < region.pages.length := by omega
    rw [List.getElem?_eq_getElem short, Option.map_some, if_pos within]
    rfl
  · intro without
    simp only [if_neg without, Option.map_id']

/-- A reservation of a size from a base on has the pages that a range of the size touches. -/
theorem lt_length_reserve_iff (aligned : pageSize ∣ base) (positive : 0 < size)
    (word : size + pageSize ≤ Word.top + 1) :
    index < (reserve base (pageCeil size) protection).pages.length ↔
      Touched base size (pageStart base index) := by
  obtain ⟨start, rfl⟩ := aligned
  rw [length_reserve, pageCeil_pageCeil, touched_iff positive]
  unfold pageStart pageCeil pageFloor Word.saturatingAdd Word.top pageSize at *
  omega

/-- Behind the pages that the range touches there are none. -/
theorem getElem?_reserve_of_untouched (aligned : pageSize ∣ base) (positive : 0 < size)
    (word : size + pageSize ≤ Word.top + 1)
    (untouched : ¬Touched base size (pageStart base index)) :
    (reserve base (pageCeil size) protection).pages[index]? = none := by
  apply List.getElem?_eq_none
  apply Nat.le_of_not_lt
  rwa [lt_length_reserve_iff aligned positive word]

/-- A range of the size from the base on lies in the reservation. -/
theorem spans_reserve (aligned : pageSize ∣ base) (positive : 0 < size)
    (below : base + size + pageSize ≤ Word.top + 1) :
    (reserve base (pageCeil size) protection).contains base = true ∧
      base + size ≤ (reserve base (pageCeil size) protection).limit := by
  have bounds : size ≤ pageCeil size ∧ base + pageCeil size ≤ Word.top := by
    obtain ⟨start, rfl⟩ := aligned
    unfold pageCeil pageFloor Word.saturatingAdd Word.top pageSize at *
    omega
  rw [contains_iff, limit, size_reserve, pageCeil_pageCeil, base_reserve]
  omega

theorem indices_pageCeil (positive : 0 < size) (word : size + pageSize ≤ Word.top + 1) :
    (reserve base (pageCeil size) protection).indices base (pageCeil size) =
      (reserve base (pageCeil size) protection).indices base size := by
  unfold indices pageIndex pageCeil pageFloor Word.saturatingAdd Word.top pageSize at *
  simp only [base_reserve, Prod.mk.injEq, true_and]
  omega

end Region

namespace Space

variable {space placed : Space} {base address size index : Nat} {protection : Protection}

/-- The page at an index of the reservation at a base. -/
def pageAt? (space : Space) (base index : Nat) : Option Page :=
  (space.regions.find? fun region => region.base = base).bind fun region => region.pages[index]?

theorem Ordered.pageAt? (ordered : space.Ordered) {region : Region}
    (inside : region ∈ space.regions) (index : Nat) :
    space.pageAt? region.base index = region.pages[index]? := by
  unfold Space.pageAt?
  cases found : space.regions.find? fun other => other.base = region.base with
  | none => simpa using List.find?_eq_none.1 found region inside
  | some other =>
    have same : other.base = region.base := by simpa using List.find?_some found
    rw [ordered.eq_of_base (List.mem_of_find?_eq_some found) inside same, Option.bind_some]

theorem pageAt?_of_new (new : space.hasBase base = false) (index : Nat) :
    space.pageAt? base index = none := by
  have missing : (space.regions.find? fun region => region.base = base) = none := by
    simpa [hasBase] using new
  rw [pageAt?, missing, Option.bind_none]

/-- Among reservations that are kept by their bases, a base is found or is not kept. -/
theorem find?_filter_base (regions : List Region) (test : Nat → Bool) (base : Nat) :
    (regions.filter fun region => test region.base).find? (fun region => region.base = base) =
      if test base then regions.find? fun region => region.base = base else none := by
  rw [List.find?_filter]
  split
  · next kept =>
    congr 1
    funext region
    by_cases same : region.base = base
    · simp [same, kept]
    · simp [same]
  · next dropped =>
    rw [List.find?_eq_none]
    intro region _
    by_cases same : region.base = base
    · simp [same, dropped]
    · simp [same]

theorem pageAt?_insert (space : Space) (changed : Region) (base index : Nat) :
    (space.insert changed).pageAt? base index =
      if base = changed.base then changed.pages[index]? else space.pageAt? base index := by
  have below := find?_filter_base space.regions (fun base => base < changed.base) base
  have above := find?_filter_base space.regions (fun base => changed.base < base) base
  unfold pageAt? insert
  rw [List.find?_append, List.find?_cons, below, above]
  rcases Nat.lt_trichotomy base changed.base with low | rfl | high
  · have apart : ¬changed.base = base := by omega
    have behind : ¬changed.base < base := by omega
    simp [low, apart, behind, Nat.ne_of_lt low]
  · simp
  · have apart : ¬changed.base = base := by omega
    have before : ¬base < changed.base := by omega
    simp [high, apart, before, Nat.ne_of_gt high]

/-- How many pages are committed in the second of two address spaces and not in the first. -/
def newlyCommitted (before after : Space) : Nat :=
  (after.regions.map fun region => (List.range region.pages.length).countP fun index =>
    region.commits index && !before.commits region.base index).sum

/-- What a reservation that is put in adds to the committed pages is all in it. -/
theorem newlyCommitted_insert (ordered : space.Ordered) (same : placed.regions = space.regions)
    (changed : Region) :
    space.newlyCommitted (placed.insert changed) =
      (List.range changed.pages.length).countP fun index =>
        changed.commits index && !space.commits changed.base index := by
  -- The others are where they were, below the new one and above it.
  have nothing : ∀ keep : Region → Bool, ((space.regions.filter keep).map fun region =>
      (List.range region.pages.length).countP fun index =>
        region.commits index && !space.commits region.base index).sum = 0 := by
    intro keep
    rw [List.sum_eq_zero_iff_forall_eq_nat, List.forall_mem_map]
    intro region kept
    rw [List.countP_eq_zero]
    intro index _
    rw [ordered.commits (List.mem_filter.1 kept).1]
    simp
  simp only [newlyCommitted, insert, same, List.map_append, List.map_cons, List.sum_append,
    List.sum_cons, nothing, Nat.zero_add, Nat.add_zero]

/-- A commit counts the bytes of the pages that it adds to the committed ones. -/
theorem newlyCommitted_commit (ordered : space.Ordered) (same : placed.regions = space.regions)
    {region : Region} (agree : ∀ index, space.commits region.base index = region.commits index)
    (range : Nat × Nat) :
    (region.commit range protection).1 =
      pageSize * space.newlyCommitted (placed.insert (region.commit range protection).2) := by
  have counted : (region.commit range protection).1 = region.uncommittedBytes range := rfl
  rw [newlyCommitted_insert ordered same, Region.length_commit, Region.base_commit, counted,
    Region.uncommittedBytes_eq, Nat.mul_comm]
  congr 1
  apply List.countP_congr
  intro index inside
  rw [Region.commits_commit, agree, decide_eq_true (List.mem_range.1 inside)]
  cases region.commits index <;> simp

theorem newlyCommitted_reserve (ordered : space.Ordered) (same : placed.regions = space.regions)
    (base size : Nat) (protection : Protection) :
    space.newlyCommitted (placed.insert (.reserve base size protection)) = 0 := by
  rw [newlyCommitted_insert ordered same, List.countP_eq_zero]
  intro index _
  rw [Region.commits_reserve]
  simp

/-- A range lies in the reservation at a base. With a commit, the pages that it touches are
committed and protected as wanted, those that were committed with their contents; without, the
reservation is new and holds nothing. All other pages are as before. -/
structure Fulfils (before after : Space) (base address size : Nat) (commit : Bool)
    (protection : Protection) : Prop where
  within : ∃ region ∈ after.regions, region.base = base ∧ region.contains address = true ∧
    address + size ≤ region.limit
  committed : commit = true → ∀ index, Touched address size (Region.pageStart base index) →
    after.pageAt? base index =
      some ⟨protection, some (((before.pageAt? base index).bind Page.bytes).getD blankPage)⟩
  reserved : commit = false → ∀ index, before.pageAt? base index = none ∧
    ∀ page, after.pageAt? base index = some page → page.bytes = none
  others : ∀ other index, ¬(other = base ∧ Touched address size (Region.pageStart base index)) →
    after.pageAt? other index = before.pageAt? other index

/-- Whatever is committed stays so, with its contents. -/
theorem Fulfils.kept {before after : Space} {commit : Bool}
    (fulfils : before.Fulfils after base address size commit protection) {other : Nat}
    {bytes : List UInt8} (held : (before.pageAt? other index).bind Page.bytes = some bytes) :
    (after.pageAt? other index).bind Page.bytes = some bytes := by
  by_cases about : other = base ∧ Touched address size (Region.pageStart base index)
  · obtain ⟨rfl, touched⟩ := about
    cases commit with
    | true => rw [fulfils.committed rfl index touched, held, Option.bind_some, Option.getD_some]
    | false =>
      -- Where the reservation is new, there was no page that could have held anything.
      rw [(fulfils.reserved rfl index).1] at held
      cases held
  · rw [fulfils.others other index about]
    exact held

/-- A reservation that is put in leaves the pages of all others alone. -/
theorem pageAt?_insert_of_ne (same : placed.regions = space.regions) {changed : Region}
    (apart : base ≠ changed.base) (index : Nat) :
    (placed.insert changed).pageAt? base index = space.pageAt? base index := by
  rw [pageAt?_insert, if_neg apart, pageAt?, same, pageAt?]

/-- A commit in a reservation that is there, or in one that is put in for it. -/
theorem fulfils_commit (same : placed.regions = space.regions) {region : Region}
    (aligned : pageSize ∣ region.base) (positive : 0 < size)
    (holds : region.contains address = true) (fits : address + size ≤ region.limit)
    (contents : ∀ index, (space.pageAt? region.base index).bind Page.bytes =
      region.pages[index]?.bind Page.bytes)
    (rest : ∀ index, ¬Touched address size (Region.pageStart region.base index) →
      space.pageAt? region.base index = region.pages[index]?) :
    space.Fulfils
      (placed.insert (region.commit (region.indices address size) protection).2)
      region.base address size true protection where
  within := by
    refine ⟨_, mem_insert.2 (.inl rfl), rfl, ?_, ?_⟩
    · rwa [Region.contains_iff, Region.limit_commit, Region.base_commit, ← Region.contains_iff]
    · rwa [Region.limit_commit]
  committed _ index touched := by
    have low := (Region.contains_iff.1 holds).1
    rw [pageAt?_insert, Region.base_commit, if_pos rfl, contents]
    exact (Region.getElem?_commit aligned positive low fits).1 touched
  reserved absurdity := by cases absurdity
  others other index outside := by
    have low := (Region.contains_iff.1 holds).1
    by_cases there : other = region.base
    · subst there
      have untouched := fun touched => outside ⟨rfl, touched⟩
      rw [pageAt?_insert, Region.base_commit, if_pos rfl, rest index untouched]
      exact (Region.getElem?_commit aligned positive low fits).2 untouched
    · apply pageAt?_insert_of_ne same
      exact there

theorem fulfils_commit_found (laid : space.Laid) (positive : 0 < size) {region : Region}
    (found : space.regionAt? address = some region) (fits : address + size ≤ region.limit) :
    space.Fulfils
      (space.insert (region.commit (region.indices address size) protection).2)
      region.base address size true protection := by
  obtain ⟨inside, holds⟩ := mem_of_regionAt? found
  have aligned := pageSize_dvd_of_granularity (laid.aligned region inside)
  have pages := laid.toOrdered.pageAt? inside
  apply fulfils_commit rfl aligned positive holds fits
  · intro index
    rw [pages]
  · exact fun index _ => pages index

section
variable (same : placed.regions = space.regions) (new : space.hasBase base = false)
  (aligned : pageSize ∣ base) (positive : 0 < size)
  (below : base + size + pageSize ≤ Word.top + 1)
include same new aligned positive below

theorem fulfils_commit_reserve :
    space.Fulfils (placed.insert ((Region.reserve base (pageCeil size) protection).commit
        ((Region.reserve base (pageCeil size) protection).indices base size) protection).2)
      base base size true protection := by
  obtain ⟨holds, fits⟩ := @Region.spans_reserve base size protection aligned positive below
  apply fulfils_commit same aligned positive holds fits
  · intro index
    rw [Region.base_reserve, pageAt?_of_new new, Option.bind_none]
    cases found : (Region.reserve base (pageCeil size) protection).pages[index]? with
    | none => rfl
    | some page => exact (Region.bytes_of_reserve found).symm
  · intro index untouched
    rw [Region.base_reserve, pageAt?_of_new new]
    exact (Region.getElem?_reserve_of_untouched aligned positive (by omega) untouched).symm

theorem fulfils_reserve :
    space.Fulfils (placed.insert (.reserve base (pageCeil size) protection))
      base base size false protection where
  within := ⟨_, mem_insert.2 (.inl rfl), rfl, Region.spans_reserve aligned positive below⟩
  committed absurdity := by cases absurdity
  reserved _ index := by
    refine ⟨pageAt?_of_new new index, fun page found => ?_⟩
    rw [pageAt?_insert, Region.base_reserve, if_pos rfl] at found
    exact Region.bytes_of_reserve found
  others other index outside := by
    by_cases there : other = base
    · subst there
      rw [pageAt?_insert, Region.base_reserve, if_pos rfl, pageAt?_of_new new]
      apply Region.getElem?_reserve_of_untouched aligned positive (by omega)
      exact fun touched => outside ⟨rfl, touched⟩
    · exact pageAt?_insert_of_ne same there index

end

end Space

end Steward.Memory
