import Steward.Proofs.Host.Placement
import Steward.Proofs.Memory.Pages

/-! Index ranges up to the top of the word range. A range of addresses has an index range exactly
if the reservation holds all of it, and then the index range is that of the pages that it touches.
There are two exceptions. The rounded sum stops at the last page boundary of the word range, so a
reservation that ends there cannot tell a range past its end from one up to its end, and answers it
with the pages that it has. And a reservation that passes the largest word finds no address in it
and refuses every range. -/

set_option autoImplicit false

namespace Steward.Memory.Region

variable {region : Region} {address length : Nat}

/-- How far a range reaches: one of length zero runs to the end of the reservation. -/
def reach (region : Region) (address length : Nat) : Nat :=
  if length = 0 then region.limit - address else length

/-- A range of addresses has an index range exactly if the reservation holds all of it; the indices
are those of the pages that it touches, at least one and none beyond the last page. -/
structure RangeExact (region : Region) (address length : Nat) : Prop where
  held : (∃ range, region.pageRange address length = .ok range) ↔
    region.Encloses address ∧ (0 < length → address + length ≤ region.limit)
  touched : ∀ range, region.pageRange address length = .ok range → ∀ index,
    range.1 ≤ index ∧ index < range.2 ↔
      Touched address (region.reach address length) (pageStart region.base index)
  nonempty : ∀ range, region.pageRange address length = .ok range → range.1 < range.2
  within : ∀ range, region.pageRange address length = .ok range →
    range.2 ≤ region.pages.length

/-- A range begins in a reservation that reaches up to the last page boundary, and runs past that
boundary. -/
structure CutShort (region : Region) (address length : Nat) : Prop where
  begins : region.contains address = true
  positive : 0 < length
  far : lastBoundary < address + length
  reaches : lastBoundary ≤ region.limit

/-- A reservation holds a range, but passes the largest word. -/
structure PastTop (region : Region) (address length : Nat) : Prop where
  encloses : region.Encloses address
  fits : 0 < length → address + length ≤ region.limit
  passes : Word.top < region.limit

/-- A range of length zero is the range of the same start that is as long as the reservation
allows. -/
theorem pageRange_zero (aligned : pageSize ∣ region.base)
    (inside : region.contains address = true) :
    region.pageRange address 0 = .ok (region.indices address (region.limit - address)) := by
  obtain ⟨start, base⟩ := aligned
  obtain ⟨low, high, _⟩ := contains_iff.1 inside
  have limit : region.limit = pageSize * start + region.pages.length * pageSize := by
    rw [Region.limit, base, size]
  have range : (region.pageIndex (pageFloor address), region.pageIndex region.limit) =
      region.indices address (region.limit - address) := by
    unfold indices pageIndex pageFloor pageSize at *
    ext <;> dsimp only <;> omega
  simp only [pageRange, inside, if_true, Nat.lt_irrefl, if_false, range]

theorem reach_pos (inside : region.contains address = true) : 0 < region.reach address length := by
  have high := (contains_iff.1 inside).2.1
  unfold reach
  split <;> omega

/-- A range that the reservation holds has the indices of its pages. -/
theorem RangeExact.of_indices (aligned : pageSize ∣ region.base)
    (inside : region.contains address = true)
    (fits : address + region.reach address length ≤ region.limit)
    (made : region.pageRange address length =
      .ok (region.indices address (region.reach address length))) :
    region.RangeExact address length := by
  have low := (contains_iff.1 inside).1
  have positive : 0 < region.reach address length := reach_pos inside
  have encloses := (contains_iff_encloses.1 inside).1
  refine ⟨⟨fun _ => ⟨encloses, fun long => ?_⟩, fun _ => ⟨_, made⟩⟩, ?_, ?_, ?_⟩
  · rwa [reach, if_neg (Nat.ne_of_gt long)] at fits
  all_goals
    intro range given
    obtain rfl := Except.ok.inj (made.symm.trans given)
  · intro index
    rw [← covers_indices_pageStart aligned positive low, covers, decide_eq_true_eq]
  · exact indices_lt positive
  · exact indices_le positive low fits

/-- A range that is refused, and not held by the reservation. -/
theorem RangeExact.of_error {error : Error} (made : region.pageRange address length = .error error)
    (outside : ¬(region.Encloses address ∧ (0 < length → address + length ≤ region.limit))) :
    region.RangeExact address length := by
  refine ⟨⟨fun ⟨range, given⟩ => ?_, fun held => absurd held outside⟩, ?_, ?_, ?_⟩
  · cases made.symm.trans given
  all_goals
    intro range given
    cases made.symm.trans given

theorem PastTop.pageRange (past : region.PastTop address length) :
    region.pageRange address length =
      .error (.invalidArgument (.outsideRegion address region.base)) := by
  have unseen : ¬region.contains address = true := by
    rw [contains_iff_encloses]
    exact fun ⟨_, word⟩ => Nat.not_lt.2 word past.passes
  rw [Region.pageRange, if_neg unseen]

theorem PastTop.not_rangeExact (past : region.PastTop address length) :
    ¬region.RangeExact address length := by
  intro exact
  obtain ⟨range, made⟩ := exact.held.2 ⟨past.encloses, past.fits⟩
  cases past.pageRange.symm.trans made

theorem rangeExact_of_whole (aligned : pageSize ∣ region.base)
    (whole : ¬region.CutShort address length) (word : ¬region.PastTop address length) :
    region.RangeExact address length := by
  by_cases inside : region.contains address = true
  · rcases Nat.eq_zero_or_pos length with rfl | positive
    · have high := (contains_iff.1 inside).2.1
      refine .of_indices aligned inside ?_ (pageRange_zero aligned inside)
      rw [reach, if_pos rfl]
      omega
    · have near : ¬(lastBoundary < address + length ∧ lastBoundary ≤ region.limit) :=
        fun ⟨far, reaches⟩ => whole ⟨inside, positive, far, reaches⟩
      have made := pageRange_eq aligned positive inside
      rw [if_neg near] at made
      by_cases fits : address + length ≤ region.limit
      · have reach : region.reach address length = length := if_neg (Nat.ne_of_gt positive)
        rw [if_pos fits] at made
        exact .of_indices aligned inside (by rwa [reach]) (by rw [made, reach])
      · rw [if_neg fits] at made
        exact .of_error made fun held => fits (held.2 positive)
  · refine .of_error (by rw [pageRange, if_neg inside]) fun ⟨encloses, fits⟩ => word ?_
    rw [contains_iff_encloses] at inside
    exact ⟨encloses, fits, Nat.lt_of_not_le fun short => inside ⟨encloses, short⟩⟩

theorem CutShort.pageRange (cut : region.CutShort address length)
    (aligned : pageSize ∣ region.base) :
    region.pageRange address length =
      .ok (region.pageIndex address, region.pageIndex lastBoundary) := by
  rw [pageRange_eq aligned cut.positive cut.begins, if_pos ⟨cut.far, cut.reaches⟩]

theorem CutShort.not_rangeExact (cut : region.CutShort address length)
    (aligned : pageSize ∣ region.base) : ¬region.RangeExact address length := by
  intro exact
  have made := cut.pageRange aligned
  -- The answer has a page, so the range begins before the boundary and touches the page behind it.
  have filled := exact.nonempty _ made
  have missing := exact.touched _ made (region.pageIndex lastBoundary)
  have low := (contains_iff.1 cut.begins).1
  have reach : region.reach address length = length := if_neg (Nat.ne_of_gt cut.positive)
  rw [reach, ← covers_indices_pageStart aligned cut.positive low, covers, decide_eq_true_eq]
    at missing
  have far := cut.far
  unfold indices pageIndex lastBoundary pageFloor Word.top pageSize at *
  omega

theorem pageIndex_limit (region : Region) :
    region.pageIndex region.limit = region.pages.length := by
  unfold pageIndex limit size pageSize
  omega

/-- Only a reservation that ends at the last page boundary cuts ranges short. -/
theorem CutShort.limit_eq (cut : region.CutShort address length)
    (aligned : pageSize ∣ region.base) : region.limit = lastBoundary := by
  obtain ⟨start, base⟩ := aligned
  have reaches := cut.reaches
  have word := (contains_iff.1 cut.begins).2.2
  unfold limit size lastBoundary pageFloor Word.top pageSize at *
  omega

/-- Cut short or not, an index range has pages, and only those of the reservation. -/
theorem within_of_pageRange (aligned : pageSize ∣ region.base) {range : Nat × Nat}
    (made : region.pageRange address length = .ok range) :
    range.1 < range.2 ∧ range.2 ≤ region.pages.length := by
  by_cases cut : region.CutShort address length
  · have here := pageIndex_lt cut.begins
    rw [cut.pageRange aligned, ← cut.limit_eq aligned, pageIndex_limit] at made
    cases made
    exact ⟨here, Nat.le_refl _⟩
  · have word : ¬region.PastTop address length := by
      intro past
      cases past.pageRange.symm.trans made
    have exact := rangeExact_of_whole aligned cut word
    exact ⟨exact.nonempty range made, exact.within range made⟩

end Steward.Memory.Region

namespace Steward.Host

open Memory

/-- In every state of a run, each reservation answers a range of addresses with exactly the pages
that it touches, and refuses it exactly if it does not hold all of it, unless it cuts the range
short or holds it past the largest word. A range that is cut short runs past the end, and the answer
is all pages from its start on; past the largest word, each range is refused. No answer at all is
empty or names a page that the reservation does not have. -/
theorem rangeExact_iff {config : Config} {opened : String → Except Error Trace.Sink}
    {start : Host} (created : create config opened = .ok start) (acts : List Act) {region : Region}
    (inside : region ∈ (start.run acts).space.regions) (address length : Nat) :
    (region.RangeExact address length ↔
      ¬region.CutShort address length ∧ ¬region.PastTop address length) ∧
    (region.CutShort address length → region.limit < address + length ∧
      region.pageRange address length = .ok (region.pageIndex address, region.pages.length)) ∧
    (region.PastTop address length → region.pageRange address length =
      .error (.invalidArgument (.outsideRegion address region.base))) ∧
    ∀ range, region.pageRange address length = .ok range →
      range.1 < range.2 ∧ range.2 ≤ region.pages.length := by
  have aligned := pageSize_dvd_of_granularity ((laid_run created acts).aligned region inside)
  refine ⟨⟨fun exact => ⟨fun cut => cut.not_rangeExact aligned exact,
    fun past => past.not_rangeExact exact⟩, fun ⟨whole, word⟩ =>
      Region.rangeExact_of_whole aligned whole word⟩, fun cut => ?_, fun past => past.pageRange,
      fun range made => Region.within_of_pageRange aligned made⟩
  have last := cut.limit_eq aligned
  refine ⟨last ▸ cut.far, ?_⟩
  rw [cut.pageRange aligned, ← last, Region.pageIndex_limit]

/-- Fifteen pages are reserved up to the last page boundary, and sixteen below them. -/
def topPages : List Act :=
  [.virtualAlloc ⟨1⟩ (some 0xffffffffffff0000) 0xf000 ⟨false, true⟩ .readWrite .task,
    .virtualAlloc ⟨1⟩ (some 0xfffffffffffe1234) 0x10000 ⟨false, true⟩ .readOnly .task]

/-- Up to the boundary a range is answered exactly, and one byte further it is not. -/
theorem rangeExact_topPages :
    ∃ start region, create {} (fun _ => .ok (.memory 0 [])) = .ok start ∧
      region ∈ (start.run topPages).space.regions ∧ region.limit = 0xfffffffffffff000 ∧
      region.RangeExact 0xffffffffffffdfff 0x1001 ∧
      ¬region.RangeExact 0xffffffffffffdfff 0x1002 ∧
      region.pageRange 0xffffffffffffdfff 0x1002 = .ok (13, 15) := by
  let region := Region.reserve 0xffffffffffff0000 0xf000 .readWrite
  obtain ⟨start, created, inside⟩ :
      ∃ start, create {} (fun _ => .ok (.memory 0 [])) = .ok start ∧
        region ∈ (start.run topPages).space.regions := ⟨_, rfl, by decide +kernel⟩
  have upTo := rangeExact_iff created topPages inside 0xffffffffffffdfff 0x1001
  have past := rangeExact_iff created topPages inside 0xffffffffffffdfff 0x1002
  have cut : region.CutShort 0xffffffffffffdfff 0x1002 :=
    ⟨by decide, by decide, by decide, by decide⟩
  refine ⟨start, region, created, inside, by decide, upTo.1.2 ⟨fun short => ?_, fun passing => ?_⟩,
    fun exact => (past.1.1 exact).1 cut, ?_⟩
  · exact absurd short.far (by decide)
  · exact absurd passing.passes (by decide)
  · exact (past.2.1 cut).2.trans (by decide)

/-- A commit that asks for one byte behind the last of the reserved pages succeeds with the pages
that there are. -/
theorem not_rangeExact_topPages :
    ∃ start region, create {} (fun _ => .ok (.memory 0 [])) = .ok start ∧
      region ∈ (start.run topPages).space.regions ∧
      region.contains 0xffffffffffff0000 = true ∧ region.limit < 0xffffffffffff0000 + 0xf001 ∧
      region.pageRange 0xffffffffffff0000 0xf001 = .ok (0, 15) ∧
      ¬region.RangeExact 0xffffffffffff0000 0xf001 ∧
      ((start.run topPages).virtualAlloc ⟨1⟩ (some 0xffffffffffff0000) 0xf001 ⟨true, false⟩
        .readWrite .task).1 = .ok 0xffffffffffff0000 := by
  refine ⟨_, Region.reserve 0xffffffffffff0000 0xf000 .readWrite, rfl, by decide +kernel,
    by decide, by decide, by decide, fun exact => ?_, by decide +kernel⟩
  have fits := (exact.held.1 ⟨(0, 15), by decide⟩).2 (by decide)
  exact absurd fits (by decide)

end Steward.Host
