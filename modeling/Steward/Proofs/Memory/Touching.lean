import Steward.Proofs.Memory.Committed

/-! The pages that a range of addresses touches. A range that lies in a reservation and ends below
the last page of the word range is the index range of exactly those pages. -/

set_option autoImplicit false

namespace Steward.Memory

/-- The last page boundary of the word range, which is where rounding up stops. -/
def lastBoundary : Nat := pageFloor Word.top

theorem pageCeil_saturatingAdd (first second : Nat) :
    pageCeil (Word.saturatingAdd first second) =
      min ((first + second + 4095) / 4096 * 4096) lastBoundary := by
  unfold pageCeil lastBoundary pageFloor Word.saturatingAdd Word.top pageSize
  omega

/-- An address of a range lies in the same page as another address. -/
def Touched (address length other : Nat) : Prop :=
  ∃ inside, address ≤ inside ∧ inside < address + length ∧ inside / pageSize = other / pageSize

variable {address length other : Nat}

theorem touched_iff (positive : 0 < length) :
    Touched address length other ↔
      address / pageSize ≤ other / pageSize ∧
        other / pageSize ≤ (address + length - 1) / pageSize := by
  unfold pageSize
  constructor
  · rintro ⟨inside, low, high, same⟩
    unfold pageSize at same
    omega
  · rintro ⟨first, last⟩
    -- Of the starts of the range and of the page, the later one lies in both.
    refine ⟨max address (other / 4096 * 4096), ?_, ?_, ?_⟩
    · omega
    · omega
    · unfold pageSize
      omega

namespace Region

variable {region : Region}

/-- The index range of the pages that a range touches. -/
def indices (region : Region) (address length : Nat) : Nat × Nat :=
  (region.pageIndex address, region.pageIndex (address + length - 1) + 1)

/-- A range that begins in a reservation is answered with the pages that it touches, unless it runs
past the end of the reservation. A range past the last page boundary cannot be told from one up to
that boundary: where the reservation reaches as far, it is answered with the pages up to there. -/
theorem pageRange_eq (aligned : pageSize ∣ region.base) (positive : 0 < length)
    (inside : region.contains address = true) :
    region.pageRange address length =
      if lastBoundary < address + length ∧ lastBoundary ≤ region.limit then
        .ok (region.pageIndex address, region.pageIndex lastBoundary)
      else if address + length ≤ region.limit then .ok (region.indices address length)
      else .error (.invalidArgument (.rangePastEnd address length region.limit)) := by
  obtain ⟨start, base⟩ := aligned
  have low := (contains_iff.1 inside).1
  have limit : region.limit = pageSize * start + region.pages.length * pageSize := by
    rw [Region.limit, base, size]
  have first : region.pageIndex (pageFloor address) = region.pageIndex address := by
    unfold pageIndex pageFloor pageSize at *
    omega
  simp only [pageRange, inside, if_true, if_neg (Nat.ne_of_gt positive), pageCeil_saturatingAdd,
    first]
  by_cases far : lastBoundary < address + length
  · -- The rounded sum is the boundary itself.
    have stop : min ((address + length + 4095) / 4096 * 4096) lastBoundary = lastBoundary := by
      unfold lastBoundary pageFloor Word.top pageSize at *
      omega
    rw [stop]
    by_cases reaches : lastBoundary ≤ region.limit
    · rw [if_neg (Nat.not_lt.2 reaches), if_pos ⟨far, reaches⟩]
    · rw [if_pos (Nat.lt_of_not_le reaches), if_neg fun both => reaches both.2, if_neg (by omega)]
  · have stop : min ((address + length + 4095) / 4096 * 4096) lastBoundary =
        (address + length + 4095) / 4096 * 4096 := by
      unfold lastBoundary pageFloor Word.top pageSize at *
      omega
    -- Up to the next page boundary a reservation has no end.
    have past : region.limit < (address + length + 4095) / 4096 * 4096 ↔
        ¬address + length ≤ region.limit := by
      unfold pageSize at limit
      omega
    have last : region.pageIndex ((address + length + 4095) / 4096 * 4096) =
        (region.indices address length).2 := by
      unfold indices pageIndex pageSize at *
      dsimp only
      omega
    have near : ¬(lastBoundary < address + length ∧ lastBoundary ≤ region.limit) :=
      fun both => far both.1
    rw [stop, if_neg near, last]
    by_cases fits : address + length ≤ region.limit
    · rw [if_neg (by simpa [past] using fits), if_pos fits]
      rfl
    · rw [if_pos (past.2 fits), if_neg fits]

theorem pageRange_eq_ok_iff {range : Nat × Nat} (aligned : pageSize ∣ region.base)
    (positive : 0 < length) (below : address + length + pageSize ≤ Word.top + 1) :
    region.pageRange address length = .ok range ↔
      region.contains address = true ∧ address + length ≤ region.limit ∧
        range = region.indices address length := by
  by_cases inside : region.contains address = true
  · have near : ¬(lastBoundary < address + length ∧ lastBoundary ≤ region.limit) := by
      unfold lastBoundary pageFloor Word.top pageSize at *
      omega
    rw [pageRange_eq aligned positive inside, if_neg near]
    by_cases fits : address + length ≤ region.limit <;> simp [inside, fits, eq_comm]
  · simp [pageRange, inside]

/-- An index range covers the pages that its range of addresses touches. -/
theorem covers_indices_iff (aligned : pageSize ∣ region.base) (positive : 0 < length)
    (low : region.base ≤ address) (inside : region.base ≤ other) :
    covers (region.indices address length) (region.pageIndex other) = true ↔
      Touched address length other := by
  obtain ⟨start, base⟩ := aligned
  rw [touched_iff positive, covers, decide_eq_true_eq]
  unfold indices pageIndex pageSize at *
  omega

theorem indices_lt (positive : 0 < length) :
    (region.indices address length).1 < (region.indices address length).2 := by
  unfold indices pageIndex pageSize
  omega

/-- A range within a reservation has indices of its pages only. -/
theorem indices_le (positive : 0 < length) (low : region.base ≤ address)
    (fits : address + length ≤ region.limit) :
    (region.indices address length).2 ≤ region.pages.length := by
  unfold limit size indices pageIndex pageSize at *
  omega

/-- The address at which a page begins. -/
def pageStart (base index : Nat) : Nat := base + index * pageSize

theorem pageIndex_pageStart (region : Region) (index : Nat) :
    region.pageIndex (pageStart region.base index) = index := by
  unfold pageIndex pageStart pageSize
  omega

theorem pageIndex_lt (inside : region.contains address = true) :
    region.pageIndex address < region.pages.length := by
  rw [contains_iff] at inside
  unfold limit size pageIndex pageSize at *
  omega

end Region

end Steward.Memory
