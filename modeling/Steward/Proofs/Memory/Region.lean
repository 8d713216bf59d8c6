import Steward.Memory.Region

/-! How many pages of a reservation are committed. A commit adds the pages that it counts and a
decommit takes the pages that it counts away; nothing else commits or decommits a page. -/

set_option autoImplicit false

namespace Steward.Memory

@[simp] theorem Page.isCommitted_commit (protection : Protection) (page : Page) :
    (page.commit protection).isCommitted = true := rfl

@[simp] theorem Page.isCommitted_decommit (page : Page) : page.decommit.isCommitted = false := rfl

@[simp] theorem Page.isCommitted_write (offset : Nat) (data : List UInt8) (page : Page) :
    (page.write offset data).isCommitted = page.isCommitted := by
  simp [isCommitted, write]

/-- A request that is not empty takes a page at least. -/
theorem pageSize_le_pageCeil {size : Nat} (asked : size ≠ 0) : pageSize ≤ pageCeil size := by
  unfold pageCeil pageFloor Word.saturatingAdd Word.top pageSize
  omega

@[simp] theorem pageCeil_pageCeil (size : Nat) : pageCeil (pageCeil size) = pageCeil size := by
  unfold pageCeil pageFloor Word.saturatingAdd Word.top pageSize
  omega

namespace Region

/-- Pages outside an index range count as before, and those inside as their updates do. -/
theorem countP_change (region : Region) (range : Nat × Nat) (update : Page → Page)
    (test : Page → Bool) :
    (region.change range update).pages.countP test + (region.slice range).countP test =
      region.pages.countP test + (region.slice range).countP fun page => test (update page) := by
  obtain ⟨base, pages⟩ := region
  obtain ⟨first, last⟩ := range
  simp only [change, slice]
  -- With every page the range moves down by one, until it begins and until it ends.
  induction pages generalizing first last with
  | nil => simp
  | cons page rest ih =>
    simp only [List.mapIdx_cons, List.countP_cons]
    cases last with
    | zero =>
      have same : (rest.mapIdx fun _ page => page) = rest := List.ext_getElem (by simp) (by simp)
      simp [same]
    | succ last =>
      cases first with
      | zero =>
        have tail := ih 0 last
        simp only [Nat.zero_le, true_and, Nat.add_lt_add_iff_right, List.take_succ_cons,
          List.drop_zero, List.countP_cons, Nat.zero_lt_succ, if_true] at tail ⊢
        omega
      | succ first =>
        have tail := ih first last
        have outside : ¬(first + 1 ≤ 0 ∧ 0 < last + 1) := by omega
        simp only [Nat.add_le_add_iff_right, Nat.add_lt_add_iff_right, List.take_succ_cons,
          List.drop_succ_cons, if_neg outside] at tail ⊢
        omega

/-- The pages of a slice that pass a test, counted by their places. -/
theorem countP_slice (region : Region) (range : Nat × Nat) (test : Page → Bool) :
    (region.slice range).countP test = (List.range region.pages.length).countP fun index =>
      decide (range.1 ≤ index ∧ index < range.2) && region.pages[index]?.any test := by
  obtain ⟨base, pages⟩ := region
  obtain ⟨first, last⟩ := range
  simp only [slice]
  induction pages generalizing first last with
  | nil => simp
  | cons page rest ih =>
    rw [List.length_cons, List.range_succ_eq_map, List.countP_cons, List.countP_map]
    cases last with
    | zero => simp
    | succ last =>
      cases first with
      | zero =>
        have tail := ih 0 last
        simp only [List.take_succ_cons, List.drop_zero, List.countP_cons] at tail ⊢
        rw [tail]
        simp [Function.comp_def]
      | succ first =>
        have tail := ih first last
        simp only [List.take_succ_cons, List.drop_succ_cons] at tail ⊢
        rw [tail]
        simp [Function.comp_def]

@[simp] theorem length_change (region : Region) (range : Nat × Nat) (update : Page → Page) :
    (region.change range update).pages.length = region.pages.length := by
  simp [change]

@[simp] theorem base_change (region : Region) (range : Nat × Nat) (update : Page → Page) :
    (region.change range update).base = region.base := rfl

@[simp] theorem base_reserve (base size : Nat) (protection : Protection) :
    (reserve base size protection).base = base := rfl

@[simp] theorem base_commit (region : Region) (range : Nat × Nat) (protection : Protection) :
    (region.commit range protection).2.base = region.base := rfl

@[simp] theorem base_decommit (region : Region) (range : Nat × Nat) :
    (region.decommit range).2.base = region.base := rfl

@[simp] theorem length_commit (region : Region) (range : Nat × Nat) (protection : Protection) :
    (region.commit range protection).2.pages.length = region.pages.length :=
  region.length_change range _

@[simp] theorem length_decommit (region : Region) (range : Nat × Nat) :
    (region.decommit range).2.pages.length = region.pages.length :=
  region.length_change range _

theorem countP_isCommitted_add (pages : List Page) :
    pages.countP Page.isCommitted + pages.countP (fun page => !page.isCommitted) =
      pages.length := by
  have parts := List.length_eq_countP_add_countP Page.isCommitted (l := pages)
  simp only [Bool.not_eq_true, Bool.decide_eq_false] at parts
  exact parts.symm

theorem committedBytes_commit (region : Region) (range : Nat × Nat) (protection : Protection) :
    (region.commit range protection).2.committedBytes =
      region.committedBytes + (region.commit range protection).1 := by
  have count := region.countP_change range (Page.commit protection) Page.isCommitted
  have parts := countP_isCommitted_add (region.slice range)
  simp only [Page.isCommitted_commit, List.countP_true] at count
  simp only [commit, committedBytes, uncommittedBytes, ← Nat.add_mul]
  congr 1
  omega

theorem committedBytes_decommit (region : Region) (range : Nat × Nat) :
    (region.decommit range).2.committedBytes + (region.decommit range).1 =
      region.committedBytes := by
  have count := region.countP_change range Page.decommit Page.isCommitted
  simp only [Page.isCommitted_decommit, List.countP_false, Function.const_apply,
    Nat.add_zero] at count
  simp only [decommit, committedBytes, ← Nat.add_mul]
  rw [count]

theorem committedBytes_reserve (base size : Nat) (protection : Protection) :
    (reserve base size protection).committedBytes = 0 := by
  simp [reserve, committedBytes, List.countP_replicate, Page.isCommitted]

@[simp] theorem size_reserve (base size : Nat) (protection : Protection) :
    (reserve base size protection).size = pageCeil size := by
  simp only [Region.size, reserve, List.length_replicate]
  unfold pageCeil pageFloor pageSize
  omega

theorem length_reserve_pos (base : Nat) {size : Nat} (protection : Protection) (asked : size ≠ 0) :
    0 < (reserve base (pageCeil size) protection).pages.length := by
  have long := pageSize_le_pageCeil asked
  have whole := size_reserve base (pageCeil size) protection
  rw [pageCeil_pageCeil, Region.size] at whole
  unfold pageSize at long whole
  omega

/-- No more is missing from a range than the reservation is long. -/
theorem uncommittedBytes_le_size (region : Region) (range : Nat × Nat) :
    region.uncommittedBytes range ≤ region.size := by
  apply Nat.mul_le_mul_right
  have short : (region.slice range).length ≤ region.pages.length := by
    simp only [slice, List.length_drop, List.length_take]
    omega
  exact Nat.le_trans List.countP_le_length short

/-- Two reservations with the same base and the same pages committed. -/
structure Alike (first second : Region) : Prop where
  base : second.base = first.base
  pages : second.pages.map Page.isCommitted = first.pages.map Page.isCommitted

theorem Alike.refl (region : Region) : region.Alike region := ⟨rfl, rfl⟩

theorem Alike.trans {first second third : Region} (left : first.Alike second)
    (right : second.Alike third) : first.Alike third :=
  ⟨right.base.trans left.base, right.pages.trans left.pages⟩

theorem Alike.length {first second : Region} (alike : first.Alike second) :
    second.pages.length = first.pages.length := by
  simpa using congrArg List.length alike.pages

theorem Alike.committedBytes {first second : Region} (alike : first.Alike second) :
    second.committedBytes = first.committedBytes := by
  have same := congrArg (List.countP id) alike.pages
  simp only [List.countP_map, Function.id_comp] at same
  simp [Region.committedBytes, same]

theorem alike_of_protect {region changed : Region} {range : Nat × Nat}
    {protection previous : Protection}
    (made : region.protect range protection = .ok (previous, changed)) : region.Alike changed := by
  unfold protect at made
  split at made
  · cases made
  · split at made
    · cases made
      refine ⟨rfl, List.ext_getElem (by simp) fun index _ _ => ?_⟩
      simp only [change, List.getElem_map, List.getElem_mapIdx]
      split <;> rfl
    · cases made

theorem alike_writePieces (region : Region) (parts : List (Nat × Nat)) (data : List UInt8) :
    region.Alike (region.writePieces parts data) := by
  induction parts generalizing region data with
  | nil => exact .refl region
  | cons part rest ih =>
    -- One piece changes the contents of one page and leaves it committed.
    have first : region.Alike { region with
        pages := region.pages.modify (region.pageIndex part.1)
          (Page.write (part.1 % pageSize) (data.take part.2)) } := by
      refine ⟨rfl, List.ext_getElem (by simp) fun index _ _ => ?_⟩
      simp only [List.getElem_map, List.getElem_modify]
      split <;> simp
    exact first.trans (ih _ (data.drop part.2))

theorem alike_of_write {region written : Region} {address : Nat} {data : List UInt8}
    (made : region.write address data = .ok written) : region.Alike written := by
  simp only [write] at made
  split at made
  · cases made
  · cases made
    exact alike_writePieces region _ data

end Region

end Steward.Memory
