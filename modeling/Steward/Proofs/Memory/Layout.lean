import Steward.Proofs.Memory.Space

/-! Where reservations lie. They begin at multiples of the granularity, and no two whose ends are
words overlap. An address is looked up in the nearest reservation that begins at or below it; since
the others do not overlap, that is the only one that can contain it. A reservation that passes the
largest word contains no address, and is looked past when a place is sought. -/

set_option autoImplicit false

namespace Steward.Memory

@[simp] theorem pageCeil_dvd (size : Nat) : pageSize ∣ pageCeil size := Nat.dvd_mul_left _ _

@[simp] theorem granuleCeil_dvd (value : Nat) : granularity ∣ granuleCeil value :=
  Nat.dvd_mul_left _ _

theorem Region.endsBehind_iff {region : Region} {address : Nat} :
    region.endsBehind address = true ↔ address < region.limit ∧ region.limit ≤ Word.top := by
  simp [Region.endsBehind, and_comm]

theorem Region.contains_iff {region : Region} {address : Nat} :
    region.contains address = true ↔
      region.base ≤ address ∧ address < region.limit ∧ region.limit ≤ Word.top := by
  rw [Region.contains, Bool.and_eq_true, decide_eq_true_eq, endsBehind_iff]

/-- An address lies in a reservation, whether its end is a word or not. -/
def Region.Encloses (region : Region) (address : Nat) : Prop :=
  region.base ≤ address ∧ address < region.limit

instance (region : Region) (address : Nat) : Decidable (region.Encloses address) :=
  inferInstanceAs (Decidable (_ ∧ _))

theorem Region.contains_iff_encloses {region : Region} {address : Nat} :
    region.contains address = true ↔ region.Encloses address ∧ region.limit ≤ Word.top := by
  rw [contains_iff, Encloses, and_assoc]

/-- Of a base and a size that are words, the sum that is left of them as a word is what an address
is compared with. -/
theorem Region.endsBehind_eq_wrapped {region : Region} {address : Nat}
    (base : region.base ≤ Word.top) (size : region.size ≤ Word.top)
    (low : region.base ≤ address) : region.endsBehind address =
      decide (address < (region.base + region.size) % (Word.top + 1)) := by
  rw [Bool.eq_iff_iff, endsBehind_iff, decide_eq_true_eq, limit]
  by_cases fits : region.base + region.size ≤ Word.top
  · rw [Nat.mod_eq_of_lt (Nat.lt_succ_of_le fits)]
    exact and_iff_left fits
  · have wraps : (region.base + region.size) % (Word.top + 1) =
        region.base + region.size - (Word.top + 1) := by
      rw [Nat.mod_eq_sub_mod (by omega), Nat.mod_eq_of_lt (by omega)]
    rw [wraps]
    omega

@[simp] theorem Region.size_commit (region : Region) (range : Nat × Nat)
    (protection : Protection) : (region.commit range protection).2.size = region.size :=
  congrArg (· * pageSize) (region.length_commit range protection)

@[simp] theorem Region.limit_commit (region : Region) (range : Nat × Nat)
    (protection : Protection) : (region.commit range protection).2.limit = region.limit := by
  rw [limit, size_commit, base_commit, limit]

theorem Region.limit_eq {region changed : Region} (base : changed.base = region.base)
    (length : changed.pages.length = region.pages.length) : changed.limit = region.limit := by
  simp only [limit, size, base, length]

namespace Space

/-- Reservations apart from each other, as far as they begin and end within the word range. A base
behind it comes up when addresses pass the largest word. -/
structure Laid (space : Space) : Prop extends Ordered space where
  marked : granularity ∣ space.next
  aligned : ∀ region ∈ space.regions, granularity ∣ region.base
  apart : ∀ first ∈ space.regions, ∀ second ∈ space.regions, first.base < second.base →
    first.limit ≤ Word.top → second.base ≤ Word.top → first.limit ≤ second.base

/-- A gap lies clear of every reservation. -/
theorem firstGap_clear {size base : Nat} {regions : List Region}
    (ascending : regions.Pairwise fun first second => first.base < second.base) :
    ∀ region ∈ regions, region.limit ≤ firstGap size base regions ∨
      firstGap size base regions + size ≤ region.base := by
  induction regions generalizing base with
  | nil => simp
  | cons head rest ih =>
    rw [List.pairwise_cons] at ascending
    unfold firstGap
    intro region inside
    split
    · next passed =>
      rcases List.mem_cons.1 inside with rfl | behind
      · exact .inl (Nat.le_trans passed (le_firstGap size base rest))
      · exact ih ascending.2 region behind
    · split
      · next fits =>
        -- The rest begins behind the reservation that the gap ends before.
        rcases List.mem_cons.1 inside with rfl | behind
        · exact .inr fits
        · have less := ascending.1 region behind
          exact .inr (by omega)
      · rcases List.mem_cons.1 inside with rfl | behind
        · have up := le_granuleCeil region.limit
          have start := le_firstGap size (granuleCeil region.limit) rest
          exact .inl (by omega)
        · exact ih ascending.2 region behind

theorem granularity_dvd_firstGap {size base : Nat} (regions : List Region)
    (start : granularity ∣ base) : granularity ∣ firstGap size base regions := by
  induction regions generalizing base with
  | nil => exact start
  | cons region rest ih =>
    unfold firstGap
    split
    · exact ih start
    · split
      · exact start
      · exact ih (granuleCeil_dvd _)

/-- The last reservation begins no lower than the others do. -/
theorem base_le_of_getLast? {regions : List Region} {last other : Region}
    (ascending : regions.Pairwise fun first second => first.base < second.base)
    (found : regions.getLast? = some last) (inside : other ∈ regions) :
    other.base ≤ last.base := by
  obtain ⟨before, rfl⟩ := List.getLast?_eq_some_iff.1 found
  rw [List.pairwise_append] at ascending
  rcases List.mem_append.1 inside with earlier | same
  · exact Nat.le_of_lt (ascending.2.2 other earlier last (by simp))
  · exact Nat.le_of_eq (congrArg Region.base (List.mem_singleton.1 same))

/-- Where a reservation begins low enough, there is a nearest one that does, and that one begins no
lower. -/
theorem exists_nearest (low : Nat → Prop) [DecidablePred low] {regions : List Region}
    {other : Region} (ascending : regions.Pairwise fun first second => first.base < second.base)
    (inside : other ∈ regions) (begins : low other.base) :
    ∃ nearest ∈ regions, low nearest.base ∧ other.base ≤ nearest.base ∧
      (regions.filter fun region => low region.base).getLast? = some nearest := by
  have listed : other ∈ regions.filter fun region => low region.base :=
    List.mem_filter.2 ⟨inside, decide_eq_true begins⟩
  obtain ⟨nearest, last⟩ := Option.isSome_iff_exists.1
    (List.getLast?_isSome.2 (List.ne_nil_of_mem listed))
  obtain ⟨there, below⟩ := List.mem_filter.1 (List.mem_of_getLast? last)
  exact ⟨nearest, there, of_decide_eq_true below,
    base_le_of_getLast? (ascending.filter _) last listed, last⟩

namespace Laid

variable {space : Space}

theorem empty : Laid {} :=
  ⟨.empty, by decide, fun _ inside => (List.not_mem_nil inside).elim,
    fun _ inside => (List.not_mem_nil inside).elim⟩

theorem base_lt_limit (laid : Laid space) {region : Region} (inside : region ∈ space.regions) :
    region.base < region.limit := by
  have pages := laid.filled region inside
  simp only [Region.limit, Region.size, pageSize]
  omega

/-- At an address there is at most one reservation. -/
theorem eq_of_contains (laid : Laid space) {first second : Region} {address : Nat}
    (left : first ∈ space.regions) (right : second ∈ space.regions)
    (inFirst : first.contains address = true) (inSecond : second.contains address = true) :
    first = second := by
  rw [Region.contains_iff] at inFirst inSecond
  rcases Nat.lt_trichotomy first.base second.base with less | same | more
  · have gap := laid.apart first left second right less (by omega)
    omega
  · exact laid.eq_of_base left right same
  · have gap := laid.apart second right first left more (by omega)
    omega

theorem regionAt?_eq_some_iff (laid : Laid space) {address : Nat} (word : address ≤ Word.top)
    {region : Region} :
    space.regionAt? address = some region ↔
      region ∈ space.regions ∧ region.contains address = true := by
  constructor
  · exact mem_of_regionAt?
  · rintro ⟨inside, holds⟩
    have within := Region.contains_iff.1 holds
    obtain ⟨nearest, there, low, highest, last⟩ :=
      exists_nearest (· ≤ address) laid.ascending inside within.1
    have same : nearest = region := by
      rcases Nat.eq_or_lt_of_le highest with same | less
      · exact laid.eq_of_base there inside same.symm
      · have gap := laid.apart region inside nearest there less within.2.2
          (Nat.le_trans low word)
        omega
    simp [regionAt?, below?, last, same, holds]

/-- A reservation and a range do not meet, as far as they begin and the reservation ends within the
word range. -/
structure Clear (other : Region) (base size : Nat) : Prop where
  below : base ≤ Word.top → other.limit ≤ Word.top → other.base < base → other.limit ≤ base
  above : other.base ≤ Word.top → base ≤ other.base → base + size ≤ other.base

/-- A free range lies clear of every reservation. -/
theorem clear_of_isFree (laid : Laid space) {base size : Nat}
    (free : space.isFree base size = true) :
    ∀ other ∈ space.regions, Clear other base size := by
  simp only [isFree, Bool.and_eq_true, Bool.not_eq_true', List.any_eq_false,
    Option.any_eq_false] at free
  intro other inside
  refine ⟨fun word ends below => ?_, fun word above => ?_⟩
  · obtain ⟨nearest, there, low, highest, last⟩ :=
      exists_nearest (· < base) laid.ascending inside below
    have clear := mt Region.endsBehind_iff.2 (Bool.eq_false_iff.1 (free.1 nearest last))
    -- Only the nearest reservation was looked at; any other ends before that one begins.
    by_cases same : other.base = nearest.base
    · rw [← laid.eq_of_base inside there same] at clear
      omega
    · have gap := laid.apart other inside nearest there (by omega) ends (by omega)
      omega
  · have behind := free.2 other inside
    simp only [decide_eq_true_eq, not_and, Nat.not_lt] at behind
    have stop := behind above
    -- The range ends at the largest word at the latest, where nothing can begin.
    have coarse := laid.aligned other inside
    unfold Word.saturatingAdd Word.top at *
    unfold granularity at coarse
    omega

/-- A place is found at a multiple of the granularity and clear of every reservation. -/
theorem clear_of_place (laid : Laid space) {after : Space} {wanted : Option Nat} {size base : Nat}
    (placed : space.place wanted size = .ok (base, after)) :
    granularity ∣ base ∧ after.regions = space.regions ∧ granularity ∣ after.next ∧
      ∀ other ∈ space.regions, Clear other base size := by
  cases wanted with
  | some address =>
    simp only [place] at placed
    split at placed
    · next free =>
      cases placed
      exact ⟨Nat.dvd_mul_left _ _, rfl, laid.marked, laid.clear_of_isFree free⟩
    · cases placed
  | none =>
    simp only [place, Except.ok.injEq, Prod.mk.injEq] at placed
    obtain ⟨rfl, rfl⟩ := placed
    refine ⟨granularity_dvd_firstGap _ laid.marked, rfl, granuleCeil_dvd _, fun other inside => ?_⟩
    have long := laid.base_lt_limit inside
    rcases @firstGap_clear size space.next _ laid.ascending other inside with before | behind
    · exact ⟨fun _ _ _ => before, fun _ above => by omega⟩
    · exact ⟨fun _ _ below => by omega, fun _ _ => behind⟩

theorem insert (laid : Laid space) {changed : Region} (filled : 0 < changed.pages.length)
    (aligned : granularity ∣ changed.base)
    (below : ∀ other ∈ space.regions, other.base < changed.base → other.limit ≤ Word.top →
      changed.base ≤ Word.top → other.limit ≤ changed.base)
    (above : ∀ other ∈ space.regions, changed.base < other.base → changed.limit ≤ Word.top →
      other.base ≤ Word.top → changed.limit ≤ other.base) : Laid (space.insert changed) := by
  refine { laid.toOrdered.insert filled with marked := laid.marked, aligned := ?_, apart := ?_ }
  · intro region inside
    rcases mem_insert.1 inside with rfl | ⟨old, _⟩
    · exact aligned
    · exact laid.aligned region old
  · intro first left second right less ends word
    rcases mem_insert.1 left with rfl | ⟨before, _⟩
    · rcases mem_insert.1 right with rfl | ⟨behind, _⟩
      · exact absurd less (Nat.lt_irrefl _)
      · exact above second behind less ends word
    · rcases mem_insert.1 right with rfl | ⟨behind, _⟩
      · exact below first before less ends word
      · exact laid.apart first before second behind less ends word

theorem of_place (laid : Laid space) {after : Space} {wanted : Option Nat} {size base : Nat}
    (placed : space.place wanted size = .ok (base, after)) : Laid after := by
  obtain ⟨_, same, marked, _⟩ := laid.clear_of_place placed
  obtain ⟨regions, next⟩ := after
  cases same
  exact { laid with marked }

/-- A new reservation is put where a place was found for it. -/
theorem insert_placed (laid : Laid space) {after : Space} {wanted : Option Nat} {size : Nat}
    {region : Region} (placed : space.place wanted size = .ok (region.base, after))
    (filled : 0 < region.pages.length) (whole : region.size = size) :
    Laid (after.insert region) := by
  obtain ⟨aligned, same, _, clear⟩ := laid.clear_of_place placed
  refine (laid.of_place placed).insert filled aligned (fun other inside less ends word => ?_)
    fun other inside less _ word => ?_
  · exact (clear other (same ▸ inside)).below word ends less
  · have gap := (clear other (same ▸ inside)).above word (Nat.le_of_lt less)
    rwa [Region.limit, whole]

/-- A reservation is put in place of one that covers the same addresses. -/
theorem replace (laid : Laid space) {region changed : Region} (inside : region ∈ space.regions)
    (base : changed.base = region.base) (length : changed.pages.length = region.pages.length) :
    Laid (space.insert changed) := by
  have limit := Region.limit_eq base length
  refine laid.insert (length ▸ laid.filled region inside) (base ▸ laid.aligned region inside)
    (fun other there less ends word => ?_) fun other there less ends word => ?_
  · rw [base] at less word ⊢
    exact laid.apart other there region inside less ends word
  · rw [base] at less
    rw [limit] at ends ⊢
    exact laid.apart region inside other there less ends word

theorem remove (laid : Laid space) (base : Nat) : Laid (space.remove base) :=
  { laid.toOrdered.remove base with
    marked := laid.marked
    aligned := fun region inside => laid.aligned region (mem_remove.1 inside).1
    apart := fun first left second right =>
      laid.apart first (mem_remove.1 left).1 second (mem_remove.1 right).1 }

/-- A place for a reservation is found where none is. -/
theorem regionAt?_eq_none_of_place (laid : Laid space) {after : Space} {wanted : Option Nat}
    {size base : Nat} (placed : space.place wanted size = .ok (base, after)) {address : Nat}
    (word : address ≤ Word.top) (low : base ≤ address) (high : address < base + size) :
    space.regionAt? address = none := by
  obtain ⟨_, _, _, clear⟩ := laid.clear_of_place placed
  refine Option.eq_none_iff_forall_ne_some.2 fun region found => ?_
  obtain ⟨inside, holds⟩ := mem_of_regionAt? found
  rw [Region.contains_iff] at holds
  obtain ⟨below, above⟩ := clear region inside
  omega

/-- Where a reservation was put in, it is found; anywhere else, what was found before. -/
theorem regionAt?_insert (laid : Laid space) {changed : Region}
    (after : Laid (space.insert changed))
    (same : ∀ other ∈ space.regions, other.base = changed.base → other.base ≤ Word.top →
      other.limit = changed.limit) {address : Nat} (word : address ≤ Word.top) :
    (space.insert changed).regionAt? address =
      if changed.contains address then some changed else space.regionAt? address := by
  apply Option.ext
  intro region
  split
  · next holds =>
    rw [after.regionAt?_eq_some_iff word, Option.some.injEq]
    have put : changed ∈ (space.insert changed).regions := mem_insert.2 (.inl rfl)
    exact ⟨fun found => after.eq_of_contains put found.1 holds found.2,
      fun found => found ▸ ⟨put, holds⟩⟩
  · next outside =>
    rw [after.regionAt?_eq_some_iff word, laid.regionAt?_eq_some_iff word, mem_insert]
    constructor
    · rintro ⟨rfl | ⟨old, _⟩, holds⟩
      · exact absurd holds outside
      · exact ⟨old, holds⟩
    · rintro ⟨old, holds⟩
      refine ⟨.inr ⟨old, fun base => outside ?_⟩, holds⟩
      have within := Region.contains_iff.1 holds
      rw [Region.contains_iff, ← base, ← same region old base (by omega)]
      exact within

theorem regionAt?_remove (laid : Laid space) (base : Nat) {address : Nat}
    (word : address ≤ Word.top) {region : Region}
    (found : (space.remove base).regionAt? address = some region) :
    space.regionAt? address = some region := by
  rw [(laid.remove base).regionAt?_eq_some_iff word] at found
  exact (laid.regionAt?_eq_some_iff word).2 ⟨(mem_remove.1 found.1).1, found.2⟩

/-- No address is in two reservations. -/
theorem pairwise_disjoint (laid : Laid space) :
    space.regions.Pairwise fun first second => ∀ address,
      ¬(first.contains address = true ∧ second.contains address = true) := by
  refine laid.ascending.imp_of_mem fun {first second} left right less address both => ?_
  have same := laid.eq_of_contains left right both.1 both.2
  exact absurd (congrArg Region.base same) (Nat.ne_of_lt less)

end Laid

end Space

end Steward.Memory
