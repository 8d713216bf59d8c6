import Steward.Proofs.Memory.Layout

/-! The bytes that reservations hold. A committed page holds one byte for each of its addresses. A
read gives those bytes and a write replaces those it covers, however many pages both go over; a
commit fills pages that had none with zeros, and a decommit takes the bytes away. -/

set_option autoImplicit false

namespace Steward.Memory

theorem pageSize_dvd_of_granularity {value : Nat} (multiple : granularity ∣ value) :
    pageSize ∣ value := Nat.dvd_trans (by decide) multiple

/-- A byte that is there when nothing was written was there before, or it is a zero where there was
none. -/
def Carries (before : Option UInt8) (byte : UInt8) : Prop :=
  before = some byte ∨ before = none ∧ byte = 0

namespace Page

/-- The byte at an offset; there is none while the page is not committed. -/
def byte? (page : Page) (offset : Nat) : Option UInt8 := page.bytes.bind fun bytes => bytes[offset]?

/-- A page that is committed holds as many bytes as a page has. -/
def Whole (page : Page) : Prop := ∀ bytes, page.bytes = some bytes → bytes.length = pageSize

theorem whole_commit {page : Page} (whole : page.Whole) (protection : Protection) :
    (page.commit protection).Whole := by
  rintro bytes made
  obtain ⟨_, _ | old⟩ := page
  · cases made
    exact List.length_replicate
  · cases made
    exact whole old rfl

theorem whole_write {page : Page} (whole : page.Whole) {offset : Nat} {data : List UInt8}
    (fits : offset + data.length ≤ pageSize) : (page.write offset data).Whole := by
  rintro bytes made
  obtain ⟨old, held, rfl⟩ := Option.map_eq_some_iff.1 made
  have long := whole old held
  simp only [List.length_append, List.length_take, List.length_drop, long]
  omega

theorem carries_commit {page : Page} {protection : Protection} {offset : Nat} {byte : UInt8}
    (held : (page.commit protection).byte? offset = some byte) :
    Carries (page.byte? offset) byte := by
  obtain ⟨_, _ | old⟩ := page
  · obtain ⟨_, _, rfl⟩ := List.getElem?_eq_some_iff.1 held
    exact .inr ⟨rfl, List.getElem_replicate _⟩
  · exact .inl held

theorem whole_decommit (page : Page) : page.decommit.Whole := fun _ held => by cases held

theorem carries_decommit {page : Page} {offset : Nat} {byte : UInt8}
    (held : page.decommit.byte? offset = some byte) : Carries (page.byte? offset) byte := by
  cases held

theorem carries_protect {page : Page} {protection : Protection} {offset : Nat} {byte : UInt8}
    (held : (page.protect protection).byte? offset = some byte) :
    Carries (page.byte? offset) byte := .inl held

theorem byte?_write {page : Page} (whole : page.Whole) {offset : Nat} {data : List UInt8}
    (fits : offset + data.length ≤ pageSize) (other : Nat) :
    (page.write offset data).byte? other =
      if offset ≤ other ∧ other < offset + data.length then
        (page.byte? other).bind fun _ => data[other - offset]?
      else page.byte? other := by
  obtain ⟨_, _ | old⟩ := page
  · split <;> rfl
  · have long := whole old rfl
    have start : (old.take offset).length = offset := by
      rw [List.length_take]
      omega
    simp only [byte?, write, Option.map_some, Option.bind_some]
    -- The new contents are the old ones in front, the data, and the old ones behind.
    rw [List.append_assoc, List.getElem?_append, start]
    split
    · next before =>
      rw [if_neg (by omega), List.getElem?_take_of_lt before]
    · next behind =>
      rw [List.getElem?_append]
      split
      · next within =>
        have there : other < old.length := by omega
        rw [if_pos (by omega), List.getElem?_eq_getElem there]
        rfl
      · next after =>
        rw [if_neg (by omega), List.getElem?_drop]
        congr 1
        omega

end Page

@[simp] theorem pieces_zero (address : Nat) : pieces address 0 = [] := by
  rw [pieces, if_pos rfl]

/-- A range that is not empty is a piece within one page, and the pieces of the range behind it. -/
@[elab_as_elim] theorem pieces_induction {motive : Nat → Nat → Prop}
    (nil : ∀ address, motive address 0)
    (cons : ∀ address count length, address % pageSize + count ≤ pageSize →
      pieces address (count + length) = (address, count) :: pieces (address + count) length →
      motive (address + count) length → motive address (count + length))
    (address length : Nat) : motive address length := by
  induction address, length using pieces.induct with
  | case1 address => exact nil address
  | case2 address length some count ih =>
    have whole : count + (length - count) = length := by omega
    have page := Nat.mod_lt address (show 0 < pageSize by decide)
    have split : pieces address length = (address, count) :: pieces (address + count)
        (length - count) := by rw [pieces, if_neg some]
    have short : address % pageSize + count ≤ pageSize := by omega
    rw [← whole] at split ⊢
    exact cons address count _ short (by simpa using split) ih

/-- Every address of a range lies in one of its pieces, in the page in which that piece begins. -/
theorem exists_piece {address length other : Nat} (low : address ≤ other)
    (high : other < address + length) :
    ∃ piece ∈ pieces address length, piece.1 ≤ other ∧ other / pageSize = piece.1 / pageSize := by
  induction address, length using pieces_induction with
  | nil address => omega
  | cons address count length short split ih =>
    rw [split]
    by_cases here : other < address + count
    · refine ⟨(address, count), List.mem_cons_self .., low, ?_⟩
      unfold pageSize at *
      omega
    · obtain ⟨piece, inside, found⟩ := ih (by omega) (by omega)
      exact ⟨piece, List.mem_cons_of_mem _ inside, found⟩

namespace Region

/-- The byte at an address, if it lies in a committed page. -/
def byte? (region : Region) (address : Nat) : Option UInt8 :=
  region.pages[region.pageIndex address]?.bind fun page => page.byte? (address % pageSize)

def Whole (region : Region) : Prop := ∀ page ∈ region.pages, page.Whole

section
variable {region : Region} {address other : Nat}

/-- Addresses of one page have one index. -/
theorem pageIndex_eq_iff (aligned : pageSize ∣ region.base) (first : region.base ≤ address)
    (second : region.base ≤ other) :
    region.pageIndex address = region.pageIndex other ↔ address / pageSize = other / pageSize := by
  obtain ⟨start, same⟩ := aligned
  unfold pageIndex pageSize at *
  omega

/-- A reservation contains whole pages. -/
theorem contains_of_page (aligned : pageSize ∣ region.base) (start : region.contains address = true)
    (page : other / pageSize = address / pageSize) : region.contains other = true := by
  rw [contains_iff] at *
  obtain ⟨first, same⟩ := aligned
  unfold limit size pageSize at *
  omega

theorem of_access {wanted : Protection} {bytes : List UInt8}
    (granted : region.access address wanted = .ok bytes) :
    region.contains address = true ∧
      ∃ page, region.pages[region.pageIndex address]? = some page ∧ page.bytes = some bytes := by
  unfold access at granted
  split at granted
  · next inside =>
    split at granted
    · cases granted
    · next page found =>
      split at granted
      · cases granted
      · next old held =>
        split at granted
        · cases granted
          exact ⟨inside, page, found, held⟩
        · cases granted
  · cases granted

/-- What is read is what the reservation holds, byte by byte. -/
theorem byte?_of_readPieces (whole : region.Whole) (aligned : pageSize ∣ region.base)
    {length : Nat} {bytes : List UInt8}
    (done : region.readPieces (pieces address length) = .ok bytes) :
    bytes.length = length ∧ ∀ index < length, region.contains (address + index) = true ∧
      region.byte? (address + index) = bytes[index]? := by
  induction address, length using pieces_induction generalizing bytes with
  | nil address =>
    rw [pieces_zero] at done
    cases done
    exact ⟨rfl, fun _ impossible => absurd impossible (Nat.not_lt_zero _)⟩
  | cons address count length short split ih =>
    rw [split] at done
    simp only [readPieces] at done
    split at done
    · cases done
    · next old granted =>
      split at done
      · cases done
      · next later rest =>
        cases done
        obtain ⟨inside, page, found, held⟩ := of_access granted
        obtain ⟨size, behind⟩ := ih rest
        have long := whole page (List.mem_of_getElem? found) old held
        have low := (contains_iff.1 inside).1
        have here : ((old.drop (address % pageSize)).take count).length = count := by
          rw [List.length_take, List.length_drop]
          omega
        refine ⟨by rw [List.length_append, here, size], fun index within => ?_⟩
        rw [List.getElem?_append, here]
        split
        · next first =>
          -- The address is in the page of this piece, as many bytes behind its start.
          have same : (address + index) / pageSize = address / pageSize ∧
              (address + index) % pageSize = address % pageSize + index := by
            unfold pageSize at *
            omega
          refine ⟨contains_of_page aligned inside same.1, ?_⟩
          rw [byte?, (pageIndex_eq_iff aligned (by omega) low).2 same.1, found, same.2,
            List.getElem?_take_of_lt first, List.getElem?_drop]
          simp [Page.byte?, held]
        · next after =>
          have further := behind (index - count) (by omega)
          rwa [show address + count + (index - count) = address + index by omega] at further

theorem contains_of_checkWrite (aligned : pageSize ∣ region.base) {length : Nat} {done : Unit}
    (checked : region.checkWrite (pieces address length) = .ok done) (low : address ≤ other)
    (high : other < address + length) : region.contains other = true := by
  have every : ∀ parts, region.checkWrite parts = .ok done →
      ∀ part ∈ parts, region.contains part.1 = true := by
    intro parts
    induction parts with
    | nil => simp
    | cons part rest ih =>
      intro checked
      simp only [checkWrite] at checked
      split at checked
      · cases checked
      · next granted =>
        rintro other (_ | ⟨_, behind⟩)
        · exact (of_access granted).1
        · exact ih checked other behind
  obtain ⟨piece, inside, _, page⟩ := exists_piece low high
  exact contains_of_page aligned (every _ checked piece inside) page

/-- A reservation after a piece of data was put into its page. -/
def writePiece (region : Region) (address : Nat) (data : List UInt8) : Region :=
  { region with
    pages := region.pages.modify (region.pageIndex address)
      (Page.write (address % pageSize) data) }

/-- A piece of data goes to one page, and every other byte stays. -/
theorem byte?_writePiece (whole : region.Whole) (aligned : pageSize ∣ region.base)
    {data : List UInt8} (low : region.base ≤ address) (inside : region.base ≤ other)
    (short : address % pageSize + data.length ≤ pageSize) :
    (region.writePiece address data).byte? other =
      if address ≤ other ∧ other < address + data.length then
        (region.byte? other).bind fun _ => data[other - address]?
      else region.byte? other := by
  have index : (region.writePiece address data).pageIndex other = region.pageIndex other := rfl
  rw [byte?, index, writePiece, List.getElem?_modify, byte?]
  cases found : region.pages[region.pageIndex other]? with
  | none => simp
  | some page =>
    have held := whole page (List.mem_of_getElem? found)
    simp only [Option.map_eq_map, Option.map_some, Option.bind_some]
    by_cases same : region.pageIndex address = region.pageIndex other
    · have page := (pageIndex_eq_iff aligned low inside).1 same
      rw [if_pos same, Page.byte?_write held short]
      -- Within one page, offsets are as far apart as addresses.
      have offsets : (address % pageSize ≤ other % pageSize ∧
          other % pageSize < address % pageSize + data.length ↔
          address ≤ other ∧ other < address + data.length) ∧
          (address ≤ other → other % pageSize - address % pageSize = other - address) := by
        unfold pageSize at *
        omega
      by_cases covered : address ≤ other ∧ other < address + data.length
      · rw [if_pos covered, if_pos (offsets.1.2 covered), offsets.2 covered.1]
      · rw [if_neg covered, if_neg (mt offsets.1.1 covered)]
    · have page := mt (pageIndex_eq_iff aligned low inside).2 same
      have outside : ¬(address ≤ other ∧ other < address + data.length) := by
        unfold pageSize at *
        omega
      rw [if_neg same, if_neg outside]

theorem whole_writePiece (whole : region.Whole) {data : List UInt8}
    (short : address % pageSize + data.length ≤ pageSize) :
    (region.writePiece address data).Whole := by
  intro page inside
  obtain ⟨place, found⟩ := List.mem_iff_getElem?.1 inside
  rw [writePiece, List.getElem?_modify] at found
  obtain ⟨old, before, rfl⟩ := Option.map_eq_some_iff.1 found
  have held := whole old (List.mem_of_getElem? before)
  split
  · exact Page.whole_write held short
  · exact held

/-- A write replaces the bytes that it covers, and keeps the others. -/
theorem byte?_writePieces (whole : region.Whole) (aligned : pageSize ∣ region.base) {length : Nat}
    {data : List UInt8} (size : data.length = length) (low : region.base ≤ address)
    (inside : region.base ≤ other) :
    (region.writePieces (pieces address length) data).Whole ∧
    (region.writePieces (pieces address length) data).byte? other =
      if address ≤ other ∧ other < address + length then
        (region.byte? other).bind fun _ => data[other - address]?
      else region.byte? other := by
  induction address, length using pieces_induction generalizing region data with
  | nil address =>
    rw [pieces_zero, if_neg (by omega)]
    exact ⟨whole, rfl⟩
  | cons address count length short split ih =>
    have part : (data.take count).length = count := by
      rw [List.length_take]
      omega
    have fits : address % pageSize + (data.take count).length ≤ pageSize := part.symm ▸ short
    have first := byte?_writePiece whole aligned low inside fits
    have rest : (data.drop count).length = length := by
      rw [List.length_drop]
      omega
    obtain ⟨kept, later⟩ := ih (whole_writePiece whole fits) aligned rest
      (Nat.le_trans low (Nat.le_add_right _ _)) inside
    have parts : region.writePieces ((address, count) :: pieces (address + count) length) data =
        (region.writePiece address (data.take count)).writePieces (pieces (address + count) length)
          (data.drop count) := rfl
    rw [split, parts]
    refine ⟨kept, later.trans ?_⟩
    rw [first, part]
    by_cases here : address ≤ other ∧ other < address + count
    · rw [if_neg (by omega), if_pos here, if_pos (by omega), List.getElem?_take_of_lt (by omega)]
    · rw [if_neg here]
      by_cases behind : address + count ≤ other ∧ other < address + count + length
      · have place : count + (other - (address + count)) = other - address := by omega
        simp only [if_pos behind, List.getElem?_drop, place]
        rw [if_pos (by omega)]
      · rw [if_neg behind, if_neg (by omega)]

theorem getElem?_change (range : Nat × Nat) (update : Page → Page) (index : Nat) :
    (region.change range update).pages[index]? = region.pages[index]?.map fun page =>
      if range.1 ≤ index ∧ index < range.2 then update page else page := by
  simp [change]

theorem whole_change (whole : region.Whole) (range : Nat × Nat) {update : Page → Page}
    (keeps : ∀ page, page.Whole → (update page).Whole) : (region.change range update).Whole := by
  intro page inside
  obtain ⟨index, found⟩ := List.mem_iff_getElem?.1 inside
  rw [getElem?_change] at found
  obtain ⟨old, before, rfl⟩ := Option.map_eq_some_iff.1 found
  have held := whole old (List.mem_of_getElem? before)
  split
  · exact keeps old held
  · exact held

theorem carries_change {range : Nat × Nat} {update : Page → Page} {byte : UInt8}
    (carries : ∀ page : Page, ∀ offset, (update page).byte? offset = some byte →
      Carries (page.byte? offset) byte)
    (held : (region.change range update).byte? address = some byte) :
    Carries (region.byte? address) byte := by
  have index : (region.change range update).pageIndex address = region.pageIndex address := rfl
  rw [byte?, index, getElem?_change] at held
  rw [byte?]
  cases found : region.pages[region.pageIndex address]? with
  | none => simp [found] at held
  | some page =>
    rw [found, Option.map_some, Option.bind_some] at held
    split at held
    · exact carries page _ held
    · exact .inl held

theorem byte?_reserve (base size address : Nat) (protection : Protection) :
    (reserve base size protection).byte? address = none := by
  have fresh : ∀ page ∈ (reserve base size protection).pages, page.bytes = none := by
    intro page inside
    rw [List.eq_of_mem_replicate inside]
  rw [byte?]
  cases found : (reserve base size protection).pages[pageIndex _ address]? with
  | none => rfl
  | some page => simp [Page.byte?, fresh page (List.mem_of_getElem? found)]

theorem whole_reserve (base size : Nat) (protection : Protection) :
    (reserve base size protection).Whole := by
  intro page inside bytes held
  rw [List.eq_of_mem_replicate inside] at held
  cases held

theorem change_of_protect {range : Nat × Nat} {protection previous : Protection}
    {changed : Region} (made : region.protect range protection = .ok (previous, changed)) :
    changed = region.change range (Page.protect protection) := by
  unfold protect at made
  split at made
  · cases made
  · split at made
    · cases made
      rfl
    · cases made

end

end Region

namespace Space

/-- The byte at an address, if it lies in a committed page of a reservation. -/
def byte? (space : Space) (address : Nat) : Option UInt8 :=
  (space.regionAt? address).bind fun region => region.byte? address

def Whole (space : Space) : Prop := ∀ region ∈ space.regions, region.Whole

variable {space : Space}

theorem Whole.insert (whole : space.Whole) {changed : Region} (kept : changed.Whole) :
    (space.insert changed).Whole := by
  intro region inside
  rcases mem_insert.1 inside with rfl | ⟨old, _⟩
  · exact kept
  · exact whole region old

/-- A change of one reservation carries over the bytes of all. -/
theorem carries_replace (laid : space.Laid) {region changed : Region} {address : Nat} {byte : UInt8}
    (inside : region ∈ space.regions) (base : changed.base = region.base)
    (length : changed.pages.length = region.pages.length)
    (carries : changed.byte? address = some byte → Carries (region.byte? address) byte)
    (word : address ≤ Word.top) (held : (space.insert changed).byte? address = some byte) :
    Carries (space.byte? address) byte := by
  have limit := Region.limit_eq base length
  rw [byte?, laid.regionAt?_insert (laid.replace inside base length) _ word] at held
  · split at held
    · next holds =>
      have before : region.contains address = true := by
        rwa [Region.contains_iff, base, limit, ← Region.contains_iff] at holds
      rw [byte?, (laid.regionAt?_eq_some_iff word).2 ⟨inside, before⟩]
      exact carries held
    · exact .inl held
  · intro other there same _
    rw [limit, laid.eq_of_base there inside (same.trans base)]

theorem carries_place (laid : space.Laid) {after : Space} {wanted : Option Nat} {size : Nat}
    {region : Region} {address : Nat} {byte : UInt8}
    (placed : space.place wanted size = .ok (region.base, after))
    (filled : 0 < region.pages.length) (whole : region.size = size)
    (blank : region.byte? address = some byte → byte = 0) (word : address ≤ Word.top)
    (held : (after.insert region).byte? address = some byte) :
    Carries (space.byte? address) byte := by
  have same := (laid.clear_of_place placed).2.1
  have before : after.regionAt? address = space.regionAt? address := by
    simp only [regionAt?, below?, same]
  rw [byte?, (laid.of_place placed).regionAt?_insert (laid.insert_placed placed filled whole) _
    word, before] at held
  · split at held
    · next holds =>
      obtain ⟨low, high, _⟩ := Region.contains_iff.1 holds
      rw [Region.limit, whole] at high
      rw [byte?, laid.regionAt?_eq_none_of_place placed word low high]
      exact .inr ⟨rfl, blank held⟩
    · exact .inl held
  · intro other there base low
    -- Nothing began where the new reservation begins.
    have gap := ((laid.clear_of_place placed).2.2.2 other (same ▸ there)).above low
      (Nat.le_of_eq base.symm)
    have positive := Nat.mul_pos filled (show 0 < pageSize by decide)
    simp only [Region.size] at whole
    omega

theorem byte?_remove (laid : space.Laid) (base : Nat) {address : Nat} {byte : UInt8}
    (word : address ≤ Word.top) (held : (space.remove base).byte? address = some byte) :
    space.byte? address = some byte := by
  obtain ⟨region, found, there⟩ := Option.bind_eq_some_iff.1 held
  rw [byte?, laid.regionAt?_remove base word found]
  exact there

theorem change_of_protect {after : Space} {address length : Nat}
    {protection previous : Protection}
    (made : space.protect address length protection = .ok (previous, after)) :
    ∃ region ∈ space.regions, ∃ range,
      after = space.insert (region.change range (Page.protect protection)) := by
  unfold protect at made
  split at made
  · cases made
  · next region found =>
    split at made
    · cases made
    · next range _ =>
      split at made
      · cases made
      · next done =>
        cases made
        exact ⟨region, mem_of_region found, range, Region.change_of_protect done ▸ rfl⟩

theorem byte?_of_read (laid : space.Laid) (whole : space.Whole) {address length : Nat}
    {bytes : List UInt8} (done : space.read address length = .ok bytes) :
    bytes.length = length ∧ ∀ index < length, address + index ≤ Word.top →
      space.byte? (address + index) = bytes[index]? := by
  unfold read at done
  split at done
  · cases done
  · next region found =>
    obtain ⟨inside, _⟩ := mem_of_regionAt? (regionAt?_of_region found)
    have aligned := pageSize_dvd_of_granularity (laid.aligned region inside)
    obtain ⟨size, same⟩ := Region.byte?_of_readPieces (whole region inside) aligned done
    refine ⟨size, fun index within word => ?_⟩
    obtain ⟨holds, held⟩ := same index within
    -- All of the read is in one reservation, which is the one at each of its addresses.
    rw [byte?, (laid.regionAt?_eq_some_iff word).2 ⟨inside, holds⟩]
    exact held

/-- A write keeps pages whole and replaces the bytes that it covers. -/
theorem byte?_of_write (laid : space.Laid) (whole : space.Whole) {after : Space} {address : Nat}
    {data : List UInt8} (done : space.write address data = .ok after) :
    after.Whole ∧ ∀ other ≤ Word.top, after.byte? other =
      if address ≤ other ∧ other < address + data.length then
        (space.byte? other).bind fun _ => data[other - address]?
      else space.byte? other := by
  unfold write at done
  split at done
  · cases done
  · next region found =>
    split at done
    · cases done
    · next changed made =>
      cases done
      obtain ⟨inside, start⟩ := mem_of_regionAt? (regionAt?_of_region found)
      have low := (Region.contains_iff.1 start).1
      have aligned := pageSize_dvd_of_granularity (laid.aligned region inside)
      have alike := Region.alike_of_write made
      simp only [Region.write] at made
      split at made
      · cases made
      · next checked =>
        cases made
        have bytes := fun other => @Region.byte?_writePieces region address other
          (whole region inside) aligned data.length data rfl low
        refine ⟨whole.insert (bytes address low).1, fun other word => ?_⟩
        have limit := Region.limit_eq alike.base alike.length
        rw [byte?, laid.regionAt?_insert (laid.replace inside alike.base alike.length) _ word]
        · split
          · next holds =>
            rw [Region.contains_iff, alike.base, limit, ← Region.contains_iff] at holds
            rw [byte?, (laid.regionAt?_eq_some_iff word).2 ⟨inside, holds⟩]
            exact (bytes other (Region.contains_iff.1 holds).1).2
          · next outside =>
            -- What was written lies in the reservation, and so not here.
            rw [Region.contains_iff, alike.base, limit, ← Region.contains_iff] at outside
            rw [if_neg, byte?]
            rintro ⟨after, before⟩
            exact outside (Region.contains_of_checkWrite aligned checked after before)
        · intro other there same _
          rw [limit, laid.eq_of_base there inside (same.trans alike.base)]

/-- An address is said to be committed where a byte is held. -/
theorem query_state_eq_committed_iff (whole : space.Whole) {address : Nat} :
    (space.query address).state = .committed ↔ (space.byte? address).isSome = true := by
  unfold query byte?
  cases found : space.regionAt? address with
  | none => simp
  | some region =>
    have inside := (mem_of_regionAt? found).1
    simp only [Option.bind_some, Region.query, Region.byte?]
    cases located : region.pages[region.pageIndex address]? with
    | none => simp
    | some page =>
      have short : address % pageSize < pageSize := Nat.mod_lt _ (by decide)
      cases held : page.bytes with
      | none => simp [Page.isCommitted, Page.byte?, held]
      | some bytes =>
        have long := whole region inside page (List.mem_of_getElem? located) bytes held
        simp [Page.isCommitted, Page.byte?, held, long, short]

end Space

end Steward.Memory
