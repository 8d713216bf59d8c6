import Mathlib.Algebra.Order.BigOperators.Group.List
import Mathlib.Algebra.Order.Group.Nat
import Steward.Proofs.Host.Tidy
import Steward.Proofs.Memory.Committed

/-! What a domain is billed for: the blocks and the committed pages that were charged to it and that
its counter was not reset for since. A bill is kept beside the run and goes by pieces, while the
ledger knows one charge for all pages of a reservation. -/

set_option autoImplicit false

namespace Steward.Host

open Memory

/-- What is charged as one: a block, or a page of the reservation at a base. -/
inductive Piece where
  | block (serial : Nat)
  | page (base index : Nat)
  deriving DecidableEq

def Piece.site : Piece → Domain.Site
  | block serial => .block serial
  | page base _ => .address base

/-- A block was not given back, or a page is committed. -/
def holds (host : Host) : Piece → Bool
  | .block serial => host.blocks.contains serial
  | .page base index => host.space.commits base index

/-- Whether a domain is billed for a piece behind an act. A piece that is new is charged to the
domain or not; for one that was there, the domain is billed as before, until it ends or its counter
is reset. -/
def billedBehind (registry : Domain.Registry) (domain : DomainId) (act : Act) (site : Domain.Site)
    (was is before : Bool) : Bool :=
  is && if was then before && !act.forgets domain && registry.domains.contains domain
    else registry.payer? site = some domain

/-- The bill of a domain behind an act. -/
def rebill (host : Host) (domain : DomainId) (act : Act) (bill : Piece → Bool) (piece : Piece) :
    Bool :=
  billedBehind (host.perform act).registry domain act piece.site (host.holds piece)
    ((host.perform act).holds piece) (bill piece)

/-- The bill of a domain behind the first acts of a run. -/
def billAt (start : Host) (acts : List Act) (domain : DomainId) : Nat → Piece → Bool
  | 0 => fun _ => false
  | count + 1 =>
      match acts[count]? with
      | some act =>
          (start.run (acts.take count)).rebill domain act (billAt start acts domain count)
      | none => billAt start acts domain count

/-- How many pages of a reservation are billed. -/
def billedPages (bill : Piece → Bool) (region : Region) : Nat :=
  (List.range region.pages.length).countP fun index => bill (.page region.base index)

/-- The bytes of everything that is billed. -/
def billedBytes (host : Host) (bill : Piece → Bool) : Nat :=
  (host.space.regions.map fun region => billedPages bill region * pageSize).sum +
    (host.blocks.filter fun serial _ => bill (.block serial)).total Block.size

/-- Pages that a domain is not billed for are given up, in a reservation where it is billed for
pages that stay. -/
inductive Mixes (host : Host) (bill : Piece → Bool) : Act → Prop where
  | decommit {address size : Nat} {region : Region} {range : Nat × Nat} {loose stays : Nat}
      (found : host.space.region address = .ok region)
      (within : region.pageRange address size = .ok range)
      (inside : covers range loose = true) (committed : region.commits loose = true)
      (unbilled : bill (.page region.base loose) = false)
      (outside : covers range stays = false)
      (billed : bill (.page region.base stays) = true) :
      Mixes host bill (.virtualFree address size .decommit)

/-- A domain owes for every reservation and every block what it is billed for there. -/
structure Settled (host : Host) (domain : DomainId) (bill : Piece → Bool) : Prop where
  held : ∀ piece, bill piece = true → host.holds piece = true
  live : ∀ piece, bill piece = true → host.registry.domains.contains domain = true
  pages : ∀ region ∈ host.space.regions,
    host.registry.dues domain (.address region.base) = billedPages bill region * pageSize
  blocks : ∀ serial block, host.blocks.get? serial = some block →
    host.registry.dues domain (.block serial) = if bill (.block serial) then block.size else 0

/-- How many pages of a reservation are billed behind an act that leaves the register and the
address space as given. -/
def pagesBehind (host : Host) (registry : Domain.Registry) (space : Space) (domain : DomainId)
    (act : Act) (bill : Piece → Bool) (region : Region) : Nat :=
  (List.range region.pages.length).countP fun index =>
    billedBehind registry domain act (.address region.base)
      (host.space.commits region.base index) (space.commits region.base index)
      (bill (.page region.base index))

theorem countP_split (length : Nat) (part test : Nat → Bool) :
    (List.range length).countP test =
      (List.range length).countP (fun index => part index && test index) +
        (List.range length).countP fun index => !part index && test index := by
  rw [List.countP_eq_countP_filter_add _ test part, List.countP_filter, List.countP_filter]
  simp [Bool.and_comm]

section
variable {host : Host} {act : Act} {domain : DomainId} {bill : Piece → Bool}
  {registry : Domain.Registry} {space : Space} {serial : Nat}

theorem billedBehind_of_same (kept : act.forgets domain = false)
    (live : registry.domains.contains domain = true) {was before : Bool} (site : Domain.Site)
    (held : before = true → was = true) :
    billedBehind registry domain act site was was before = before := by
  cases before with
  | false => cases was <;> simp [billedBehind]
  | true => simp [billedBehind, held rfl, kept, live]

theorem dues_chargedAt (thread : ThreadId) (bytes base : Nat) (site : Domain.Site) :
    (host.chargedAt thread bytes base).dues domain site = host.registry.dues domain site +
      if site = .address base ∧
        (host.chargedAt thread bytes base).payer? (.address base) = some domain then bytes
      else 0 := by
  unfold chargedAt
  split
  · next empty => simp [empty]
  · exact Domain.Registry.dues_charge thread bytes _ site

theorem dues_chargedAt_of_ne (thread : ThreadId) (bytes : Nat) {base : Nat} (other : Nat)
    (apart : other ≠ base) :
    (host.chargedAt thread bytes base).dues domain (.address other) =
      host.registry.dues domain (.address other) := by
  rw [dues_chargedAt, if_neg fun here => apart (Domain.Site.address.inj here.1), Nat.add_zero]

theorem dues_givenUp_of_ne (bytes : Nat) {base other : Nat} (apart : other ≠ base) :
    (if bytes = 0 then host.registry
      else (host.registry.releasePartial (.address base) bytes).2).dues domain (.address other) =
      host.registry.dues domain (.address other) := by
  split
  · rfl
  · rw [Domain.Registry.dues_releasePartial,
      if_neg fun here => apart (Domain.Site.address.inj here)]

namespace Settled

theorem of_nothing (dues : ∀ site, host.registry.dues domain site = 0)
    (unbilled : ∀ piece, bill piece = false) : host.Settled domain bill := by
  have never : ∀ piece, bill piece ≠ true := fun piece => Bool.eq_false_iff.1 (unbilled piece)
  refine ⟨fun piece billed => absurd billed (never piece),
    fun piece billed => absurd billed (never piece), fun region _ => ?_, fun serial block _ => ?_⟩
  · simp [dues, billedPages, unbilled]
  · simp [dues, unbilled]

/-- Pages that are billed are committed. -/
theorem commits (settled : host.Settled domain bill) (ordered : host.space.Ordered)
    {region : Region} (present : region ∈ host.space.regions) {index : Nat}
    (billed : bill (.page region.base index) = true) : region.commits index = true :=
  (ordered.commits present index).symm.trans (settled.held (.page region.base index) billed)

/-- Where nothing is committed or given up, a domain owes as before. -/
theorem keeps (settled : host.Settled domain bill) (kept : act.forgets domain = false)
    (live : registry.domains.contains domain = true) {region : Region}
    (inside : region ∈ host.space.regions)
    (same : ∀ index, space.commits region.base index = host.space.commits region.base index)
    (dues : registry.dues domain (.address region.base) =
      host.registry.dues domain (.address region.base)) :
    registry.dues domain (.address region.base) =
      host.pagesBehind registry space domain act bill region * pageSize := by
  rw [dues, settled.pages region inside]
  congr 1
  refine List.countP_congr fun index _ => ?_
  have held : bill (.page region.base index) = true →
    host.space.commits region.base index = true := settled.held (.page region.base index)
  rw [same index, billedBehind_of_same kept live _ held]

/-- A reservation is put in, or put in place of another; only there anything changes. -/
theorem insert (settled : host.Settled domain bill) (kept : act.forgets domain = false)
    (live : registry.domains.contains domain = true) {changed : Region}
    (regions : space.regions = host.space.regions) {region : Region}
    (inside : region ∈ (space.insert changed).regions)
    (others : ∀ base, base ≠ changed.base →
      registry.dues domain (.address base) = host.registry.dues domain (.address base)) :
    region = changed ∨ registry.dues domain (.address region.base) =
      host.pagesBehind registry (space.insert changed) domain act bill region * pageSize := by
  obtain same | ⟨there, apart⟩ := Space.mem_insert.1 inside
  · exact .inl same
  · refine .inr (settled.keeps kept live (regions ▸ there) (fun index => ?_)
      (others region.base apart))
    rw [Space.commits_insert, if_neg apart, Space.commits_of_regions regions]

/-- Pages that are committed are billed to whom the charge at their base belongs to. -/
theorem commit (settled : host.Settled domain bill) (kept : act.forgets domain = false)
    {region : Region} (was : ∀ index, host.space.commits region.base index = region.commits index)
    (before : host.registry.dues domain (.address region.base) =
      billedPages bill region * pageSize)
    (thread : ThreadId) (range : Nat × Nat) (protection : Protection)
    (live : (host.chargedAt thread (region.commit range protection).1
      region.base).domains.contains domain = true) :
    (host.chargedAt thread (region.commit range protection).1 region.base).dues domain
        (.address region.base) =
      host.pagesBehind (host.chargedAt thread (region.commit range protection).1 region.base)
        (space.insert (region.commit range protection).2) domain act bill
        (region.commit range protection).2 * pageSize := by
  have held : ∀ index, bill (.page region.base index) = true → region.commits index = true :=
    fun index billed => (was index).symm.trans (settled.held (.page region.base index) billed)
  rw [dues_chargedAt, before]
  generalize host.chargedAt thread (region.commit range protection).1 region.base = after at *
  simp only [true_and, pagesBehind, Region.length_commit, Region.base_commit, was,
    Space.commits_insert, if_true, Region.commits_commit]
  rw [countP_split _ region.commits]
  have old : ∀ index, (region.commits index && billedBehind after domain act
      (.address region.base) (region.commits index) (region.commits index ||
        (covers range index && decide (index < region.pages.length)))
      (bill (.page region.base index))) = bill (.page region.base index) := by
    intro index
    have mine := held index
    cases committed : region.commits index with
    | true => simp [billedBehind, kept, live]
    | false =>
      rw [committed] at mine
      exact (Bool.eq_false_iff.2 fun billed => Bool.false_ne_true (mine billed)).symm
  simp only [old, Nat.add_mul]
  congr 1
  -- What is new is all of one domain.
  split
  · next payer =>
    rw [Region.commit, Region.uncommittedBytes_eq]
    refine congrArg (· * pageSize) (List.countP_congr fun index inside => ?_)
    have there := List.mem_range.1 inside
    cases committed : region.commits index with
    | true => simp
    | false => simp [billedBehind, payer, there]
  · next payer =>
    rw [eq_comm, Nat.mul_eq_zero]
    refine .inl (List.countP_eq_zero.2 fun index _ => ?_)
    cases committed : region.commits index with
    | true => simp
    | false => simp [billedBehind, payer]

/-- Pages of a range that are given up though they are not billed. -/
def loosePages (bill : Piece → Bool) (region : Region) (range : Nat × Nat) : Nat :=
  (List.range region.pages.length).countP fun index =>
    covers range index &&
      (region.commits index && !bill (.page region.base index))

theorem pagesBehind_decommit (settled : host.Settled domain bill) (ordered : host.space.Ordered)
    (kept : act.forgets domain = false) (live : registry.domains.contains domain = true)
    {region : Region} (present : region ∈ host.space.regions) (range : Nat × Nat) :
    host.pagesBehind registry (host.space.insert (region.decommit range).2) domain act bill
        (region.decommit range).2 =
      (List.range region.pages.length).countP fun index =>
        !covers range index && bill (.page region.base index) := by
  rw [pagesBehind, Region.length_decommit]
  refine List.countP_congr fun index _ => ?_
  simp only [Region.base_decommit, Space.commits_insert, if_true, Region.commits_decommit,
    ordered.commits present]
  cases billed : bill (.page region.base index) with
  | true => simp [billedBehind, settled.commits ordered present billed, kept, live]
  | false => cases committed : region.commits index <;> simp [billedBehind]

/-- What is given up and not billed is taken off what stays billed. -/
theorem decommit (settled : host.Settled domain bill) (ordered : host.space.Ordered)
    (kept : act.forgets domain = false) {region : Region} (present : region ∈ host.space.regions)
    (range : Nat × Nat)
    (result : registry = if (region.decommit range).1 = 0 then host.registry
      else (host.registry.releasePartial (.address region.base) (region.decommit range).1).2)
    (live : registry.domains.contains domain = true) :
    registry.dues domain (.address region.base) =
      (host.pagesBehind registry (host.space.insert (region.decommit range).2) domain act bill
        (region.decommit range).2 - loosePages bill region range) * pageSize := by
  have less : registry.dues domain (.address region.base) =
      billedPages bill region * pageSize - (region.decommit range).1 := by
    rw [← settled.pages region present, result]
    split
    · next nothing => rw [nothing, Nat.sub_zero]
    · rw [Domain.Registry.dues_releasePartial, if_pos rfl]
  rw [less, Region.decommit_fst, ← Nat.sub_mul,
    settled.pagesBehind_decommit ordered kept live present]
  refine congrArg (· * pageSize) ?_
  -- The billed pages of the range are among those that were billed and those that are given up.
  have before := countP_split region.pages.length
    (fun index => covers range index)
    fun index => bill (.page region.base index)
  have given := countP_split region.pages.length (fun index => bill (.page region.base index))
    fun index => covers range index && region.commits index
  have both : ∀ index, (bill (.page region.base index) &&
      (covers range index && region.commits index)) =
      (covers range index && bill (.page region.base index)) := by
    intro index
    cases billed : bill (.page region.base index) with
    | true => simp [settled.commits ordered present billed]
    | false => simp
  have loose : ∀ index, (!bill (.page region.base index) &&
      (covers range index && region.commits index)) =
      (covers range index &&
        (region.commits index && !bill (.page region.base index))) := by
    intro index
    cases bill (.page region.base index) <;> simp
  simp only [both, loose] at given
  rw [billedPages, before, given, loosePages, Nat.add_sub_add_left]

/-- Only the contents of pages change. -/
theorem alike (settled : host.Settled domain bill) (ordered : host.space.Ordered)
    (kept : act.forgets domain = false) (live : host.registry.domains.contains domain = true)
    {old changed : Region} (present : old ∈ host.space.regions) (alike : old.Alike changed)
    {region : Region} (inside : region ∈ (host.space.insert changed).regions) :
    host.registry.dues domain (.address region.base) =
      host.pagesBehind host.registry (host.space.insert changed) domain act bill region *
        pageSize := by
  obtain rfl | same := settled.insert kept live rfl inside fun _ _ => rfl
  · have same : host.pagesBehind host.registry (host.space.insert region) domain act bill region =
        host.pagesBehind host.registry (host.space.insert region) domain act bill old := by
      simp only [pagesBehind, alike.length, alike.base]
    rw [same, alike.base]
    refine settled.keeps kept live present (fun index => ?_) rfl
    rw [Space.commits_insert, if_pos alike.base.symm, alike.commits, ordered.commits present]
  · exact same

/-- Where a reservation is new, nothing was committed, charged or billed. -/
theorem place (settled : host.Settled domain bill) (tidy : host.Tidy) {wanted : Option Nat}
    {size base : Nat} {other : Space} (asked : size ≠ 0)
    (word : wanted.all (· ≤ Word.top) = true)
    (placed : host.space.place wanted (pageCeil size) = .ok (base, other)) :
    (∀ index, host.space.commits base index = false) ∧
      host.registry.dues domain (.address base) = 0 ∧
      ∀ index, bill (.page base index) = false := by
  obtain ⟨new, _⟩ := place_new tidy.vacant.ordered asked word placed
  refine ⟨Space.commits_of_new new,
    Domain.Registry.dues_of_absent (tidy.vacant.nothing base id new),
    fun index => Bool.eq_false_iff.2 fun billed => ?_⟩
  have held := settled.held (.page base index) billed
  rw [holds, Space.commits_of_new new] at held
  cases held

theorem mixes_or (settled : host.Settled domain bill) (ordered : host.space.Ordered)
    (kept : act.forgets domain = false) (live : registry.domains.contains domain = true)
    {address size : Nat} {region : Region} {range : Nat × Nat}
    (found : host.space.region address = .ok region)
    (within : region.pageRange address size = .ok range) :
    loosePages bill region range = 0 ∨
      host.pagesBehind registry (host.space.insert (region.decommit range).2) domain act bill
        (region.decommit range).2 = 0 ∨
      host.Mixes bill (.virtualFree address size .decommit) := by
  rw [settled.pagesBehind_decommit ordered kept live (Space.mem_of_region found)]
  refine or_iff_not_imp_left.2 fun some => or_iff_not_imp_left.2 fun left => ?_
  obtain ⟨loose, _, given⟩ := List.countP_pos_iff.1 (Nat.pos_of_ne_zero some)
  obtain ⟨stays, _, billed⟩ := List.countP_pos_iff.1 (Nat.pos_of_ne_zero left)
  simp only [Bool.and_eq_true, Bool.not_eq_true'] at given billed
  exact .decommit found within given.1 given.2.1 given.2.2 billed.1 billed.2

/-- Behind an act that does not mix, a domain owes for reservations what it is billed for there. -/
theorem pages_shift (settled : host.Settled domain bill)
    (step : Shift host act registry space serial) (tidy : host.Tidy) (word : act.inRange = true)
    (aloof : act.isAloof = true) (honest : ¬host.Mixes bill act)
    (kept : act.forgets domain = false) (live : registry.domains.contains domain = true)
    {region : Region} (inside : region ∈ space.regions) :
    registry.dues domain (.address region.base) =
      host.pagesBehind registry space domain act bill region * pageSize := by
  cases step with
  | refused act events => exact settled.keeps kept live inside (fun _ => rfl) rfl
  | onDomains operation =>
    refine settled.keeps kept live inside (fun _ => rfl)
      ((host.registry.turn_perform operation).dues (fun named => ?_) ?_ live)
    · simp [Act.isAloof, named] at aloof
    · rintro rfl
      simp [Act.forgets] at kept
  | heapCreated flags => exact settled.keeps kept live inside (fun _ => rfl) rfl
  | blockTaken granted =>
    refine settled.keeps kept live inside (fun _ => rfl) ?_
    simp [Domain.Registry.dues_charge]
  | blockGiven serial =>
    refine settled.keeps kept live inside (fun _ => rfl) ?_
    simp [Domain.Registry.dues_release]
  | @reserved _ _ size base _ protection _ placed asked found reserves =>
    obtain ⟨_, regions⟩ := place_new tidy.vacant.ordered asked word found
    obtain ⟨_, nothing, _⟩ := settled.place tidy asked word found
    obtain rfl | same := settled.insert kept live regions inside fun _ _ => rfl
    · rw [Region.base_reserve, nothing, eq_comm, Nat.mul_eq_zero]
      refine .inl (List.countP_eq_zero.2 fun index _ => ?_)
      simp [billedBehind, Space.commits_insert, Region.commits_reserve]
    · exact same
  | @committedAnew thread wanted size base kind protection level placed region range asked found
      new commits granted within =>
    subst new
    obtain ⟨_, regions⟩ := place_new tidy.vacant.ordered asked word found
    obtain ⟨blank, nothing, unbilled⟩ := settled.place tidy asked word found
    obtain rfl | same := settled.insert kept live regions inside (dues_chargedAt_of_ne _ _)
    · refine settled.commit kept (fun index => ?_) ?_ thread range protection live
      · rw [Region.base_reserve, blank, Region.commits_reserve]
      · rw [Region.base_reserve, nothing, eq_comm, Nat.mul_eq_zero]
        exact .inl (List.countP_eq_zero.2 fun index _ => by simp [unbilled])
    · exact same
  | @committedInPlace thread address size kind protection level target range asked found commits
      within granted =>
    have present := (Space.mem_of_regionAt? found).1
    obtain rfl | same := settled.insert kept live rfl inside (dues_chargedAt_of_ne _ _)
    · exact settled.commit kept (tidy.vacant.ordered.commits present)
        (settled.pages target present) thread range protection live
    · exact same
  | @decommitted address size target range found within =>
    have ordered := tidy.vacant.ordered
    obtain rfl | same := settled.insert kept live rfl inside fun _ => dues_givenUp_of_ne _
    · have less := settled.decommit ordered kept (Space.mem_of_region found) range rfl live
      refine less.trans (congrArg (· * pageSize) ?_)
      obtain none | none | mixes := settled.mixes_or ordered kept live found within
      · rw [none, Nat.sub_zero]
      · rw [none, Nat.zero_sub]
      · exact absurd mixes honest
    · exact same
  | @released address present =>
    obtain ⟨there, apart⟩ := Space.mem_remove.1 inside
    refine settled.keeps kept live there (fun index => ?_) ?_
    · simp [Space.commits_remove, apart]
    · simp [Domain.Registry.dues_release, apart]
  | reprotected made =>
    obtain ⟨old, changed, there, same, rfl⟩ := Space.insert_of_protect made
    exact settled.alike tidy.vacant.ordered kept live there same inside
  | written made =>
    obtain ⟨old, changed, there, same, rfl⟩ := Space.insert_of_write made
    exact settled.alike tidy.vacant.ordered kept live there same inside
  | mapped | unmapped => cases aloof

/-- Behind an act, a domain owes for a block what it is billed for it. -/
theorem blocks_shelving (settled : host.Settled domain bill) {blocks : Assoc Nat Block}
    (step : Shelving host act registry serial blocks) (tidy : host.Tidy)
    (aloof : act.isAloof = true) (kept : act.forgets domain = false)
    (live : registry.domains.contains domain = true) {other : Nat} {block : Block}
    (found : blocks.get? other = some block) :
    registry.dues domain (.block other) =
      if billedBehind registry domain act (.block other) (host.blocks.contains other)
        (blocks.contains other) (bill (.block other)) then block.size else 0 := by
  have held : bill (.block other) = true → host.blocks.contains other = true :=
    settled.held (.block other)
  cases step with
  | refused act events =>
    rw [billedBehind_of_same kept live _ held]
    exact settled.blocks other block found
  | elsewhere step plain =>
    obtain ⟨operation, turn, away, resets⟩ :=
      turn_elsewhere step plain (Act.namesBlock_of_isAloof aloof)
    have same := turn.dues (away other) (fun reset => by simp [resets domain reset] at kept) live
    rw [billedBehind_of_same kept live _ held, same]
    exact settled.blocks other block found
  | taken thread heap size level =>
    rw [Assoc.get?_insert] at found
    split at found
    · next new =>
      cases found
      have unused := tidy.unused host.nextSerial (Nat.le_refl _)
      have nothing : host.registry.dues domain (.block host.nextSerial) = 0 :=
        Domain.Registry.dues_of_absent (tidy.shelved _ unused)
      rw [new, Domain.Registry.dues_charge, nothing]
      simp [billedBehind, Assoc.contains, unused]
    · next old =>
      have present : (host.blocks.insert host.nextSerial ⟨heap, size, []⟩).contains other =
          host.blocks.contains other := by simp [Assoc.contains_insert, old]
      rw [present, billedBehind_of_same kept live _ held, Domain.Registry.dues_charge,
        if_neg fun here => old (Domain.Site.block.inj here.1), Nat.add_zero]
      exact settled.blocks other block found
  | @given gone _ _ =>
    rw [Assoc.get?_erase] at found
    split at found
    · cases found
    · next apart =>
      have present : (host.blocks.erase gone).contains other = host.blocks.contains other := by
        simp [Assoc.contains, apart]
      rw [present, billedBehind_of_same kept live _ held, Domain.Registry.dues_release,
        if_neg fun here => apart (Domain.Site.block.inj here)]
      exact settled.blocks other block found

theorem holds_onDomains (operation : Domain.Operation) (piece : Piece) :
    (host.perform (.onDomains operation)).holds piece = host.holds piece := by
  cases piece with
  | block serial => rw [holds, holds, Host.perform, adopt_blocks]
  | page base index => rw [holds, holds, Host.perform, adopt_space]

/-- A domain that is gone or was just reset owes nothing and is billed for nothing. -/
theorem cleared (balanced : host.registry.Balanced)
    (after : (host.perform act).registry.Balanced)
    (ended : (host.perform act).registry.domains.contains domain = false ∨
      act.forgets domain = true) :
    (∀ site, (host.perform act).registry.dues domain site = 0) ∧
      ∀ piece, host.rebill domain act bill piece = false := by
  obtain gone | reset := ended
  · refine ⟨fun site => Domain.Registry.dues_of_gone after gone, fun piece => ?_⟩
    have payer := fun site => @Domain.Registry.payer?_ne_of_gone _ domain site after gone
    cases was : host.holds piece with
    | true => simp [rebill, billedBehind, was, gone]
    | false => simp [rebill, billedBehind, was, payer]
  · cases act with
    | onDomains operation =>
      cases operation with
      | resetCounters home =>
        obtain rfl : home = domain := of_decide_eq_true reset
        refine ⟨fun site => ?_, fun piece => ?_⟩
        · rw [Host.perform, adopt_registry]
          exact Domain.Registry.dues_resetCounters balanced
        · rw [rebill, holds_onDomains]
          cases host.holds piece with
          | true => simp [billedBehind, reset]
          | false => rfl
      | _ => cases reset
    | _ => cases reset

/-- Every act that does not mix leaves a domain to owe what it is billed for. -/
theorem perform (settled : host.Settled domain bill) (tidy : host.Tidy)
    (word : act.inRange = true) (aloof : act.isAloof = true) (honest : ¬host.Mixes bill act) :
    (host.perform act).Settled domain (host.rebill domain act bill) := by
  have after := tidy.perform word aloof
  by_cases ended : (host.perform act).registry.domains.contains domain = false ∨
      act.forgets domain = true
  · have clear : (∀ site, (host.perform act).registry.dues domain site = 0) ∧
        ∀ piece, host.rebill domain act bill piece = false :=
      cleared tidy.balanced after.balanced ended
    exact .of_nothing clear.1 clear.2
  · rw [not_or, Bool.not_eq_false, Bool.not_eq_true] at ended
    obtain ⟨live, kept⟩ := ended
    refine ⟨fun piece billed => ?_, fun _ _ => live, fun region inside => ?_,
      fun serial block found => ?_⟩
    · exact (Bool.and_eq_true_iff.1 billed).1
    · exact settled.pages_shift (shift_perform host act) tidy word aloof honest kept live inside
    · exact settled.blocks_shelving (shelving_perform host act) tidy aloof kept live found

/-- Where billed pages stay and others that are not billed are given up, less is owed than stays
billed. -/
theorem decommit_lt (settled : host.Settled domain bill) (ordered : host.space.Ordered)
    (kept : act.forgets domain = false) {region : Region} (present : region ∈ host.space.regions)
    {range : Nat × Nat}
    (result : registry = if (region.decommit range).1 = 0 then host.registry
      else (host.registry.releasePartial (.address region.base) (region.decommit range).1).2)
    (live : registry.domains.contains domain = true) {loose stays : Nat}
    (inside : covers range loose = true) (committed : region.commits loose = true)
    (unbilled : bill (.page region.base loose) = false) (outside : covers range stays = false)
    (billed : bill (.page region.base stays) = true) :
    registry.dues domain (.address region.base) <
      host.pagesBehind registry (host.space.insert (region.decommit range).2) domain act bill
        (region.decommit range).2 * pageSize := by
  have some : 0 < loosePages bill region range := by
    refine List.countP_pos_iff.2 ⟨loose, List.mem_range.2 (Region.lt_of_commits committed), ?_⟩
    simp [inside, committed, unbilled]
  have left : 0 < host.pagesBehind registry (host.space.insert (region.decommit range).2) domain
      act bill (region.decommit range).2 := by
    have held := settled.commits ordered present billed
    rw [settled.pagesBehind_decommit ordered kept live present]
    refine List.countP_pos_iff.2 ⟨stays, List.mem_range.2 (Region.lt_of_commits held), ?_⟩
    simp [outside, billed]
  rw [settled.decommit ordered kept present range result live]
  exact Nat.mul_lt_mul_of_pos_right (Nat.sub_lt left some) (by decide)

theorem sum_blocks (blocks : ∀ serial block, host.blocks.get? serial = some block →
      host.registry.dues domain (.block serial) = if bill (.block serial) then block.size else 0) :
    (host.blocks.entries.map fun entry => host.registry.dues domain (.block entry.1)).sum =
      (host.blocks.filter fun serial _ => bill (.block serial)).total Block.size := by
  rw [Assoc.total_filter]
  refine congrArg List.sum (List.map_congr_left fun entry inside => ?_)
  exact blocks entry.1 entry.2 (Assoc.get?_of_mem inside)

/-- The counter of a domain is the bytes that it is billed for. -/
theorem exact (settled : host.Settled domain bill) (tidy : host.Tidy) {used : Nat}
    (counter : host.registry.bytes? domain = some used) : used = host.billedBytes bill := by
  rw [tidy.eq_sum_dues counter, billedBytes, sum_blocks settled.blocks]
  congr 2
  exact List.map_congr_left settled.pages

end Settled

theorem Tidy.lt_billedBytes (tidy : host.Tidy) {used : Nat}
    (counter : host.registry.bytes? domain = some used)
    (pages : ∀ region ∈ host.space.regions,
      host.registry.dues domain (.address region.base) ≤ billedPages bill region * pageSize)
    (short : ∃ region ∈ host.space.regions,
      host.registry.dues domain (.address region.base) < billedPages bill region * pageSize)
    (blocks : ∀ serial block, host.blocks.get? serial = some block →
      host.registry.dues domain (.block serial) = if bill (.block serial) then block.size else 0) :
    used < host.billedBytes bill := by
  rw [tidy.eq_sum_dues counter, billedBytes, Settled.sum_blocks blocks]
  exact Nat.add_lt_add_right (List.sum_lt_sum _ _ pages short) _

theorem perform_decommit {address size : Nat} {region : Region} {range : Nat × Nat}
    (found : host.space.region address = .ok region)
    (within : region.pageRange address size = .ok range) :
    (host.perform (.virtualFree address size .decommit)).registry =
        (if (region.decommit range).1 = 0 then host.registry
          else (host.registry.releasePartial (.address region.base)
            (region.decommit range).1).2) ∧
      (host.perform (.virtualFree address size .decommit)).space =
        host.space.insert (region.decommit range).2 := by
  simp [perform, virtualFree, found, within]

/-- Behind an act that mixes, the counter of the domain falls short of what it is billed for. -/
theorem Settled.short_of_mixes (settled : host.Settled domain bill) (tidy : host.Tidy)
    (mixes : host.Mixes bill act) :
    ∃ used, (host.perform act).registry.bytes? domain = some used ∧
      used < (host.perform act).billedBytes (host.rebill domain act bill) := by
  cases mixes with
  | @decommit address size target range loose stays found within inside committed unbilled outside
      billed =>
    have present := Space.mem_of_region found
    obtain ⟨result, space⟩ := perform_decommit found within
    generalize performed : Act.virtualFree address size .decommit = act at *
    have kept : act.forgets domain = false := by rw [← performed]; rfl
    have aloof : act.isAloof = true := by rw [← performed]; rfl
    have word : act.inRange = true := by rw [← performed]; rfl
    have live : (host.perform act).registry.domains.contains domain = true := by
      have before := settled.live _ billed
      rw [← Domain.Registry.isSome_threads?] at before ⊢
      rw [result]
      split
      · exact before
      · rwa [Domain.Registry.threads?_releasePartial]
    obtain ⟨used, counter⟩ := Option.isSome_iff_exists.1
      ((Domain.Registry.isSome_bytes? _ _).trans live)
    have short := settled.decommit_lt tidy.vacant.ordered kept present result live inside committed
      unbilled outside billed
    rw [← space] at short
    refine ⟨used, counter, (tidy.perform word aloof).lt_billedBytes counter
      (fun region there => ?_) ⟨(target.decommit range).2, ?_, short⟩
      fun serial block there => ?_⟩
    · change _ ≤ host.pagesBehind (host.perform act).registry (host.perform act).space domain act
        bill region * pageSize
      rw [space] at there ⊢
      obtain rfl | same := settled.insert kept live rfl there fun other apart => by
        rw [result]
        exact dues_givenUp_of_ne _ apart
      · exact (space ▸ short).le
      · exact same.le
    · rw [space]
      exact Space.mem_insert.2 (.inl rfl)
    · exact settled.blocks_shelving (shelving_perform host act) tidy aloof kept live there

end

end Steward.Host
