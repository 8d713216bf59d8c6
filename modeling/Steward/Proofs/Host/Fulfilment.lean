import Steward.Proofs.Host.Placement
import Steward.Proofs.Domain.Conservation
import Steward.Proofs.Memory.Pages

/-! A request for virtual memory that is granted does what it says and no more: to the pages of its
range, to every other page, and to the ledger. -/

set_option autoImplicit false

namespace Steward.Host

open Memory

/-- A charge adds its bytes to the ledger. -/
theorem total_chargeAt (host : Host) (thread : ThreadId) (bytes base : Nat) :
    (host.chargeAt thread bytes base).registry.ledger.total Domain.Charge.bytes =
      host.registry.ledger.total Domain.Charge.bytes + bytes := by
  unfold chargeAt
  split
  · next nothing => rw [nothing, Nat.add_zero]
  · have parts := @Domain.Registry.total_entry host.registry thread (.address base)
      Domain.Charge.bytes fun _ nothing => nothing
    simp only [Domain.Registry.charge, Assoc.total_insert]
    rw [parts, Domain.Registry.entry, Nat.add_assoc]

/-- The reservation, by its base, and the start of the range that a request is about, when it gave
an address. In place, that is the page of the start; a new reservation begins there. -/
inductive Aims (space : Space) (wanted : Option Nat) (commits : Bool) (first : Nat) :
    Nat → Nat → Prop where
  | inPlace {address : Nat} {region : Region} (wish : wanted = some address)
      (asked : commits = true) (inside : region ∈ space.regions)
      (holds : region.contains address = true) (floor : first = pageFloor address) :
      Aims space wanted commits first region.base address
  | anew (apart : ∀ address ∈ wanted, ∀ region ∈ space.regions, region.contains address = false)
      (new : space.hasBase first = false) : Aims space wanted commits first first first

section
variable {host after : Host} {thread : ThreadId} {wanted : Option Nat} {size first : Nat}
  {kind : AllocationKind} {protection : Protection} {level : CriticalLevel}
  (laid : host.space.Laid)
  (wishes : ∀ address ∈ wanted, address + size + pageSize ≤ Word.top + 1)
  (below : first + size + pageSize ≤ Word.top + 1)
include laid wishes

/-- A new reservation goes where none begins, and to a wish only if none contains it. -/
theorem aims_of_place {base : Nat} {space : Space} (asked : size ≠ 0)
    (missing : ∀ address ∈ wanted, host.space.regionAt? address = none)
    (placed : host.space.place wanted (pageCeil size) = .ok (base, space)) :
    pageSize ∣ base ∧ space.regions = host.space.regions ∧ host.space.hasBase base = false ∧
      Aims host.space wanted kind.commit base base base := by
  have long := pageSize_le_pageCeil asked
  have words : ∀ address, wanted = some address → address ≤ Word.top := by
    intro address wish
    have bound := wishes address wish
    omega
  obtain ⟨new, same⟩ := Space.place_fresh laid.toOrdered
    (Nat.lt_of_lt_of_le (by decide) long) words placed
  have aligned := pageSize_dvd_of_granularity (laid.clear_of_place placed).1
  refine ⟨aligned, same, new, .anew (fun address wish region inside => ?_) new⟩
  rw [Bool.eq_false_iff]
  intro holds
  have found := (laid.regionAt?_eq_some_iff (words address wish)).2 ⟨inside, holds⟩
  rw [missing address wish] at found
  cases found

include below

/-- Each way in which a request comes to an address gives the start of a page, does what was asked
for in the range, and charges the pages that are committed now and were not before. -/
theorem Allocation.fulfils
    (made : Allocation host thread wanted size kind protection level (.ok first) after) :
    pageSize ∣ first ∧
      (∃ base address, Aims host.space wanted kind.commit first base address ∧
        host.space.Fulfils after.space base address size kind.commit protection) ∧
      after.registry.ledger.total Domain.Charge.bytes =
        host.registry.ledger.total Domain.Charge.bytes +
          pageSize * host.space.newlyCommitted after.space := by
  have word : size + pageSize ≤ Word.top + 1 := by omega
  cases made with
  | @reserved _ space asked missing placed reserves =>
    have positive : 0 < size := Nat.pos_of_ne_zero asked
    obtain ⟨aligned, same, new, aims⟩ := aims_of_place laid wishes asked missing placed
    refine ⟨aligned, ⟨_, _, aims, ?_⟩, ?_⟩
    · rw [reserves]
      exact Space.fulfils_reserve same new aligned positive below
    · rw [Space.newlyCommitted_reserve laid.toOrdered same]
      rfl
  | @committedAnew _ space region range asked missing placed fresh commits _ within =>
    have positive : 0 < size := Nat.pos_of_ne_zero asked
    obtain ⟨aligned, same, new, aims⟩ := aims_of_place laid wishes asked missing placed
    subst fresh
    have long := pageSize_le_pageCeil asked
    -- Rounded up to pages, the range still ends below the last page of the word range.
    have whole : first + pageCeil size + pageSize ≤ Word.top + 1 := by
      obtain ⟨start, rfl⟩ := aligned
      unfold pageCeil pageFloor Word.saturatingAdd Word.top pageSize at *
      omega
    obtain ⟨_, _, rfl⟩ := (Region.pageRange_eq_ok_iff (by simpa using aligned)
      (Nat.lt_of_lt_of_le (by decide) long) whole).1 within
    rw [Region.indices_pageCeil positive word]
    refine ⟨aligned, ⟨_, _, aims, ?_⟩, ?_⟩
    · rw [(chargeAt_books _ _ _ _).2.1, commits]
      exact Space.fulfils_commit_reserve same new aligned positive below
    · rw [total_chargeAt, (chargeAt_books _ _ _ _).2.1]
      congr 1
      apply Space.newlyCommitted_commit laid.toOrdered same
      intro index
      rw [Region.base_reserve, Space.commits_of_new new, Region.commits_reserve]
  | @committedInPlace address region range asked wish found commits within =>
    have positive : 0 < size := Nat.pos_of_ne_zero asked
    obtain ⟨inside, holds⟩ := Space.mem_of_regionAt? found
    have aligned := pageSize_dvd_of_granularity (laid.aligned region inside)
    obtain ⟨_, fits, rfl⟩ :=
      (Region.pageRange_eq_ok_iff aligned positive (wishes address wish)).1 within
    refine ⟨Nat.dvd_mul_left _ _, ⟨_, _, .inPlace wish commits inside holds rfl, ?_⟩, ?_⟩
    · rw [(chargeAt_books _ _ _ _).2.1, commits]
      exact Space.fulfils_commit_found laid positive found fits
    · rw [total_chargeAt, (chargeAt_books _ _ _ _).2.1]
      congr 1
      exact Space.newlyCommitted_commit laid.toOrdered rfl (laid.toOrdered.commits inside) _

end

/-- Where all of a range is committed, a commit of it asks for nothing: neither the register nor
the level has a say. -/
theorem commitInPlace_of_committed {host : Host} (laid : host.space.Laid) {address size : Nat}
    {region : Region} (positive : 0 < size) (below : address + size + pageSize ≤ Word.top + 1)
    (found : host.space.regionAt? address = some region) (fits : address + size ≤ region.limit)
    (committed : ∀ other, address ≤ other → other < address + size →
      (host.space.query other).state = .committed) (protection : Protection)
    (registry : Domain.Registry) (thread : ThreadId) (level : CriticalLevel) :
    { host with registry }.commitInPlace thread region address size protection level =
      (.ok (pageFloor address), { host with
        registry
        space := host.space.insert
          (region.commit (region.indices address size) protection).2 }) := by
  obtain ⟨inside, holds⟩ := Space.mem_of_regionAt? found
  have aligned := pageSize_dvd_of_granularity (laid.aligned region inside)
  have within := (Region.pageRange_eq_ok_iff aligned positive below).2 ⟨holds, fits, rfl⟩
  have every := (Space.commits_indices_iff laid positive (by omega) found fits).2 committed
  -- No byte is missing, and nobody is asked for none.
  have nothing : region.uncommittedBytes (region.indices address size) = 0 := by
    rw [Region.uncommittedBytes_eq, Nat.mul_eq_zero, List.countP_eq_zero]
    left
    intro index _
    cases covered : covers (region.indices address size) index with
    | true => simp [every index covered]
    | false => simp
  have counted : (region.commit (region.indices address size) protection).1 = 0 := nothing
  simp only [commitInPlace, within, nothing, if_true, counted, chargeAt]

/-- In every state of a run, a request for memory that gives an address gives the start of a page.
Its range lies in one reservation, of which exactly the pages that it touches are committed as
wanted, or which is new and holds nothing; other pages stay, and what was committed keeps its
contents. The ledger grows by the pages that are committed now and were not before. Where the whole
range is committed already, a commit succeeds with any register and at any level, and leaves the
register as it is. -/
theorem virtualAlloc_exact {config : Config} {opened : String → Except Error Trace.Sink}
    {start : Host} (created : create config opened = .ok start) (acts : List Act) (size : Nat)
    (kind : AllocationKind) (protection : Protection) :
    let before := start.run acts
    (∀ thread wanted level first after,
      before.virtualAlloc thread wanted size kind protection level = (.ok first, after) →
      (∀ address ∈ wanted, address + size + 4096 ≤ Word.top + 1) →
      first + size + 4096 ≤ Word.top + 1 →
      4096 ∣ first ∧
      (∃ base address, Aims before.space wanted kind.commit first base address ∧
        before.space.Fulfils after.space base address size kind.commit protection) ∧
      (∀ base index bytes, (before.space.pageAt? base index).bind Page.bytes = some bytes →
        (after.space.pageAt? base index).bind Page.bytes = some bytes) ∧
      after.registry.ledger.total Domain.Charge.bytes =
        before.registry.ledger.total Domain.Charge.bytes +
          4096 * before.space.newlyCommitted after.space) ∧
    ∀ address, 0 < size → kind.commit = true → address + size + 4096 ≤ Word.top + 1 →
      (before.space.Spans address size fun info => info.state = .committed) →
      ∃ space, ∀ registry thread level,
        { before with registry }.virtualAlloc thread (some address) size kind protection level =
          (.ok (pageFloor address), { before with registry, space }) := by
  have laid := laid_run created acts
  constructor
  · intro thread wanted level first after done wishes below
    have made := (start.run acts).allocation_virtualAlloc thread wanted size kind protection level
    rw [done] at made
    obtain ⟨aligned, ⟨base, address, aims, fulfils⟩, total⟩ := made.fulfils laid wishes below
    exact ⟨aligned, ⟨base, address, aims, fulfils⟩, fun _ _ _ held => fulfils.kept held, total⟩
  · intro address positive commits below spans
    obtain ⟨region, found, fits, committed⟩ := (Space.spans_iff laid (by omega)).1 spans
    refine ⟨(start.run acts).space.insert (region.commit (region.indices address size)
      protection).2, fun registry thread level => ?_⟩
    have proper : ¬(size = 0 ∨ FlagSet.isEmpty kind = true) := by
      rintro (empty | empty)
      · omega
      · simp [FlagSet.isEmpty, FlagSet.members, commits] at empty
    simp only [virtualAlloc, if_neg proper, found, commits, if_true]
    exact commitInPlace_of_committed laid positive below found fits committed protection registry
      thread level

/-- Four reserved pages, of which the second is committed. -/
def patchedPages : List Act :=
  [.virtualAlloc ⟨1⟩ none 0x4000 ⟨false, true⟩ .noAccess .task,
    .virtualAlloc ⟨1⟩ (some 0x10001800) 4 ⟨true, false⟩ .readWrite .task]

theorem virtualAlloc_patchedPages :
    ∃ start after, create {} (fun _ => .ok (.memory 0 [])) = .ok start ∧
      let before := start.run patchedPages
      before.virtualAlloc ⟨1⟩ (some 0x10000ffe) 0x1004 ⟨true, false⟩ .readOnly .task =
        (.ok 0x10000000, after) ∧
      (∃ base address, Aims before.space (some 0x10000ffe) true 0x10000000 base address ∧
        before.space.Fulfils after.space base address 0x1004 true .readOnly) ∧
      before.registry.ledger.total Domain.Charge.bytes = 0x1000 ∧
      after.registry.ledger.total Domain.Charge.bytes = 0x3000 ∧
      ∃ space, ∀ registry thread level,
        { before with registry }.virtualAlloc thread (some 0x10001ffe) 2 ⟨true, false⟩ .readOnly
          level = (.ok 0x10001000, { before with registry, space }) := by
  obtain ⟨start, created, given, fresh, held, long, committed⟩ :
      ∃ start, create {} (fun _ => .ok (.memory 0 [])) = .ok start ∧
        ((start.run patchedPages).virtualAlloc ⟨1⟩ (some 0x10000ffe) 0x1004 ⟨true, false⟩
          .readOnly .task).1.toOption = some 0x10000000 ∧
        (start.run patchedPages).space.newlyCommitted ((start.run patchedPages).virtualAlloc ⟨1⟩
          (some 0x10000ffe) 0x1004 ⟨true, false⟩ .readOnly .task).2.space = 2 ∧
        (start.run patchedPages).registry.ledger.total Domain.Charge.bytes = 0x1000 ∧
        ((start.run patchedPages).space.regions.any fun region =>
          region.contains 0x10001ffe && decide (0x10002000 ≤ region.limit)) = true ∧
        ∀ offset < 2,
          ((start.run patchedPages).space.query (0x10001ffe + offset)).state = .committed :=
    ⟨_, rfl, by decide +kernel, by decide +kernel, by decide +kernel, by decide +kernel,
      by decide +kernel⟩
  rcases done : (start.run patchedPages).virtualAlloc ⟨1⟩ (some 0x10000ffe) 0x1004 ⟨true, false⟩
    .readOnly .task with ⟨outcome, after⟩
  rw [done] at given fresh
  cases outcome with
  | error failure => cases given
  | ok first =>
    cases given
    obtain ⟨_, aims, _, total⟩ :=
      (virtualAlloc_exact created patchedPages 0x1004 ⟨true, false⟩ .readOnly).1 _ _ _ _ _ done
        (by decide) (by decide)
    refine ⟨start, after, created, done, aims, held, ?grown, ?again⟩
    case grown => rw [total, held, fresh]
    case again =>
      apply (virtualAlloc_exact created patchedPages 2 ⟨true, false⟩ .readOnly).2 0x10001ffe
        (by decide) rfl (by decide)
      simp only [List.any_eq_true, Bool.and_eq_true, decide_eq_true_eq] at long
      obtain ⟨region, inside, holds, fits⟩ := long
      refine ⟨region, inside, holds, fits, fun other low high => ?_⟩
      obtain ⟨offset, rfl⟩ := Nat.exists_eq_add_of_le low
      exact committed offset (by omega)

end Steward.Host
