import Steward.Proofs.Host.Tidy

/-! Accounts of private heaps. What a heap counts as live is its blocks, what the ledger has for a
block is what was asked for, under the thread that asked, and a block that goes back takes that
with it and nothing else. -/

set_option autoImplicit false

namespace Steward.Memory

/-- The blocks that belong to a heap. -/
def blocksOf (blocks : Assoc Nat Block) (heap : Nat) : Assoc Nat Block :=
  blocks.filter fun _ block => block.heap = heap

/-- What a block adds to the account of a heap. -/
def heapShare (heap : Nat) (amount : Block → Nat) (block : Block) : Nat :=
  if block.heap = heap then amount block else 0

variable {blocks : Assoc Nat Block} {heap serial : Nat} {block : Block}

theorem total_blocksOf (blocks : Assoc Nat Block) (heap : Nat) (amount : Block → Nat) :
    (blocksOf blocks heap).total amount = blocks.total (heapShare heap amount) :=
  blocks.total_filter_eq _ amount _ fun entry _ => by simp [heapShare]

theorem size_blocksOf (blocks : Assoc Nat Block) (heap : Nat) :
    (blocksOf blocks heap).size = blocks.total (heapShare heap fun _ => 1) := by
  rw [Assoc.size_eq_count, Assoc.count_eq_total, total_blocksOf]
  rfl

/-- The counters of a heap are those of its blocks. -/
def Heap.Tallies (counters : Heap) (blocks : Assoc Nat Block) (heap : Nat) : Prop :=
  counters.liveBytes = (blocksOf blocks heap).total Block.size ∧
    counters.liveBlocks = (blocksOf blocks heap).size

namespace Heap.Tallies

variable {counters : Heap}

/-- A tally is two totals over all blocks. -/
theorem iff_shares : counters.Tallies blocks heap ↔
    counters.liveBytes = blocks.total (heapShare heap Block.size) ∧
      counters.liveBlocks = blocks.total (heapShare heap fun _ => 1) := by
  rw [Tallies, total_blocksOf, size_blocksOf]

theorem of_vacant {flags : HeapFlags}
    (vacant : ∀ serial block, blocks.get? serial = some block → block.heap ≠ heap) :
    Tallies { flags } blocks heap := by
  have nothing : ∀ amount, blocks.total (heapShare heap amount) = 0 := fun amount =>
    blocks.total_eq_zero fun entry inside =>
      if_neg (vacant entry.1 entry.2 (Assoc.get?_of_mem inside))
  exact iff_shares.2 ⟨(nothing _).symm, (nothing _).symm⟩

theorem insert (tallies : counters.Tallies blocks heap) (absent : blocks.get? serial = none)
    (block : Block) :
    (if heap = block.heap then counters.take block.size else counters).Tallies
      (blocks.insert serial block) heap := by
  obtain ⟨bytes, live⟩ := iff_shares.1 tallies
  rw [iff_shares, Assoc.total_insert_new absent, Assoc.total_insert_new absent, ← bytes, ← live]
  by_cases own : heap = block.heap
  · simp [heapShare, take, own]
  · simp [heapShare, own, Ne.symm own]

theorem erase (tallies : counters.Tallies blocks heap) (found : blocks.get? serial = some block) :
    (if heap = block.heap then counters.giveBack block.size else counters).Tallies
      (blocks.erase serial) heap := by
  obtain ⟨bytes, live⟩ := iff_shares.1 tallies
  rw [← Assoc.total_erase_found found] at bytes live
  rw [iff_shares]
  by_cases own : heap = block.heap
  · simp only [heapShare, own, if_true] at bytes live ⊢
    exact ⟨Nat.sub_eq_of_eq_add bytes, Nat.sub_eq_of_eq_add live⟩
  · simpa [heapShare, own, Ne.symm own] using And.intro bytes live

/-- A heap counts each of its blocks, so that nothing is cut short when one goes back. -/
theorem take_giveBack (tallies : counters.Tallies blocks block.heap)
    (found : blocks.get? serial = some block) :
    (counters.giveBack block.size).take block.size = counters := by
  obtain ⟨bytes, live⟩ := iff_shares.1 tallies
  rw [← Assoc.total_erase_found found] at bytes live
  simp only [heapShare, if_true] at bytes live
  have size : counters.liveBytes - block.size + block.size = counters.liveBytes := by omega
  have one : counters.liveBlocks - 1 + 1 = counters.liveBlocks := by omega
  simp [take, giveBack, size, one]

end Heap.Tallies

end Steward.Memory

namespace Steward.Host

open Memory

/-! ### What an act does to heaps and blocks -/

/-- A block more, under the next serial number. -/
def withBlock (host : Host) (thread : ThreadId) (heap size : Nat) : Host :=
  { host with
    registry := host.registry.charge thread size (.block host.nextSerial)
    heaps := host.heaps.modify heap fun counters => counters.take size
    blocks := host.blocks.insert host.nextSerial { heap, size }
    nextSerial := host.nextSerial + 1 }

/-- A block less. -/
def withoutBlock (host : Host) (serial : Nat) (block : Block) : Host :=
  { host with
    registry := (host.registry.release (.block serial)).2
    heaps := host.heaps.modify block.heap fun counters => counters.giveBack block.size
    blocks := host.blocks.erase serial }

theorem heapFree_of_found {host : Host} {serial : Nat} {block : Block}
    (found : host.blocks.get? serial = some block) :
    host.heapFree serial = host.withoutBlock serial block := by
  simp [heapFree, found, withoutBlock]

theorem heapAlloc_eq_ok {host after : Host} {thread : ThreadId} {heap size serial : Nat}
    {level : CriticalLevel}
    (granted : host.heapAlloc thread heap size level = (.ok serial, after)) :
    serial = host.nextSerial ∧ after = host.withBlock thread heap size := by
  unfold heapAlloc at granted
  split at granted
  · cases granted
  · next asked =>
    obtain ⟨rfl, _⟩ := grant_eq_true asked
    split at granted
    · cases granted
    · cases granted
      exact ⟨rfl, rfl⟩

/-- A block that is denied is none at all: at most somebody gets a notice. -/
theorem heapAlloc_eq_error {host after : Host} {thread : ThreadId} {heap size : Nat}
    {level : CriticalLevel} {error : Error}
    (denied : host.heapAlloc thread heap size level = (.error error, after)) :
    error = .outOfMemory size ∧ after.shelf = host.shelf ∧ after.nextSerial = host.nextSerial ∧
      ∃ events, after.registry = { host.registry with events } := by
  unfold heapAlloc at denied
  split at denied
  · next asked =>
    have shelf := host.grant_shelf thread size level
    obtain ⟨registry, _, serial⟩ := grant_eq_false asked
    rw [asked] at shelf
    cases denied
    exact ⟨rfl, shelf, serial, registry⟩
  · next asked =>
    obtain ⟨rfl, _⟩ := grant_eq_true asked
    split at denied
    · cases denied
      exact ⟨rfl, rfl, rfl, _, rfl⟩
    · cases denied

/-- What an act can do to the heaps of a host and to their blocks. -/
inductive Stocking (host : Host) : Act → Host → Prop where
  | aside (act : Act) {after : Host} {operation : Domain.Operation}
      (shelf : after.shelf = host.shelf) (later : host.nextSerial ≤ after.nextSerial)
      (turn : Domain.Registry.Turn host.registry operation after.registry)
      (away : ∀ serial, operation.site? ≠ some (.block serial))
      (kept : ∀ domain, operation ≠ .resetCounters domain) : Stocking host act after
  | created (flags : HeapFlags) : Stocking host (.createHeap flags) (host.addHeap { flags }).2
  | taken {thread : ThreadId} {heap size : Nat} {level : CriticalLevel}
      (granted : host.heapAlloc thread heap size level =
        (.ok host.nextSerial, host.withBlock thread heap size)) :
      Stocking host (.heapAlloc thread heap size level) (host.withBlock thread heap size)
  | given {serial : Nat} {block : Block} (found : host.blocks.get? serial = some block) :
      Stocking host (.heapFree serial) (host.withoutBlock serial block)

namespace Stocking

variable {host : Host}

theorem refused (act : Act) {after : Host} {events : Domain.EventQueue}
    (shelf : after.shelf = host.shelf) (serial : after.nextSerial = host.nextSerial)
    (registry : after.registry = { host.registry with events }) : Stocking host act after := by
  have turn : Domain.Registry.Turn host.registry .rudeUnload after.registry := by
    rw [registry]
    exact .aside _ events host.registry.zombies
  refine .aside act shelf (Nat.le_of_eq serial.symm) turn (fun _ named => ?_) fun _ same => ?_
  · cases named
  · cases same

theorem elsewhere {act : Act} (plain : act.shelves = false)
    (old : ∀ flags, act ≠ .createHeap flags) (unnamed : act.namesBlock = false)
    (kept : act.resets = false) : Stocking host act (host.perform act) := by
  have step := shift_perform host act
  obtain ⟨operation, turn, away, resets⟩ := turn_elsewhere step plain unnamed
  refine .aside act (host.shelf_perform plain old) (nextSerial_shift step) turn away ?_
  intro domain same
  have forgets := resets domain same
  cases act with
  | onDomains other =>
    cases other with
    | resetCounters => cases kept
    | _ => cases forgets
  | _ => cases forgets

end Stocking

theorem stocking_perform (host : Host) {act : Act} (unnamed : act.namesBlock = false)
    (kept : act.resets = false) : Stocking host act (host.perform act) := by
  cases act with
  | createHeap flags => exact .created flags
  | heapAlloc thread heap size level =>
    cases outcome : host.heapAlloc thread heap size level with
    | mk answer after =>
      rw [perform, outcome]
      cases answer with
      | error error =>
        obtain ⟨_, shelf, serial, events, registry⟩ := heapAlloc_eq_error outcome
        exact .refused _ shelf serial registry
      | ok serial =>
        obtain ⟨rfl, rfl⟩ := heapAlloc_eq_ok outcome
        exact .taken outcome
  | heapFree serial =>
    cases found : host.blocks.get? serial with
    | none =>
      have same : host.heapFree serial = host := by simp [heapFree, found]
      rw [perform, same]
      exact .refused _ rfl rfl rfl
    | some block =>
      rw [perform, heapFree_of_found found]
      exact .given found
  | _ => exact .elsewhere rfl (fun _ same => by cases same) unnamed kept

/-- Blocks are asked of heaps that are there. -/
def knowsHeap (host : Host) : Act → Bool
  | .heapAlloc _ heap _ _ => host.heaps.contains heap
  | _ => true

/-- In every state of a run, blocks are asked of heaps that are there. -/
def knowsHeaps (host : Host) : List Act → Bool
  | [] => true
  | act :: rest => host.knowsHeap act && (host.perform act).knowsHeaps rest

theorem knowsHeap_of_knowsHeaps {start : Host} {acts : List Act}
    (known : start.knowsHeaps acts = true) {count : Nat} {act : Act}
    (next : acts[count]? = some act) : (start.run (acts.take count)).knowsHeap act = true := by
  induction acts generalizing start count with
  | nil => cases next
  | cons head rest ih =>
    obtain ⟨first, later⟩ := Bool.and_eq_true_iff.1 known
    cases count with
    | zero =>
      cases next
      exact first
    | succ count => exact ih later next

/-! ### What every act keeps -/

/-- Heaps count their blocks, and blocks alone are charged as blocks. -/
structure Stocked (host : Host) : Prop where
  counted : host.registry.Counted
  balanced : host.registry.Balanced
  fresh : ∀ serial, host.nextSerial ≤ serial →
    host.heaps.get? serial = none ∧ host.blocks.get? serial = none
  housed : ∀ serial block, host.blocks.get? serial = some block →
    host.heaps.contains block.heap = true
  tallied : ∀ heap counters, host.heaps.get? heap = some counters →
    counters.Tallies host.blocks heap
  cleared : ∀ serial, host.blocks.get? serial = none → host.registry.held? (.block serial) = none

namespace Stocked

variable {host after : Host}

theorem create {config : Config} {opened : String → Except Error Trace.Sink}
    (created : Host.create config opened = .ok host) : host.Stocked := by
  unfold Host.create at created
  split at created
  · cases created
  · cases created
    exact
      { counted := .empty _ _
        balanced := .empty _ _
        fresh := fun _ _ => ⟨rfl, rfl⟩
        housed := fun _ _ found => by cases found
        tallied := fun _ _ found => by cases found
        cleared := fun _ _ => rfl }

theorem aside (stocked : host.Stocked) (shelf : after.shelf = host.shelf)
    (later : host.nextSerial ≤ after.nextSerial) {operation : Domain.Operation}
    (turn : Domain.Registry.Turn host.registry operation after.registry)
    (away : ∀ serial, operation.site? ≠ some (.block serial)) : after.Stocked := by
  obtain ⟨heaps, blocks⟩ := Prod.mk.inj shelf
  constructor
  case counted => exact stocked.counted.turn turn
  case balanced => exact stocked.balanced.turn turn stocked.counted
  case fresh =>
    intro serial behind
    rw [heaps, blocks]
    exact stocked.fresh serial (Nat.le_trans later behind)
  case housed =>
    rw [heaps, blocks]
    exact stocked.housed
  case tallied =>
    rw [heaps, blocks]
    exact stocked.tallied
  case cleared =>
    rw [blocks]
    intro serial absent
    exact Domain.Registry.held?_none_turn turn (.inr (away serial)) (stocked.cleared serial absent)

theorem newHeap (stocked : host.Stocked) (flags : HeapFlags) :
    (host.addHeap { flags }).2.Stocked := by
  have unused := (stocked.fresh host.nextSerial (Nat.le_refl _)).1
  constructor
  case counted => exact stocked.counted
  case balanced => exact stocked.balanced
  case fresh =>
    intro serial behind
    have old := stocked.fresh serial (Nat.le_of_succ_le behind)
    have apart : serial ≠ host.nextSerial := Nat.ne_of_gt behind
    exact ⟨(Assoc.get?_insert_of_ne _ apart _).trans old.1, old.2⟩
  case housed =>
    intro serial block found
    have there := stocked.housed serial block found
    simp [Host.addHeap, Assoc.contains_insert, there]
  case tallied =>
    intro heap counters found
    simp only [Host.addHeap, Assoc.get?_insert] at found
    split at found
    · next new =>
      cases found
      -- Every block has a heap that is there, so that a new heap has none.
      refine .of_vacant fun serial block there same => ?_
      have present := stocked.housed serial block there
      rw [same, new, Assoc.contains, unused] at present
      cases present
    · exact stocked.tallied heap counters found
  case cleared => exact stocked.cleared

theorem newBlock (stocked : host.Stocked) (thread : ThreadId) {heap : Nat} (size : Nat)
    (known : host.heaps.contains heap = true) : (host.withBlock thread heap size).Stocked := by
  have unused := (stocked.fresh host.nextSerial (Nat.le_refl _)).2
  have turn : Domain.Registry.Turn host.registry _ (host.withBlock thread heap size).registry :=
    .charged thread size (.block host.nextSerial)
  constructor
  case counted => exact stocked.counted.turn turn
  case balanced => exact stocked.balanced.turn turn stocked.counted
  case fresh =>
    intro serial behind
    have old := stocked.fresh serial (Nat.le_of_succ_le behind)
    have apart : serial ≠ host.nextSerial := Nat.ne_of_gt behind
    simp [Host.withBlock, Assoc.get?_modify, old.1, old.2, apart]
  case housed =>
    intro serial block found
    simp only [Host.withBlock, Assoc.get?_insert, Assoc.contains_modify] at found ⊢
    split at found
    · cases found
      exact known
    · exact stocked.housed serial block found
  case tallied =>
    intro other counters found
    simp only [Host.withBlock, Assoc.get?_modify, Option.map_eq_some_iff] at found
    obtain ⟨old, there, rfl⟩ := found
    exact (stocked.tallied other old there).insert unused ⟨heap, size, []⟩
  case cleared =>
    intro serial absent
    simp only [Host.withBlock, Assoc.get?_insert] at absent ⊢
    split at absent
    · cases absent
    · next apart =>
      rw [Domain.Registry.held?_charge, if_neg (by simpa using apart)]
      exact stocked.cleared serial absent

theorem lessBlock (stocked : host.Stocked) {serial : Nat} {block : Block}
    (found : host.blocks.get? serial = some block) : (host.withoutBlock serial block).Stocked := by
  have turn : Domain.Registry.Turn host.registry _ (host.withoutBlock serial block).registry :=
    .released (.block serial)
  constructor
  case counted => exact stocked.counted.turn turn
  case balanced => exact stocked.balanced.turn turn stocked.counted
  case fresh =>
    intro other behind
    have old := stocked.fresh other behind
    simp [Host.withoutBlock, Assoc.get?_modify, Assoc.get?_erase, old.1, old.2]
  case housed =>
    intro other kept there
    simp only [Host.withoutBlock, Assoc.get?_erase, Assoc.contains_modify] at there ⊢
    split at there
    · cases there
    · exact stocked.housed other kept there
  case tallied =>
    intro other counters there
    simp only [Host.withoutBlock, Assoc.get?_modify, Option.map_eq_some_iff] at there
    obtain ⟨old, before, rfl⟩ := there
    exact (stocked.tallied other old before).erase found
  case cleared =>
    intro other absent
    simp only [Host.withoutBlock, Assoc.get?_erase] at absent ⊢
    rw [Domain.Registry.held?_release]
    split
    · rfl
    · next apart =>
      rw [if_neg (by simpa using apart)] at absent
      exact stocked.cleared other absent

theorem step {act : Act} (stocked : host.Stocked) (step : Stocking host act after)
    (known : host.knowsHeap act = true) : after.Stocked := by
  cases step with
  | aside _ shelf later turn away _ => exact stocked.aside shelf later turn away
  | created flags => exact stocked.newHeap flags
  | taken _ => exact stocked.newBlock _ _ known
  | given found => exact stocked.lessBlock found

end Stocked

/-! ### Whom a block is charged to -/

/-- The block was asked for at that place of the run, by that thread. It is charged to the thread
and, for as long as that one lives, to the domain that the thread was in then. -/
structure Allotted (start : Host) (acts : List Act) (count serial : Nat) (block : Block)
    (place : Nat) (thread : ThreadId) : Prop where
  early : place < count
  asked : ∃ level, acts[place]? = some (.heapAlloc thread block.heap block.size level) ∧
    ((start.run (acts.take place)).heapAlloc thread block.heap block.size level).1 = .ok serial
  charged : ∃ owner,
    (start.run (acts.take count)).registry.ledger.get? (.block serial) =
      some ⟨owner, thread, block.size⟩ ∧
    ∀ domain, owner = some domain ↔
      (start.run (acts.take place)).registry.bindings.get? thread = some domain ∧
      ∀ between, place ≤ between → between ≤ count →
        (start.run (acts.take between)).registry.domains.contains domain = true

section

variable {start : Host} {acts : List Act} {count serial place : Nat} {block : Block}
  {thread : ThreadId} {act : Act}

theorem Allotted.succ (allotted : Allotted start acts count serial block place thread)
    {operation : Domain.Operation}
    (turn : Domain.Registry.Turn (start.run (acts.take count)).registry operation
      (start.run (acts.take (count + 1))).registry)
    (balanced : (start.run (acts.take (count + 1))).registry.Balanced)
    (away : operation.site? ≠ some (.block serial))
    (kept : ∀ domain, operation ≠ .resetCounters domain) :
    Allotted start acts (count + 1) serial block place thread := by
  refine ⟨Nat.lt_succ_of_lt allotted.early, allotted.asked, ?_⟩
  obtain ⟨owner, found, owned⟩ := allotted.charged
  obtain ⟨later, now, stays⟩ := turn.charge_owner balanced away kept found
  refine ⟨later, now, fun domain => ?_⟩
  rw [stays domain, owned domain]
  constructor
  · rintro ⟨⟨bound, lived⟩, lives⟩
    refine ⟨bound, fun between early late => ?_⟩
    rcases Nat.lt_or_eq_of_le late with within | rfl
    · exact lived between early (Nat.le_of_lt_succ within)
    · exact lives
  · rintro ⟨bound, lived⟩
    refine ⟨⟨bound, fun between early late => lived between early (Nat.le_succ_of_le late)⟩, ?_⟩
    exact lived (count + 1) (Nat.le_succ_of_le (Nat.le_of_lt allotted.early)) (Nat.le_refl _)

/-- A block that was just taken is charged to the domain of the thread that took it. -/
theorem Allotted.new {host : Host} {heap size : Nat} {level : CriticalLevel}
    (now : start.run (acts.take count) = host) (stocked : host.Stocked)
    (next : acts[count]? = some (.heapAlloc thread heap size level))
    (granted : host.heapAlloc thread heap size level =
      (.ok host.nextSerial, host.withBlock thread heap size)) :
    Allotted start acts (count + 1) host.nextSerial { heap, size } count thread := by
  have later : start.run (acts.take (count + 1)) = host.withBlock thread heap size := by
    rw [run_take_succ start next, now, perform, granted]
  have unused := (stocked.fresh host.nextSerial (Nat.le_refl _)).2
  have nothing := host.registry.held?_eq_none_iff.1 (stocked.cleared _ unused)
  have entry : (host.withBlock thread heap size).registry.ledger.get? (.block host.nextSerial) =
      some ⟨host.registry.bindings.get? thread, thread, size⟩ := by
    simp [withBlock, Domain.Registry.charge, Assoc.getD, nothing]
  refine ⟨Nat.lt_succ_self count, ⟨level, next, by rw [now, granted]⟩, _, later ▸ entry, ?_⟩
  intro domain
  rw [now]
  constructor
  · intro bound
    refine ⟨bound, fun between early late => ?_⟩
    rcases Nat.lt_or_eq_of_le late with within | rfl
    · rw [Nat.le_antisymm (Nat.le_of_lt_succ within) early, now]
      exact stocked.counted.live thread domain bound
    · have balanced := stocked.balanced.charge stocked.counted thread size (.block host.nextSerial)
      rw [later]
      exact balanced.live _ _ domain entry bound
  · exact And.left

/-- A block that is there behind an act was there before and kept its charge, or was just taken. -/
theorem Stocking.origin {host after : Host} (step : Stocking host act after)
    (found : after.blocks.get? serial = some block) :
    (host.blocks.get? serial = some block ∧ ∃ operation,
      Domain.Registry.Turn host.registry operation after.registry ∧
      operation.site? ≠ some (.block serial) ∧ ∀ domain, operation ≠ .resetCounters domain) ∨
    ∃ thread heap size level, act = .heapAlloc thread heap size level ∧
      serial = host.nextSerial ∧ block = { heap, size } ∧
      host.heapAlloc thread heap size level =
        (.ok host.nextSerial, host.withBlock thread heap size) := by
  have unnamed : ∀ {other : Nat}, serial ≠ other →
      some (Domain.Site.block other) ≠ some (.block serial) :=
    fun apart same => apart (Domain.Site.block.inj (Option.some.inj same)).symm
  cases step with
  | aside _ shelf _ turn away kept =>
    rw [(Prod.mk.inj shelf).2] at found
    exact .inl ⟨found, _, turn, away serial, kept⟩
  | created flags =>
    refine .inl ⟨found, .rudeUnload, .refl host.registry _, fun named => ?_, fun _ same => ?_⟩
    · cases named
    · cases same
  | @taken thread heap size level granted =>
    simp only [withBlock, Assoc.get?_insert] at found
    split at found
    · next new =>
      cases found
      exact .inr ⟨thread, heap, size, level, rfl, new, rfl, granted⟩
    · next old =>
      refine .inl ⟨found, _, .charged thread size (.block host.nextSerial), unnamed old, ?_⟩
      intro domain same
      cases same
  | @given gone _ _ =>
    simp only [withoutBlock, Assoc.get?_erase] at found
    split at found
    · cases found
    · next apart =>
      refine .inl ⟨found, _, .released (.block gone), unnamed apart, ?_⟩
      intro domain same
      cases same

theorem exists_allotted_succ (next : acts[count]? = some act)
    (stocked : (start.run (acts.take count)).Stocked)
    (step : Stocking (start.run (acts.take count)) act (start.run (acts.take (count + 1))))
    (after : (start.run (acts.take (count + 1))).Stocked)
    (allotted : ∀ serial block, (start.run (acts.take count)).blocks.get? serial = some block →
      ∃ place thread, Allotted start acts count serial block place thread)
    (found : (start.run (acts.take (count + 1))).blocks.get? serial = some block) :
    ∃ place thread, Allotted start acts (count + 1) serial block place thread := by
  rcases step.origin found with ⟨old, operation, turn, away, kept⟩ |
    ⟨thread, heap, size, level, rfl, rfl, rfl, granted⟩
  · obtain ⟨place, thread, before⟩ := allotted serial block old
    exact ⟨place, thread, before.succ turn after.balanced away kept⟩
  · exact ⟨count, thread, .new rfl stocked next granted⟩

end

/-! ### A block goes back -/

/-- One block went back with its charge; every counter falls by what it stood for there. -/
structure GivenBack (host after : Host) (serial : Nat) (block : Block) (charge : Domain.Charge) :
    Prop where
  blocks : after.blocks = host.blocks.erase serial
  ledger : after.registry.ledger = host.registry.ledger.erase (.block serial)
  heaps : ∀ heap, host.heaps.get? heap = (after.heaps.get? heap).map fun counters =>
    if heap = block.heap then counters.take block.size else counters
  domains : ∀ domain, host.registry.bytes? domain = (after.registry.bytes? domain).map
    (· + Domain.Registry.domainShare domain charge)
  threads : ∀ thread, host.registry.threadMemory thread =
    after.registry.threadMemory thread + Domain.Registry.threadShare thread charge

theorem Stocked.givenBack {host : Host} (stocked : host.Stocked) {serial : Nat} {block : Block}
    {charge : Domain.Charge} (found : host.blocks.get? serial = some block)
    (charged : host.registry.ledger.get? (.block serial) = some charge) :
    GivenBack host (host.heapFree serial) serial block charge := by
  have released : (host.registry.release (.block serial)).2 =
      { host.registry with ledger := host.registry.ledger.erase (.block serial) }.credit charge
        charge.bytes := by
    simp [Domain.Registry.release, charged]
  rw [heapFree_of_found found]
  constructor
  case blocks => rfl
  case ledger =>
    rw [withoutBlock, released]
    rfl
  case heaps =>
    intro heap
    simp only [withoutBlock, Assoc.get?_modify, Option.map_map]
    cases there : host.heaps.get? heap with
    | none => rfl
    | some counters =>
      by_cases own : heap = block.heap
      · have same := (own ▸ stocked.tallied heap counters there).take_giveBack found
        simp [own, same]
      · simp [own]
  case domains =>
    intro domain
    rw [withoutBlock, released, Domain.Registry.bytes?_credit, Option.map_map]
    change host.registry.bytes? domain = (host.registry.bytes? domain).map _
    cases there : host.registry.domains.get? domain with
    | none => simp [Domain.Registry.bytes?, there]
    | some record =>
      by_cases owner : charge.domain = some domain
      · have covered := stocked.balanced.le_bytes charged owner there
        simp [Domain.Registry.bytes?, Domain.Registry.domainShare, there, owner, covered]
      · simp [Domain.Registry.bytes?, Domain.Registry.domainShare, there, owner]
  case threads =>
    intro thread
    rw [withoutBlock, released, Domain.Registry.threadMemory_credit]
    change _ = host.registry.threadMemory thread - _ + _
    by_cases own : charge.thread = thread
    · have covered := stocked.balanced.le_threadMemory charged
      rw [own] at covered
      simp [Domain.Registry.threadShare, own, covered]
    · simp [Domain.Registry.threadShare, own]

/-! ### Runs -/

/-- Along a run that leaves the charges of blocks to allocations, a heap's counters are the sum of
the sizes of its blocks and their number. A block is charged for its size, to the thread that asked
for it and to the domain of that thread until the domain ends, and what is no block is not charged.
A block that is denied changes no counter and no charge, and a block that goes back takes off the
counters what it was charged for. -/
theorem heaps_tally_blocks {config : Config} {opened : String → Except Error Trace.Sink}
    {start : Host} (created : create config opened = .ok start) (acts : List Act)
    (unnamed : ∀ act ∈ acts, act.namesBlock = false) (kept : ∀ act ∈ acts, act.resets = false)
    (known : start.knowsHeaps acts = true) (count : Nat) (within : count ≤ acts.length) :
    let host := start.run (acts.take count)
    (∀ heap counters, host.heaps.get? heap = some counters →
      counters.liveBytes = (blocksOf host.blocks heap).total Block.size ∧
        counters.liveBlocks = (blocksOf host.blocks heap).size) ∧
    (∀ serial block, host.blocks.get? serial = some block →
      ∃ place thread, Allotted start acts count serial block place thread) ∧
    (∀ serial, host.blocks.get? serial = none →
      host.registry.ledger.get? (.block serial) = none) ∧
    (∀ thread heap size level error after,
      host.heapAlloc thread heap size level = (.error error, after) →
      error = .outOfMemory size ∧ after.heaps = host.heaps ∧ after.blocks = host.blocks ∧
        ∃ events, after.registry = { host.registry with events }) ∧
    ∀ serial block, host.blocks.get? serial = some block →
      ∃ charge, host.registry.ledger.get? (.block serial) = some charge ∧
        charge.bytes = block.size ∧
        GivenBack host (host.heapFree serial) serial block charge := by
  have books : (start.run (acts.take count)).Stocked ∧ ∀ serial block,
      (start.run (acts.take count)).blocks.get? serial = some block →
      ∃ place thread, Allotted start acts count serial block place thread := by
    induction count with
    | zero =>
      have stocked : start.Stocked := .create created
      obtain ⟨_, _, none⟩ := books_of_create created
      refine ⟨stocked, fun serial block found => ?_⟩
      have absent := (stocked.fresh serial (none ▸ Nat.zero_le serial)).2
      cases absent.symm.trans found
    | succ count ih =>
      obtain ⟨stocked, allotted⟩ := ih (Nat.le_of_succ_le within)
      have next := List.getElem?_eq_getElem within
      have inside := List.getElem_mem within
      have step := stocking_perform (start.run (acts.take count)) (unnamed _ inside) (kept _ inside)
      rw [← run_take_succ start next] at step
      have after := stocked.step step (knowsHeap_of_knowsHeaps known next)
      exact ⟨after, fun _ _ found => exists_allotted_succ next stocked step after allotted found⟩
  obtain ⟨stocked, allotted⟩ := books
  refine ⟨stocked.tallied, allotted, fun serial absent => ?_, ?_, fun serial block found => ?_⟩
  · exact (Domain.Registry.held?_eq_none_iff _).1 (stocked.cleared serial absent)
  · intro thread heap size level error after denied
    obtain ⟨same, shelf, _, registry⟩ := heapAlloc_eq_error denied
    obtain ⟨heaps, blocks⟩ := Prod.mk.inj shelf
    exact ⟨same, heaps, blocks, registry⟩
  · obtain ⟨_, _, there⟩ := allotted serial block found
    obtain ⟨_, charged, _⟩ := there.charged
    exact ⟨_, charged, rfl, stocked.givenBack found charged⟩

/-- A thread takes blocks from two heaps, one of them while it is a guest in a domain that is
unloaded; an empty block goes back, and a block that no system supplies is denied. -/
def orphanedBlock : List Act :=
  [.createHeap {}, .onDomains (.create ⟨1⟩ ⟨1⟩ "first"), .onDomains (.create ⟨2⟩ ⟨2⟩ "second"),
    .createHeap ⟨true, false⟩, .heapAlloc ⟨1⟩ 0 100 .task, .heapAlloc ⟨2⟩ 0 0 .task,
    .onDomains (.acquireThread ⟨2⟩ ⟨1⟩), .heapAlloc ⟨1⟩ 1 50 .process, .onDomains (.unload ⟨2⟩),
    .heapFree 3, .heapAlloc ⟨3⟩ 0 blockLimit .process]

theorem heaps_tally_blocks_orphanedBlock :
    ∃ start, create {} (fun _ => .ok (.memory 0 [])) = .ok start ∧
      (start.run orphanedBlock).heaps.get? 0 = some ⟨{}, 100, 1⟩ ∧
      (blocksOf (start.run orphanedBlock).blocks 0).total Block.size = 100 ∧
      (∃ place thread, Allotted start orphanedBlock 11 4 ⟨1, 50, []⟩ place thread) ∧
      ∃ charge, (start.run orphanedBlock).registry.ledger.get? (.block 4) = some charge ∧
        charge = ⟨none, ⟨1⟩, 50⟩ ∧
        GivenBack (start.run orphanedBlock) ((start.run orphanedBlock).heapFree 4) 4
          ⟨1, 50, []⟩ charge := by
  obtain ⟨tallied, allotted, _, _, freed⟩ := @heaps_tally_blocks {} (fun _ => .ok (.memory 0 [])) _
    rfl orphanedBlock (by decide) (by decide) (by decide) 11 (by decide)
  obtain ⟨charge, charged, _, given⟩ := freed 4 ⟨1, 50, []⟩ (by decide)
  have bytes := (tallied 0 ⟨{}, 100, 1⟩ (by decide)).1.symm
  refine ⟨_, rfl, by decide, bytes, allotted 4 ⟨1, 50, []⟩ (by decide), charge, charged, ?_, given⟩
  exact Option.some.inj (charged.symm.trans (by decide))

end Steward.Host
