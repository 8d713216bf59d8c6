import Steward.Host.Allocation
import Steward.Proofs.Domain.Holding

/-! Runs of acts on the domains and the memory of a host. What an act can do to the register and to
the address space is said once, as a shift of both. -/

set_option autoImplicit false

namespace Steward.Host

open Memory

/-- What threads do to the domains and the memory of a host. -/
inductive Act where
  | onDomains (operation : Domain.Operation)
  | createHeap (flags : HeapFlags)
  | heapAlloc (thread : ThreadId) (heap size : Nat) (level : CriticalLevel)
  | heapFree (serial : Nat)
  | virtualAlloc (thread : ThreadId) (wanted : Option Nat) (size : Nat) (kind : AllocationKind)
      (protection : Protection) (level : CriticalLevel)
  | virtualFree (address size : Nat) (kind : FreeKind)
  | virtualProtect (address size : Nat) (protection : Protection)
  | virtualWrite (address : Nat) (data : List UInt8)
  | mapped (thread : ThreadId) (address size : Nat)
  | unmapped (address : Nat)
  | watchMemory

def perform (host : Host) : Act → Host
  | .onDomains operation => host.adopt (host.registry.perform operation)
  | .createHeap flags => (host.addHeap { flags }).2
  | .heapAlloc thread heap size level => (host.heapAlloc thread heap size level).2
  | .heapFree serial => host.heapFree serial
  | .virtualAlloc thread wanted size kind protection level =>
      (host.virtualAlloc thread wanted size kind protection level).2
  | .virtualFree address size kind => (host.virtualFree address size kind).2
  | .virtualProtect address size protection => (host.virtualProtect address size protection).2
  | .virtualWrite address data => (host.virtualWrite address data).2
  | .mapped thread address size => host.mapped thread address size
  | .unmapped address => host.unmapped address
  | .watchMemory => { host with memoryWatched := true }

def run (host : Host) (acts : List Act) : Host := acts.foldl perform host

theorem run_take_succ (start : Host) {acts : List Act} {count : Nat} {act : Act}
    (next : acts[count]? = some act) :
    start.run (acts.take (count + 1)) = (start.run (acts.take count)).perform act := by
  simp [run, List.take_add_one, next]

/-- What holds at first and is kept by every act of a run holds in every state of the run. -/
theorem run_induction {holds : Host → Prop} {start : Host} {acts : List Act}
    (initial : holds start)
    (keeps : ∀ count act, acts[count]? = some act → holds (start.run (acts.take count)) →
      holds (start.run (acts.take (count + 1)))) (count : Nat) :
    holds (start.run (acts.take count)) := by
  induction count with
  | zero => exact initial
  | succ count ih =>
    cases next : acts[count]? with
    | some act => exact keeps count act next ih
    | none =>
      -- Behind the last act nothing changes any more.
      have ended := List.getElem?_eq_none_iff.1 next
      rw [List.take_of_length_le ended] at ih
      rwa [List.take_of_length_le (Nat.le_succ_of_le ended)]

/-- A new host has an empty register and an empty address space. -/
theorem books_of_create {config : Config} {opened : String → Except Error Trace.Sink}
    {start : Host} (created : create config opened = .ok start) :
    start.registry = { limits := config.limits } ∧ start.space = {} ∧ start.nextSerial = 0 := by
  unfold create at created
  split at created
  · cases created
  · cases created
    exact ⟨rfl, rfl, rfl⟩

/-! Waking changes nothing but waits, and a granted request changes nothing at all. -/

theorem wakeSome_books (target : Target) (count : Nat) (host : Host) :
    (wakeSome target count host).registry = host.registry ∧
      (wakeSome target count host).space = host.space ∧
      (wakeSome target count host).nextSerial = host.nextSerial := by
  induction count generalizing host with
  | zero => exact ⟨rfl, rfl, rfl⟩
  | succ count ih =>
    have once : (host.wakeOne target).registry = host.registry ∧
        (host.wakeOne target).space = host.space ∧
        (host.wakeOne target).nextSerial = host.nextSerial := by
      unfold wakeOne
      split <;> exact ⟨rfl, rfl, rfl⟩
    have rest := ih (host.wakeOne target)
    exact ⟨rest.1.trans once.1, rest.2.1.trans once.2.1, rest.2.2.trans once.2.2⟩

@[simp] theorem adopt_registry (host : Host) (registry : Domain.Registry) :
    (host.adopt registry).registry = registry := (wakeSome_books _ _ _).1

@[simp] theorem adopt_space (host : Host) (registry : Domain.Registry) :
    (host.adopt registry).space = host.space := (wakeSome_books _ _ _).2.1

@[simp] theorem adopt_nextSerial (host : Host) (registry : Domain.Registry) :
    (host.adopt registry).nextSerial = host.nextSerial := (wakeSome_books _ _ _).2.2

theorem adopt_same (host : Host) : host.adopt host.registry = host := by
  simp [adopt, wakeSome]

/-- A thread may have bytes when its request is urgent or its domain keeps to its budget. -/
def Grants (host : Host) (thread : ThreadId) (bytes : Nat) (level : CriticalLevel) : Prop :=
  level.bypassesBudget = true ∨ host.registry.overBudget? thread bytes = none

theorem grant_eq_true {host after : Host} {thread : ThreadId} {bytes : Nat}
    {level : CriticalLevel} (granted : host.grant thread bytes level = (true, after)) :
    after = host ∧ host.Grants thread bytes level := by
  unfold grant at granted
  split at granted
  · next urgent =>
    cases granted
    exact ⟨rfl, .inl urgent⟩
  · unfold Domain.Registry.admitBytes at granted
    cases past : host.registry.overBudget? thread bytes with
    | some domain => simp [past] at granted
    | none =>
      simp only [past, Prod.mk.injEq, true_and] at granted
      exact ⟨granted.symm.trans host.adopt_same, .inr past⟩

theorem grant_of_grants {host : Host} {thread : ThreadId} {bytes : Nat} {level : CriticalLevel}
    (grants : host.Grants thread bytes level) : host.grant thread bytes level = (true, host) := by
  unfold grant
  split
  · rfl
  · next patient =>
    have admitted := grants.resolve_left patient
    simp only [Domain.Registry.admitBytes, admitted, adopt_same]

theorem grant_eq_false {host after : Host} {thread : ThreadId} {bytes : Nat}
    {level : CriticalLevel} (denied : host.grant thread bytes level = (false, after)) :
    (∃ events, after.registry = { host.registry with events }) ∧ after.space = host.space ∧
      after.nextSerial = host.nextSerial := by
  unfold grant at denied
  split at denied
  · cases denied
  · unfold Domain.Registry.admitBytes at denied
    cases past : host.registry.overBudget? thread bytes with
    | none => simp [past] at denied
    | some domain =>
      simp only [past, Prod.mk.injEq, true_and] at denied
      subst denied
      split
      · exact ⟨⟨_, adopt_registry _ _⟩, adopt_space _ _, adopt_nextSerial _ _⟩
      · exact ⟨⟨_, adopt_registry _ _⟩, adopt_space _ _, adopt_nextSerial _ _⟩

/-- The register after bytes were charged at an address, if there are any. -/
def chargedAt (host : Host) (thread : ThreadId) (bytes base : Nat) : Domain.Registry :=
  if bytes = 0 then host.registry else host.registry.charge thread bytes (.address base)

theorem chargeAt_books (host : Host) (thread : ThreadId) (bytes base : Nat) :
    (host.chargeAt thread bytes base).registry = host.chargedAt thread bytes base ∧
      (host.chargeAt thread bytes base).space = host.space ∧
      (host.chargeAt thread bytes base).nextSerial = host.nextSerial := by
  unfold chargeAt chargedAt
  split <;> exact ⟨rfl, rfl, rfl⟩

/-- What a request for memory can come to. -/
inductive Allocation (host : Host) (thread : ThreadId) (wanted : Option Nat) (size : Nat)
    (kind : AllocationKind) (protection : Protection) (level : CriticalLevel) :
    Except Error Nat → Host → Prop where
  | refused (error : Error) :
      Allocation host thread wanted size kind protection level (.error error) host
  | denied {bytes : Nat} {after : Host} (denied : host.grant thread bytes level = (false, after)) :
      Allocation host thread wanted size kind protection level (.error (.outOfMemory bytes)) after
  | reserved {base : Nat} {space : Space} (asked : size ≠ 0)
      (apart : ∀ address ∈ wanted, host.space.regionAt? address = none)
      (placed : host.space.place wanted (pageCeil size) = .ok (base, space))
      (reserves : kind.commit = false) :
      Allocation host thread wanted size kind protection level (.ok base)
        { host with space := space.insert (.reserve base (pageCeil size) protection) }
  | committedAnew {base : Nat} {space : Space} {region : Region} {range : Nat × Nat}
      (asked : size ≠ 0) (apart : ∀ address ∈ wanted, host.space.regionAt? address = none)
      (placed : host.space.place wanted (pageCeil size) = .ok (base, space))
      (new : region = .reserve base (pageCeil size) protection) (commits : kind.commit = true)
      (granted : host.Grants thread (pageCeil size) level)
      (within : region.pageRange base (pageCeil size) = .ok range) :
      Allocation host thread wanted size kind protection level (.ok base)
        ({ host with space := space.insert (region.commit range protection).2 }.chargeAt thread
          (region.commit range protection).1 base)
  | committedInPlace {address : Nat} {region : Region} {range : Nat × Nat} (asked : size ≠ 0)
      (wish : wanted = some address) (found : host.space.regionAt? address = some region)
      (commits : kind.commit = true) (within : region.pageRange address size = .ok range)
      (granted : region.uncommittedBytes range = 0 ∨
        host.Grants thread (region.uncommittedBytes range) level) :
      Allocation host thread wanted size kind protection level (.ok (pageFloor address))
        ({ host with space := host.space.insert (region.commit range protection).2 }.chargeAt
          thread (region.commit range protection).1 region.base)

namespace Allocation

variable {host : Host} {thread : ThreadId} {size : Nat} {kind : AllocationKind}
  {protection : Protection} {level : CriticalLevel}

theorem of_reserveAnew {wanted : Option Nat} (asked : size ≠ 0)
    (apart : ∀ address ∈ wanted, host.space.regionAt? address = none) :
    Allocation host thread wanted size kind protection level
      (host.reserveAnew thread wanted size kind protection level).1
      (host.reserveAnew thread wanted size kind protection level).2 := by
  simp only [Host.reserveAnew]
  split
  · next denial =>
    split at denial
    · exact .denied denial
    · cases denial
  · next after granted =>
    -- Whether it was asked for or not, the grant left the host as it was.
    have same : after = host ∧
        (kind.commit = true → host.Grants thread (pageCeil size) level) := by
      split at granted
      · obtain ⟨rfl, grants⟩ := grant_eq_true granted
        exact ⟨rfl, fun _ => grants⟩
      · next reserves =>
        cases granted
        exact ⟨rfl, fun commits => absurd commits reserves⟩
    obtain ⟨rfl, grants⟩ := same
    simp only [placeRegion]
    split
    · exact .refused _
    · next base space placed =>
      split
      · next commits =>
        split
        · exact .refused _
        · next within => exact .committedAnew asked apart placed rfl commits (grants commits) within
      · next reserves => exact .reserved asked apart placed (by simpa using reserves)

theorem of_commitInPlace {address : Nat} {region : Region} (asked : size ≠ 0)
    (found : host.space.regionAt? address = some region) (commits : kind.commit = true) :
    Allocation host thread (some address) size kind protection level
      (host.commitInPlace thread region address size protection level).1
      (host.commitInPlace thread region address size protection level).2 := by
  simp only [Host.commitInPlace]
  split
  · exact .refused _
  · next range within =>
    split
    · next denial =>
      split at denial
      · cases denial
      · exact .denied denial
    · next after granted =>
      have same : after = host ∧ (region.uncommittedBytes range = 0 ∨
          host.Grants thread (region.uncommittedBytes range) level) := by
        split at granted
        · next nothing =>
          cases granted
          exact ⟨rfl, .inl nothing⟩
        · obtain ⟨rfl, grants⟩ := grant_eq_true granted
          exact ⟨rfl, .inr grants⟩
      obtain ⟨rfl, grants⟩ := same
      exact .committedInPlace asked rfl found commits within grants

end Allocation

theorem allocation_virtualAlloc (host : Host) (thread : ThreadId) (wanted : Option Nat)
    (size : Nat) (kind : AllocationKind) (protection : Protection) (level : CriticalLevel) :
    Allocation host thread wanted size kind protection level
      (host.virtualAlloc thread wanted size kind protection level).1
      (host.virtualAlloc thread wanted size kind protection level).2 := by
  unfold virtualAlloc
  split
  · exact .refused _
  · next proper =>
    have asked : size ≠ 0 := fun empty => proper (.inl empty)
    split
    · exact .of_reserveAnew asked (by simp)
    · next address =>
      split
      · next missing => exact .of_reserveAnew asked (by simpa using missing)
      · next found =>
        split
        · next commits => exact .of_commitInPlace asked found commits
        · exact .refused _

/-- What an act can do to the register, the address space and the next serial number. -/
inductive Shift (host : Host) : Act → Domain.Registry → Space → Nat → Prop where
  /-- The act is refused or finds nothing to do; at most somebody gets a notice. -/
  | refused (act : Act) (events : Domain.EventQueue) :
      Shift host act { host.registry with events } host.space host.nextSerial
  | onDomains (operation : Domain.Operation) :
      Shift host (.onDomains operation) (host.registry.perform operation) host.space
        host.nextSerial
  | heapCreated (flags : HeapFlags) :
      Shift host (.createHeap flags) host.registry host.space (host.nextSerial + 1)
  | blockTaken {thread : ThreadId} {heap size : Nat} {level : CriticalLevel}
      (granted : host.Grants thread size level) :
      Shift host (.heapAlloc thread heap size level)
        (host.registry.charge thread size (.block host.nextSerial)) host.space
        (host.nextSerial + 1)
  | blockGiven (serial : Nat) :
      Shift host (.heapFree serial) (host.registry.release (.block serial)).2 host.space
        host.nextSerial
  | reserved {thread : ThreadId} {wanted : Option Nat} {size base : Nat} {kind : AllocationKind}
      {protection : Protection} {level : CriticalLevel} {space : Space} (asked : size ≠ 0)
      (placed : host.space.place wanted (pageCeil size) = .ok (base, space))
      (reserves : kind.commit = false) :
      Shift host (.virtualAlloc thread wanted size kind protection level) host.registry
        (space.insert (.reserve base (pageCeil size) protection)) host.nextSerial
  | committedAnew {thread : ThreadId} {wanted : Option Nat} {size base : Nat}
      {kind : AllocationKind} {protection : Protection} {level : CriticalLevel} {space : Space}
      {region : Region} {range : Nat × Nat} (asked : size ≠ 0)
      (placed : host.space.place wanted (pageCeil size) = .ok (base, space))
      (new : region = .reserve base (pageCeil size) protection) (commits : kind.commit = true)
      (granted : host.Grants thread (pageCeil size) level)
      (within : region.pageRange base (pageCeil size) = .ok range) :
      Shift host (.virtualAlloc thread wanted size kind protection level)
        (host.chargedAt thread (region.commit range protection).1 base)
        (space.insert (region.commit range protection).2) host.nextSerial
  | committedInPlace {thread : ThreadId} {address size : Nat} {kind : AllocationKind}
      {protection : Protection} {level : CriticalLevel} {region : Region} {range : Nat × Nat}
      (asked : size ≠ 0) (found : host.space.regionAt? address = some region)
      (commits : kind.commit = true) (within : region.pageRange address size = .ok range)
      (granted : region.uncommittedBytes range = 0 ∨
        host.Grants thread (region.uncommittedBytes range) level) :
      Shift host (.virtualAlloc thread (some address) size kind protection level)
        (host.chargedAt thread (region.commit range protection).1 region.base)
        (host.space.insert (region.commit range protection).2) host.nextSerial
  | decommitted {address size : Nat} {region : Region} {range : Nat × Nat}
      (found : host.space.region address = .ok region)
      (within : region.pageRange address size = .ok range) :
      Shift host (.virtualFree address size .decommit)
        (if (region.decommit range).1 = 0 then host.registry
          else (host.registry.releasePartial (.address region.base) (region.decommit range).1).2)
        (host.space.insert (region.decommit range).2) host.nextSerial
  | released {address : Nat} (present : host.space.hasBase address = true) :
      Shift host (.virtualFree address 0 .release) (host.registry.release (.address address)).2
        (host.space.remove address) host.nextSerial
  | reprotected {address size : Nat} {protection previous : Protection} {space : Space}
      (made : host.space.protect address size protection = .ok (previous, space)) :
      Shift host (.virtualProtect address size protection) host.registry space host.nextSerial
  | written {address : Nat} {data : List UInt8} {space : Space}
      (made : host.space.write address data = .ok space) :
      Shift host (.virtualWrite address data) host.registry space host.nextSerial
  | mapped (thread : ThreadId) (address size : Nat) :
      Shift host (.mapped thread address size)
        (host.registry.charge thread size (.address address)) host.space host.nextSerial
  | unmapped (address : Nat) :
      Shift host (.unmapped address) (host.registry.release (.address address)).2 host.space
        host.nextSerial

namespace Shift

variable {host : Host}

abbrev To (host : Host) (act : Act) (after : Host) : Prop :=
  Shift host act after.registry after.space after.nextSerial

theorem refl (act : Act) : To host act host := Shift.refused act host.registry.events

theorem of_denied {act : Act} {after : Host} {thread : ThreadId} {bytes : Nat}
    {level : CriticalLevel} (denied : host.grant thread bytes level = (false, after)) :
    To host act after := by
  obtain ⟨⟨events, registry⟩, space, serial⟩ := grant_eq_false denied
  rw [To, registry, space, serial]
  exact Shift.refused act events

theorem heapAlloc (thread : ThreadId) (heap size : Nat) (level : CriticalLevel) :
    To host (.heapAlloc thread heap size level) (host.heapAlloc thread heap size level).2 := by
  unfold Host.heapAlloc
  split
  · next denied => exact of_denied denied
  · next granted =>
    obtain ⟨rfl, grants⟩ := grant_eq_true granted
    split
    · exact refl _
    · exact Shift.blockTaken grants

theorem heapFree (serial : Nat) : To host (.heapFree serial) (host.heapFree serial) := by
  unfold Host.heapFree
  split
  · exact refl _
  · exact Shift.blockGiven serial

theorem virtualAlloc (thread : ThreadId) (wanted : Option Nat) (size : Nat)
    (kind : AllocationKind) (protection : Protection) (level : CriticalLevel) :
    To host (.virtualAlloc thread wanted size kind protection level)
      (host.virtualAlloc thread wanted size kind protection level).2 := by
  have made := host.allocation_virtualAlloc thread wanted size kind protection level
  generalize (host.virtualAlloc thread wanted size kind protection level).1 = outcome at made
  generalize (host.virtualAlloc thread wanted size kind protection level).2 = after at made ⊢
  cases made with
  | refused error => exact refl _
  | denied denial => exact of_denied denial
  | reserved asked apart placed reserves => exact Shift.reserved asked placed reserves
  | committedAnew asked apart placed new commits granted within =>
    obtain ⟨registry, space, serial⟩ := chargeAt_books _ thread _ _
    rw [To, registry, space, serial]
    exact Shift.committedAnew asked placed new commits granted within
  | committedInPlace asked wish found commits within granted =>
    subst wish
    obtain ⟨registry, space, serial⟩ := chargeAt_books _ thread _ _
    rw [To, registry, space, serial]
    exact Shift.committedInPlace asked found commits within granted

theorem virtualFree (address size : Nat) (kind : FreeKind) :
    To host (.virtualFree address size kind) (host.virtualFree address size kind).2 := by
  cases kind with
  | release =>
    simp only [Host.virtualFree]
    split
    · exact refl _
    · next unsized =>
      have unsized : size = 0 := by simpa using unsized
      subst unsized
      split
      · next present => exact Shift.released present
      · exact refl _
  | decommit =>
    simp only [Host.virtualFree]
    split
    · exact refl _
    · next found =>
      split
      · exact refl _
      · next within => exact Shift.decommitted found within

end Shift

theorem shift_perform (host : Host) (act : Act) : Shift.To host act (host.perform act) := by
  cases act with
  | onDomains operation =>
    simp only [Shift.To, perform, adopt_registry, adopt_space, adopt_nextSerial]
    exact Shift.onDomains operation
  | createHeap flags => exact Shift.heapCreated flags
  | heapAlloc thread heap size level => exact Shift.heapAlloc thread heap size level
  | heapFree serial => exact Shift.heapFree serial
  | virtualAlloc thread wanted size kind protection level =>
    exact Shift.virtualAlloc thread wanted size kind protection level
  | virtualFree address size kind => exact Shift.virtualFree address size kind
  | virtualProtect address size protection =>
    simp only [perform, virtualProtect]
    split
    · exact .refl _
    · next made => exact Shift.reprotected made
  | virtualWrite address data =>
    simp only [perform, virtualWrite]
    split
    · exact .refl _
    · next made => exact Shift.written made
  | mapped thread address size => exact Shift.mapped thread address size
  | unmapped address => exact Shift.unmapped address
  | watchMemory => exact .refl _

/-- Blocks are taken or given back. -/
def Act.shelves : Act → Bool
  | heapAlloc .. | heapFree .. => true
  | _ => false

/-- What an act does to the register is one turn of it: an operation that was asked for, one that
changes nothing, or a charge or release, which is at a block only if blocks are concerned. -/
theorem turn_shift {host : Host} {act : Act} {registry : Domain.Registry} {space : Space}
    {serial : Nat} (step : Shift host act registry space serial) :
    ∃ operation, Domain.Registry.Turn host.registry operation registry ∧
      (act = .onDomains operation ∨ operation = .rudeUnload ∨ ∃ site,
        operation.site? = some site ∧ (act.shelves = false → ∀ serial, site ≠ .block serial)) := by
  have nothing : Domain.Registry.Turn host.registry .rudeUnload host.registry :=
    .refl host.registry .rudeUnload
  have charged : ∀ thread bytes base, ∃ operation,
      Domain.Registry.Turn host.registry operation (host.chargedAt thread bytes base) ∧
      (operation = .rudeUnload ∨ operation.site? = some (.address base)) := by
    intro thread bytes base
    unfold chargedAt
    split
    · exact ⟨.rudeUnload, nothing, .inl rfl⟩
    · exact ⟨_, .charged thread bytes (.address base), .inr rfl⟩
  have atAddress : ∀ address, act.shelves = false → ∀ serial,
      Domain.Site.address address ≠ .block serial := fun _ _ _ same => by cases same
  cases step with
  | refused act events =>
    exact ⟨.rudeUnload, .aside _ events host.registry.zombies, .inr (.inl rfl)⟩
  | onDomains operation => exact ⟨operation, host.registry.turn_perform operation, .inl rfl⟩
  | blockTaken granted =>
    exact ⟨_, .charged _ _ _, .inr (.inr ⟨_, rfl, fun plain => by cases plain⟩)⟩
  | blockGiven serial => exact ⟨_, .released _, .inr (.inr ⟨_, rfl, fun plain => by cases plain⟩)⟩
  | committedAnew | committedInPlace =>
    obtain ⟨operation, turn, same | named⟩ := charged _ _ _
    · exact ⟨operation, turn, .inr (.inl same)⟩
    · exact ⟨operation, turn, .inr (.inr ⟨_, named, atAddress _⟩)⟩
  | decommitted found within =>
    split
    · exact ⟨.rudeUnload, nothing, .inr (.inl rfl)⟩
    · exact ⟨_, .credited _ _, .inr (.inr ⟨_, rfl, atAddress _⟩)⟩
  | released | unmapped => exact ⟨_, .released _, .inr (.inr ⟨_, rfl, atAddress _⟩)⟩
  | mapped thread address size => exact ⟨_, .charged _ _ _, .inr (.inr ⟨_, rfl, atAddress _⟩)⟩
  | heapCreated | reserved | reprotected | written =>
    exact ⟨.rudeUnload, nothing, .inr (.inl rfl)⟩

end Steward.Host
