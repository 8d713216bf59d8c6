import Steward.Proofs.Domain.Denial
import Steward.Proofs.Host.Placement
import Steward.Proofs.Host.Rousing
import Steward.Proofs.Memory.Touching

/-! A memory operation that fails changes nothing. A request that is denied for want of budget
leaves a notice of the domain and tells the embedder; any other error leaves no trace at all. -/

set_option autoImplicit false

namespace Steward.Memory

/-- The whole of a new reservation is within it, so that nothing can fail behind its placement. -/
theorem Region.exists_pageRange_reserve {base size : Nat} (aligned : pageSize ∣ base)
    (asked : size ≠ 0) (fits : base + pageCeil size ≤ Word.top) (protection : Protection) :
    ∃ range, (reserve base (pageCeil size) protection).pageRange base (pageCeil size) =
      .ok range := by
  have long := pageSize_le_pageCeil asked
  have limit : (reserve base (pageCeil size) protection).limit = base + pageCeil size := by
    rw [Region.limit, size_reserve, pageCeil_pageCeil, base_reserve]
  have inside : (reserve base (pageCeil size) protection).contains base = true := by
    rw [contains_iff, limit, base_reserve]
    unfold pageSize at long
    omega
  have positive : 0 < pageCeil size := by
    unfold pageSize at long
    omega
  -- Past the last page boundary the range is cut short, up to there it ends where the reservation
  -- does.
  rw [pageRange_eq (by simpa using aligned) positive inside]
  split
  · exact ⟨_, rfl⟩
  · rw [if_pos (Nat.le_of_eq limit.symm)]
    exact ⟨_, rfl⟩

/-- A wish that is granted leaves the mark where it is. -/
theorem Space.eq_of_place_wanted {space after : Space} {wanted : Option Nat} {size base : Nat}
    (placed : space.place wanted size = .ok (base, after)) (wish : wanted ≠ none) :
    after = space := by
  cases wanted with
  | none => exact absurd rfl wish
  | some address =>
    simp only [place] at placed
    split at placed
    · cases placed
      rfl
    · cases placed

end Steward.Memory

namespace Steward.Host

open Memory

/-- The error of an outcome, if it is one. -/
def failure? {Value : Type} : Except Error Value → Option Error
  | .ok _ => none
  | .error error => some error

theorem failure?_eq_some {Value : Type} {outcome : Except Error Value} {error : Error} :
    failure? outcome = some error ↔ outcome = .error error := by
  cases outcome <;> simp [failure?]

/-- The error that a memory operation gives, if it fails. -/
def Act.failure? (host : Host) : Act → Option Error
  | heapAlloc thread heap size level =>
      Host.failure? (host.heapAlloc thread heap size level).1
  | virtualAlloc thread wanted size kind protection level =>
      Host.failure? (host.virtualAlloc thread wanted size kind protection level).1
  | virtualFree address size kind => Host.failure? (host.virtualFree address size kind).1
  | virtualProtect address size protection =>
      Host.failure? (host.virtualProtect address size protection).1
  | virtualWrite address data => Host.failure? (host.virtualWrite address data).1
  | _ => none

/-- The thread whose budget a request goes by. -/
def Act.asker? : Act → Option ThreadId
  | heapAlloc thread .. | virtualAlloc thread .. => some thread
  | _ => none

/-- A domain is denied bytes: it gets a notice, and the embedder is told if it wants to be. -/
def deny (host : Host) (thread : ThreadId) (domain : DomainId) (bytes : Nat) : Host :=
  { host with
    registry := host.registry.post ⟨.outOfMemory, domain, some thread⟩
    notes := host.notes ++ if host.memoryWatched then [.lowMemory thread bytes] else [] }

/-- What a failed operation leaves behind: the host as it was or, for want of budget, with the
denial of the asker's domain. Threads that wait for notices may be woken by it. -/
inductive Refusal (host : Host) : Option ThreadId → Error → Host → Prop where
  | untouched (asker : Option ThreadId) (error : Error) : Refusal host asker error host
  | denied {thread : ThreadId} {domain : DomainId} {bytes : Nat} {after : Host}
      (bound : host.registry.bindings.get? thread = some domain)
      (rouses : Rouses (host.deny thread domain bytes) after) :
      Refusal host (some thread) (.outOfMemory bytes) after

section
variable {host after : Host} {thread : ThreadId} {bytes : Nat} {error : Error}

theorem Refusal.of_grant {level : CriticalLevel}
    (denied : host.grant thread bytes level = (false, after)) :
    Refusal host (some thread) (.outOfMemory bytes) after := by
  unfold grant at denied
  split at denied
  · cases denied
  · unfold Domain.Registry.admitBytes at denied
    cases past : host.registry.overBudget? thread bytes with
    | none => simp [past] at denied
    | some domain =>
      simp only [past, Prod.mk.injEq, true_and] at denied
      obtain ⟨woken, roused⟩ :=
        host.rouses_adopt (host.registry.post ⟨.outOfMemory, domain, some thread⟩)
      refine .denied (Domain.Registry.of_overBudget? past).1 ⟨woken, ?_⟩
      -- Telling the embedder and waking readers do not get in each other's way.
      rw [← denied, roused]
      by_cases watched : host.memoryWatched = true
      · simp [rouse, tell, deny, watched]
      · simp [rouse, deny, watched]

theorem Refusal.heapAlloc {heap size : Nat} {level : CriticalLevel}
    (failed : host.heapAlloc thread heap size level = (.error error, after)) :
    Refusal host (some thread) error after := by
  unfold Host.heapAlloc at failed
  split at failed
  · next denied =>
    cases failed
    exact of_grant denied
  · next granted =>
    obtain ⟨rfl, _⟩ := grant_eq_true granted
    split at failed
    · cases failed
      exact .untouched _ _
    · cases failed

theorem Refusal.virtualAlloc {wanted : Option Nat} {size : Nat} {kind : AllocationKind}
    {protection : Protection} {level : CriticalLevel}
    (failed : host.virtualAlloc thread wanted size kind protection level =
      (.error error, after)) : Refusal host (some thread) error after := by
  have made := host.allocation_virtualAlloc thread wanted size kind protection level
  rw [failed] at made
  cases made with
  | refused => exact .untouched _ _
  | denied denial => exact of_grant denial

/-! Operations that ask for nothing leave the host as it is. -/

theorem virtualFree_of_error {address size : Nat} {kind : FreeKind}
    (failed : (host.virtualFree address size kind).1 = .error error) :
    (host.virtualFree address size kind).2 = host := by
  cases kind with
  | release =>
    simp only [virtualFree] at failed ⊢
    split
    · rfl
    · next unsized =>
      rw [if_neg unsized] at failed
      split
      · next present =>
        rw [if_pos present] at failed
        cases failed
      · rfl
  | decommit =>
    simp only [virtualFree] at failed ⊢
    split
    · rfl
    · next found =>
      simp only [found] at failed
      split
      · rfl
      · next within =>
        simp only [within] at failed
        cases failed

theorem virtualProtect_of_error {address size : Nat} {protection : Protection}
    (failed : (host.virtualProtect address size protection).1 = .error error) :
    (host.virtualProtect address size protection).2 = host := by
  unfold virtualProtect at failed ⊢
  split
  · rfl
  · next made =>
    simp only [made] at failed
    cases failed

theorem virtualWrite_of_error {address : Nat} {data : List UInt8}
    (failed : (host.virtualWrite address data).1 = .error error) :
    (host.virtualWrite address data).2 = host := by
  unfold virtualWrite at failed ⊢
  split
  · rfl
  · next made =>
    simp only [made] at failed
    cases failed

end

theorem refusal_perform {host : Host} {act : Act} {error : Error}
    (failed : act.failure? host = some error) :
    Refusal host act.asker? error (host.perform act) := by
  cases act with
  | heapAlloc thread heap size level =>
    exact .heapAlloc (Prod.ext (failure?_eq_some.1 failed) rfl)
  | virtualAlloc thread wanted size kind protection level =>
    exact .virtualAlloc (Prod.ext (failure?_eq_some.1 failed) rfl)
  | virtualFree address size kind =>
    rw [perform, virtualFree_of_error (failure?_eq_some.1 failed)]
    exact .untouched _ _
  | virtualProtect address size protection =>
    rw [perform, virtualProtect_of_error (failure?_eq_some.1 failed)]
    exact .untouched _ _
  | virtualWrite address data =>
    rw [perform, virtualWrite_of_error (failure?_eq_some.1 failed)]
    exact .untouched _ _
  | _ => cases failed

/-- In every state of a run, an operation on memory that gives an error leaves the host as it was.
Only if the error is that memory ran out may it be otherwise, and then all that is new is one notice
of the domain of the asker, which may wake threads that wait for notices, and one word to the
embedder if it wants to hear of it. Once a place was found for a reservation, a wish has not moved
the mark, and up to the largest word there is no error left to come. -/
theorem unchanged_of_failure {config : Config} {opened : String → Except Error Trace.Sink}
    {start : Host} (created : create config opened = .ok start) (acts : List Act) :
    let before := start.run acts
    (∀ act error, act.failure? before = some error →
      before.perform act = before ∨ ∃ thread domain bytes, act.asker? = some thread ∧
        error = .outOfMemory bytes ∧ before.registry.bindings.get? thread = some domain ∧
        Rouses (before.deny thread domain bytes) (before.perform act)) ∧
    ∀ wanted size base space protection, size ≠ 0 →
      before.space.place wanted (pageCeil size) = .ok (base, space) →
      (wanted ≠ none → space = before.space) ∧ (base + pageCeil size ≤ Word.top → ∃ range,
        (Region.reserve base (pageCeil size) protection).pageRange base (pageCeil size) =
          .ok range) := by
  constructor
  · intro act error failed
    have refusal := refusal_perform failed
    generalize (start.run acts).perform act = after at refusal ⊢
    generalize act.asker? = asker at refusal ⊢
    cases refusal with
    | untouched => exact .inl rfl
    | denied bound rouses => exact .inr ⟨_, _, _, rfl, rfl, bound, rouses⟩
  · intro wanted size base space protection asked placed
    refine ⟨Space.eq_of_place_wanted placed, fun fits => ?_⟩
    have aligned := ((laid_run created acts).clear_of_place placed).1
    exact Region.exists_pageRange_reserve (pageSize_dvd_of_granularity aligned) asked fits
      protection

/-- A domain with a budget of one page and a half has the first of two reserved pages committed. -/
def tightBudget : List Act :=
  [.watchMemory, .onDomains (.create ⟨1⟩ ⟨1⟩ "tight"),
    .virtualAlloc ⟨1⟩ none 0x2000 ⟨false, true⟩ .readWrite .task,
    .virtualAlloc ⟨1⟩ (some 0x10000000) 1 ⟨true, false⟩ .readWrite .task]

/-- The second page is denied with a notice and a word. A write that runs on to it is refused in
silence and leaves the first page alone. -/
theorem unchanged_tightBudget :
    ∃ start, create { limits := ⟨0, 0x1800⟩ } (fun _ => .ok (.memory 0 [])) = .ok start ∧
      let before := start.run tightBudget
      let commit := .virtualAlloc ⟨1⟩ (some 0x10000800) 0x1000 ⟨true, false⟩ .readWrite .task
      let write := .virtualWrite 0x10000fff [1, 2]
      Act.failure? before commit = some (.outOfMemory 0x1000) ∧
      Rouses (before.deny ⟨1⟩ ⟨1⟩ 0x1000) (before.perform commit) ∧
      Act.failure? before write = some (.invalidArgument (.uncommittedAccess 0x10001000)) ∧
      before.perform write = before := by
  obtain ⟨start, created, denied, told, bound, refused⟩ :
      ∃ start, create { limits := ⟨0, 0x1800⟩ } (fun _ => .ok (.memory 0 [])) = .ok start ∧
        Act.failure? (start.run tightBudget)
          (.virtualAlloc ⟨1⟩ (some 0x10000800) 0x1000 ⟨true, false⟩ .readWrite .task) =
            some (.outOfMemory 0x1000) ∧
        ((start.run tightBudget).perform
          (.virtualAlloc ⟨1⟩ (some 0x10000800) 0x1000 ⟨true, false⟩ .readWrite .task)).notes ≠
            (start.run tightBudget).notes ∧
        (start.run tightBudget).registry.bindings.get? ⟨1⟩ = some ⟨1⟩ ∧
        Act.failure? (start.run tightBudget) (.virtualWrite 0x10000fff [1, 2]) =
          some (.invalidArgument (.uncommittedAccess 0x10001000)) :=
    ⟨_, rfl, by decide +kernel, by decide +kernel, by decide +kernel, by decide +kernel⟩
  have unchanged := (unchanged_of_failure created tightBudget).1
  refine ⟨start, created, denied, ?_, refused, ?_⟩
  · obtain same | ⟨thread, domain, bytes, asks, out, home, rouses⟩ := unchanged _ _ denied
    · rw [same] at told
      exact absurd rfl told
    · cases asks
      cases out
      rw [bound] at home
      cases home
      exact rouses
  · obtain same | ⟨_, _, _, asks, _⟩ := unchanged _ _ refused
    · exact same
    · cases asks

end Steward.Host
