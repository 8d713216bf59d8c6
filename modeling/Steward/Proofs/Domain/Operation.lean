import Steward.Domain.Ledger
import Steward.Domain.Threads

/-! Runs of operations on the register of domains. What one operation can do is said once, as a
turn of the register; what holds in every state of a run is shown turn by turn. -/

set_option autoImplicit false

namespace Steward.Domain

/-- What can be asked of the register. -/
inductive Operation where
  | create (domain : DomainId) (thread : ThreadId) (manager : String)
  | admitThread (parent : ThreadId)
  | acquireThread (parent child : ThreadId)
  | reserveThread (parent child : ThreadId)
  | releaseThread (thread : ThreadId)
  | unload (domain : DomainId)
  | rudeUnload
  | admitBytes (thread : ThreadId) (bytes : Nat)
  | charge (thread : ThreadId) (bytes : Nat) (site : Site)
  | release (site : Site)
  | releasePartial (site : Site) (bytes : Nat)
  | resetCounters (domain : DomainId)
  deriving DecidableEq

namespace Registry

/-- The outcome of a change, or the register as it was when the change is refused. -/
def orElse (registry : Registry) (made : Except Error Registry) : Registry :=
  match made with
  | .ok changed => changed
  | .error _ => registry

def perform (registry : Registry) : Operation → Registry
  | .create domain thread manager => registry.orElse (registry.create domain thread manager)
  | .admitThread parent => (registry.admitThread parent).2
  | .acquireThread parent child => registry.orElse (registry.acquireThread parent child)
  | .reserveThread parent child => (registry.reserveThread parent child).2
  | .releaseThread thread => registry.orElse ((registry.releaseThread thread).map Prod.snd)
  | .unload domain => registry.unload domain
  | .rudeUnload => registry.rudeUnload
  | .admitBytes thread bytes => (registry.admitBytes thread bytes).2
  | .charge thread bytes site => registry.charge thread bytes site
  | .release site => (registry.release site).2
  | .releasePartial site bytes => (registry.releasePartial site bytes).2
  | .resetCounters domain => registry.orElse (registry.resetCounters domain)

def run (registry : Registry) (operations : List Operation) : Registry :=
  operations.foldl perform registry

/-- A thread leaves its domain and is not counted there any more. -/
def leave (registry : Registry) (thread : ThreadId) : Registry :=
  { registry with
    domains := registry.uncount thread
    bindings := registry.bindings.erase thread }

/-- A new domain with its main thread in it. -/
def found (registry : Registry) (domain : DomainId) (thread : ThreadId) (manager : String) :
    Registry :=
  { registry with
    domains := (registry.uncount thread).insert domain ⟨thread, 1, 0, manager⟩
    bindings := registry.bindings.insert thread domain
    first := some (registry.first.getD (domain, manager)) }

/-- A domain's counter at zero, and its charges forgotten. -/
def forget (registry : Registry) (domain : DomainId) : Registry :=
  { registry with
    domains := registry.domains.modify domain fun record => { record with bytes := 0 }
    ledger := registry.ledger.filter fun _ entry => entry.domain ≠ some domain
    threadBytes := (registry.ledger.filter fun _ entry => entry.domain = some domain).values.foldl
      (fun totals entry => subThreadBytes totals entry.thread entry.bytes) registry.threadBytes }

/-- What an operation can do to the register. Notices and the count of forced unloads are on the
side; `domains`, `bindings` and the two books of bytes change in these ways only. -/
inductive Turn (registry : Registry) : Operation → Registry → Prop where
  | aside (operation : Operation) (events : EventQueue) (zombies : Nat) :
      Turn registry operation { registry with events, zombies }
  | founded {domain : DomainId} (thread : ThreadId) (manager : String)
      (fresh : registry.domains.get? domain = none) :
      Turn registry (.create domain thread manager) (registry.found domain thread manager)
  | acquired {domain : DomainId} {parent : ThreadId} (child : ThreadId)
      (bound : registry.bindings.get? parent = some domain)
      (live : registry.domains.contains domain = true) :
      Turn registry (.acquireThread parent child) (registry.bind domain child)
  | reserved {domain : DomainId} {parent : ThreadId} (child : ThreadId)
      (bound : registry.bindings.get? parent = some domain)
      (live : registry.domains.contains domain = true) :
      Turn registry (.reserveThread parent child) (registry.bind domain child)
  | left {thread : ThreadId} {domain : DomainId}
      (bound : registry.bindings.get? thread = some domain)
      (ordinary : ∀ record, (registry.leave thread).domains.get? domain = some record →
        record.mainThread ≠ thread) :
      Turn registry (.releaseThread thread) (registry.leave thread)
  | ended {thread : ThreadId} {domain : DomainId} {record : Record}
      (bound : registry.bindings.get? thread = some domain)
      (live : (registry.leave thread).domains.get? domain = some record)
      (main : record.mainThread = thread) :
      Turn registry (.releaseThread thread) ((registry.leave thread).drop domain)
  | unloaded {domain : DomainId} (live : registry.domains.contains domain = true)
      (events : EventQueue) :
      Turn registry (.unload domain) { registry.drop domain with events }
  | charged (thread : ThreadId) (bytes : Nat) (site : Site) :
      Turn registry (.charge thread bytes site) (registry.charge thread bytes site)
  | released (site : Site) : Turn registry (.release site) (registry.release site).2
  | credited (site : Site) (bytes : Nat) :
      Turn registry (.releasePartial site bytes) (registry.releasePartial site bytes).2
  | forgotten {domain : DomainId} (live : registry.domains.contains domain = true) :
      Turn registry (.resetCounters domain) (registry.forget domain)

theorem Turn.refl (registry : Registry) (operation : Operation) :
    Turn registry operation registry :=
  .aside operation registry.events registry.zombies

theorem release_eq_releasePartial (registry : Registry) (site : Site) :
    registry.release site =
      registry.releasePartial site (((registry.ledger.get? site).map Charge.bytes).getD 0) := by
  unfold release releasePartial
  cases registry.ledger.get? site with
  | none => rfl
  | some entry => simp

theorem turn_create (registry : Registry) (domain : DomainId) (thread : ThreadId)
    (manager : String) :
    Turn registry (.create domain thread manager)
      (registry.orElse (registry.create domain thread manager)) := by
  unfold create
  split
  · exact .refl registry _
  · next fresh => exact .founded thread manager (by simpa [Assoc.contains] using fresh)

theorem turn_acquireThread (registry : Registry) (parent child : ThreadId) :
    Turn registry (.acquireThread parent child)
      (registry.orElse (registry.acquireThread parent child)) := by
  unfold acquireThread
  split
  · exact .refl registry _
  · next domain bound =>
    split
    · next live => exact .acquired child bound live
    · exact .refl registry _

theorem turn_reserveThread (registry : Registry) (parent child : ThreadId) :
    Turn registry (.reserveThread parent child) (registry.reserveThread parent child).2 := by
  unfold reserveThread
  split
  · exact .refl registry _
  · next domain bound =>
    split
    · exact .aside _ _ registry.zombies
    · split
      · next live => exact .reserved child bound live
      · exact .refl registry _

theorem turn_releaseThread (registry : Registry) (thread : ThreadId) :
    Turn registry (.releaseThread thread)
      (registry.orElse ((registry.releaseThread thread).map Prod.snd)) := by
  unfold releaseThread
  split
  · exact .refl registry _
  · next domain bound =>
    dsimp only
    split
    · next gone =>
      exact .left bound fun record present => absurd (gone.symm.trans present) (by simp)
    · next record live =>
      split
      · next main => exact .ended bound live main
      · next ordinary =>
        refine .left bound fun other present => ?_
        cases Option.some.inj (live.symm.trans present)
        exact ordinary

theorem turn_unload (registry : Registry) (domain : DomainId) :
    Turn registry (.unload domain) (registry.unload domain) := by
  unfold unload
  split
  · next live => exact .unloaded live _
  · exact .refl registry _

theorem turn_resetCounters (registry : Registry) (domain : DomainId) :
    Turn registry (.resetCounters domain)
      (registry.orElse (registry.resetCounters domain)) := by
  unfold resetCounters
  split
  · next live => exact .forgotten live
  · exact .refl registry _

theorem turn_perform (registry : Registry) (operation : Operation) :
    Turn registry operation (registry.perform operation) := by
  cases operation with
  | create domain thread manager => exact registry.turn_create domain thread manager
  | admitThread parent =>
    simp only [perform, admitThread]
    split
    · exact .aside _ _ registry.zombies
    · exact .refl registry _
  | acquireThread parent child => exact registry.turn_acquireThread parent child
  | reserveThread parent child => exact registry.turn_reserveThread parent child
  | releaseThread thread => exact registry.turn_releaseThread thread
  | unload domain => exact registry.turn_unload domain
  | rudeUnload => exact .aside _ registry.events _
  | admitBytes thread bytes =>
    simp only [perform, admitBytes]
    split
    · exact .aside _ _ registry.zombies
    · exact .refl registry _
  | charge thread bytes site => exact .charged thread bytes site
  | release site => exact .released site
  | releasePartial site bytes => exact .credited site bytes
  | resetCounters domain => exact registry.turn_resetCounters domain

/-- What holds at first and is kept by every turn holds in every state of a run. -/
theorem run_induction {holds : Registry → Prop}
    (keeps : ∀ before operation after, Turn before operation after → holds before → holds after)
    (start : Registry)
    (initial : holds start) (operations : List Operation) : holds (start.run operations) := by
  induction operations generalizing start with
  | nil => exact initial
  | cons operation rest ih =>
    exact ih (start.perform operation) (keeps _ _ _ (start.turn_perform operation) initial)

/-- The register behind the first operations of a run. -/
def reached (start : Registry) (operations : List Operation) (count : Nat) : Registry :=
  start.run (operations.take count)

theorem reached_succ (start : Registry) {operations : List Operation} {count : Nat}
    {operation : Operation} (next : operations[count]? = some operation) :
    start.reached operations (count + 1) = (start.reached operations count).perform operation := by
  simp [reached, run, List.take_add_one, next]

/-- Behind the last operation nothing changes any more. -/
theorem reached_ended (start : Registry) {operations : List Operation} {count : Nat}
    (ended : operations[count]? = none) :
    start.reached operations (count + 1) = start.reached operations count := by
  have short := List.getElem?_eq_none_iff.1 ended
  rw [reached, reached, List.take_of_length_le short,
    List.take_of_length_le (Nat.le_succ_of_le short)]

/-- What holds at first and is kept by every operation of a run holds in every state of it. -/
theorem reached_induction {holds : Registry → Prop} {start : Registry}
    {operations : List Operation} (initial : holds start)
    (keeps : ∀ count operation, operations[count]? = some operation →
      holds (start.reached operations count) →
      holds ((start.reached operations count).perform operation)) (count : Nat) :
    holds (start.reached operations count) := by
  induction count with
  | zero => exact initial
  | succ count ih =>
    cases next : operations[count]? with
    | some operation =>
      rw [reached_succ start next]
      exact keeps count operation next ih
    | none =>
      rw [reached_ended start next]
      exact ih

end Registry

end Steward.Domain
