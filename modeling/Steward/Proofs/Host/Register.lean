import Steward.Proofs.Domain.Cap
import Steward.Proofs.Domain.Headcount
import Steward.Proofs.Host.Call
import Steward.Proofs.Host.Turns

/-! Runs in which threads call the host and act on its memory. Whatever happens, the register stays
as it is, or one operation is asked of it, or its queue of notices is posted to, purged or
polled. -/

set_option autoImplicit false

namespace Steward.Host

/-- What happens to a host: a call, or an act on its domains and its memory. -/
inductive Doing where
  | call (call : Call)
  | act (act : Act)

def undergo (host : Host) : Doing → Host
  | .call call => host.heed call
  | .act act => host.perform act

/-- The host behind the first doings of a run. -/
def undergone (start : Host) (doings : List Doing) (count : Nat) : Host :=
  (doings.take count).foldl undergo start

theorem undergone_succ (start : Host) {doings : List Doing} {count : Nat} {doing : Doing}
    (next : doings[count]? = some doing) :
    start.undergone doings (count + 1) = (start.undergone doings count).undergo doing := by
  simp [undergone, List.take_add_one, next]

/-- What holds at first and is kept by whatever happens holds after any part of a run. -/
theorem undergone_induction {holds : Host → Prop} {start : Host} (initial : holds start)
    (keeps : ∀ host doing, holds host → holds (host.undergo doing)) (doings : List Doing)
    (count : Nat) : holds (start.undergone doings count) := by
  unfold undergone
  induction doings.take count generalizing start with
  | nil => exact initial
  | cons doing rest ih => exact ih (keeps start doing initial)

/-- The thread that an operation unbinds, if it is asked to. -/
def unbound? : Domain.Operation → Option ThreadId
  | .releaseThread thread => some thread
  | _ => none

/-- The thread that is unbound, if one is: at a call, or on its way out. -/
def Doing.releases? (host : Host) : Doing → Option ThreadId
  | .call (.onDomains (.releaseThread thread)) | .call (.releaseThread thread)
  | .act (.onDomains (.releaseThread thread)) => some thread
  | .call (.depart thread) =>
      if host.leaving.get? thread = some .unbinding then some thread else none
  | _ => none

/-- What a doing does to the register. -/
inductive Writes (host : Host) (doing : Doing) : Domain.Registry → Prop where
  | spared : Writes host doing host.registry
  | asked (operation : Domain.Operation)
      (release : ∀ thread, operation = .releaseThread thread →
        doing.releases? host = some thread) :
      Writes host doing (host.registry.perform operation)
  | posted {event : Domain.Event} (given : doing = .call (.post event)) :
      Writes host doing (host.registry.post event)
  | purged (domain : DomainId) :
      Writes host doing { host.registry with events := (host.registry.events.purge domain).2 }
  | polled {event : Domain.Event} {left : Domain.EventQueue}
      (taken : host.registry.events.poll? = some (event, left)) :
      Writes host doing { host.registry with events := left }

variable {host after : Host}

theorem Writes.quietly {doing : Doing} (operation : Domain.Operation)
    (quiet : unbound? operation = none) : Writes host doing (host.registry.perform operation) := by
  refine .asked operation fun thread same => ?_
  rw [same] at quiet
  cases quiet

theorem Writes.of_same {doing : Doing} (same : after.registry = host.registry) :
    Writes host doing after.registry := same ▸ .spared

/-! ### Calls that leave the register alone -/

theorem wakeOne_registry (host : Host) (target : Target) :
    (host.wakeOne target).registry = host.registry := (wakeSome_books target 1 host).1

theorem alert_registry (host : Host) (thread : ThreadId) :
    (host.alert thread).registry = host.registry := by
  unfold alert
  simp only
  split
  · split <;> rfl
  · rfl

theorem moveGate_registry (host : Host) (thread : ThreadId) (gate : Tasks.Gate) :
    (host.moveGate thread gate).2.registry = host.registry := by
  unfold moveGate
  split <;> rfl

theorem startTask_registry (host : Host) (serial : Nat) :
    (host.startTask serial).2.registry = host.registry := by
  have moved := host.moveGate_registry (host.task serial).thread .running
  unfold startTask
  simp only
  split <;> next made => rwa [made] at moved

theorem removeTask_registry (host : Host) (thread : ThreadId) :
    (host.removeTask thread).2.registry = host.registry := by
  unfold removeTask
  simp only
  split
  · exact moveGate_registry { host with tasks := (host.tasks.remove thread).2 } _ _
  · rfl

theorem setPriority_registry (host : Host) (caller : ThreadId) (serial : Nat) (level : Int) :
    (host.setPriority caller serial level).2.registry = host.registry := by
  unfold setPriority
  split
  · rfl
  · next verdict _ => cases verdict <;> rfl

theorem setSignal_registry (host : Host) (serial : Nat) :
    (host.setSignal serial).registry = host.registry := by
  unfold setSignal
  split
  · rfl
  · simp only
    split
    · rfl
    · exact wakeOne_registry _ _

theorem setMonitor_registry (host : Host) (thread : ThreadId) (serial : Nat) (cookie : Cookie) :
    (host.setMonitor thread serial cookie).registry = host.registry :=
  host.setSignal_registry serial

theorem askOwner_registry (host : Host) (asker : ThreadId) (cookie : Cookie) :
    (askOwner asker cookie host).2.registry = host.registry := by
  unfold askOwner
  simp only
  split
  · rw [setMonitor_registry]
    split <;> rfl
  · split <;> rfl

theorem detect_registry (host : Host) (asker thread : ThreadId) (cookie : Cookie) :
    (host.detect asker thread cookie).2.registry = host.registry := by
  unfold detect
  split
  · have kept : ∀ world : Host, world.registry = host.registry → ∀ other,
        (askOwner asker other world).2.registry = host.registry :=
      fun world same other => (world.askOwner_registry asker other).trans same
    exact @Deadlock.Oracle.follow_keeps Host (oracle asker) _ kept _ _ rfl
  · rfl

theorem tryEnter_registry (host : Host) (asker thread : ThreadId) (cookie : Cookie) :
    (host.tryEnter asker thread cookie).2.registry = host.registry :=
  detect_registry { host with detector := host.detector.register thread cookie } asker thread cookie

theorem sliceOver_registry (host : Host) (thread : ThreadId) (wait : Wait) (cookie : Cookie)
    (backoff : Deadlock.Backoff) :
    (host.sliceOver thread wait cookie backoff).2.registry = host.registry := by
  have looked := host.tryEnter_registry thread thread cookie
  unfold sliceOver
  simp only
  split
  · exact looked
  · split <;> exact looked

theorem noteAcquired_registry (host : Host) (thread : ThreadId) (cookie : Cookie)
    (ending : Ending) : (host.noteAcquired thread cookie ending).registry = host.registry := by
  unfold noteAcquired
  split <;> rfl

theorem conclude_registry (host : Host) (thread : ThreadId) (wait : Wait) (ending : Ending) :
    (host.conclude thread wait ending).2.registry = host.registry := by
  unfold conclude
  split
  · rfl
  · rfl
  · exact host.noteAcquired_registry thread _ ending
  · split
    · exact host.sliceOver_registry thread wait _ _
    · exact (host.endEnter thread).noteAcquired_registry thread _ ending
  · split <;> rfl
  · rfl

theorem releaseSemaphore_registry (host : Host) (serial slots : Nat)
    (semaphore : Sync.Semaphore) :
    (host.releaseSemaphore serial slots semaphore).2.registry = host.registry := by
  unfold releaseSemaphore
  split
  · rfl
  · exact (wakeSome_books _ _ _).1

theorem leaveLock_registry (host : Host) (thread : ThreadId) (serial : Nat)
    (lock : Sync.CriticalSection) :
    (host.leaveLock thread serial lock).2.registry = host.registry := by
  unfold leaveLock
  split
  · rfl
  · simp only
    split
    · exact wakeOne_registry _ _
    · rfl

theorem whenIdle_registry (host : Host) (thread : ThreadId) {begun : Host}
    (same : begun.registry = host.registry) :
    (host.whenIdle thread begun).registry = host.registry := by
  unfold whenIdle
  split
  · exact same
  · rfl

/-! ### Calls that write -/

theorem releaseThread_registry (host : Host) (thread : ThreadId) :
    (host.releaseThread thread).2.registry = host.registry.perform (.releaseThread thread) := by
  have performed : host.registry.perform (.releaseThread thread) =
    host.registry.orElse ((host.registry.releaseThread thread).map Prod.snd) := rfl
  rw [performed]
  unfold releaseThread
  split
  · next failed =>
    rw [failed]
    rfl
  · next made =>
    rw [made]
    exact adopt_registry host _
  · next made =>
    rw [made]
    exact adopt_registry host _

theorem createTask_registry (host : Host) (parent : ThreadId) :
    (host.createTask parent).2.registry =
      host.registry.perform (.reserveThread parent ⟨host.nextThread⟩) := by
  rcases made : host.registry.reserveThread parent ⟨host.nextThread⟩ with ⟨outcome, registry⟩
  cases outcome with
  | error error => simp [createTask, addThread, Domain.Registry.perform, made]
  | ok value => simp [createTask, addThread, startWait, Domain.Registry.perform, made]

/-- At most one notice is taken. -/
inductive Polls (before after : Domain.Registry) : Prop where
  | nothing (same : after = before)
  | notice {event : Domain.Event} {left : Domain.EventQueue}
      (taken : before.events.poll? = some (event, left))
      (made : after = { before with events := left })

theorem Takes.polls {thread : ThreadId} {target : Target} {ending : Ending}
    (takes : Takes host thread target ending after) : Polls host.registry after.registry := by
  cases takes with
  | notice taken => exact .notice taken rfl
  | signal | semaphore | lock | passed => exact .nothing rfl

theorem polls_attempt (host : Host) (thread : ThreadId) (wait : Wait) :
    Polls host.registry (host.attempt thread wait).2.registry := by
  have passed : ∀ (host : Host) target, (host.passOn target).registry = host.registry := by
    intro host target
    unfold passOn
    split
    · split
      · exact wakeOne_registry _ _
      · rfl
    · rfl
  unfold attempt look
  split
  · exact .nothing (passed _ _)
  · split
    · next taken => exact (takes_of_take? taken).polls
    · split
      · exact .nothing rfl
      · split <;> exact .nothing rfl

theorem polls_turn (host : Host) (thread : ThreadId) :
    Polls host.registry (host.turn thread).2.registry := by
  unfold turn
  split
  · exact .nothing rfl
  · next wait _ =>
    split
    · exact .nothing rfl
    · have tried := polls_attempt (host.away thread) thread wait
      unfold away at tried
      split
      · next looked =>
        rw [looked] at tried
        rwa [conclude_registry]
      · next looked =>
        rw [looked] at tried
        exact tried

theorem writes_depart (host : Host) (thread : ThreadId) :
    Writes host (.call (.depart thread)) (host.depart thread).registry := by
  unfold depart
  split
  · exact .spared
  · next stage =>
    change Writes host _ (host.releaseThread thread).2.registry
    rw [releaseThread_registry]
    refine .asked _ fun other same => ?_
    cases same
    simp [Doing.releases?, stage]
  · exact .of_same (host.removeTask_registry thread)
  · exact .spared

theorem writes_heed (host : Host) (call : Call) :
    Writes host (.call call) (host.heed call).registry := by
  cases call with
  | onDomains operation =>
    rw [heed, adopt_registry]
    refine .asked operation fun thread same => ?_
    rw [same]
    rfl
  | post event =>
    rw [heed, adopt_registry]
    exact .posted rfl
  | purge domain =>
    rw [heed, adopt_registry]
    exact .purged domain
  | escalate action =>
    simp only [heed, escalated]
    split
    · exact .quietly .rudeUnload rfl
    · exact .spared
  | hear event =>
    cases event with
    | domainUnloaded domain =>
      simp only [heed, onRuntimeEvent, adopt_registry]
      exact .quietly (.unload domain) rfl
    | disabled | assistantFired | stackOverflow => exact .spared
  | createTask parent =>
    rw [heed, createTask_registry]
    exact .quietly _ rfl
  | releaseThread thread =>
    rw [heed, releaseThread_registry]
    refine .asked _ fun other same => ?_
    cases same
    rfl
  | depart thread => exact host.writes_depart thread
  | turn thread =>
    cases host.polls_turn thread with
    | nothing same => exact .of_same same
    | notice taken made => exact made ▸ .polled taken
  | startTask serial => exact .of_same (host.startTask_registry serial)
  | removeTask thread => exact .of_same (host.removeTask_registry thread)
  | setPriority caller serial level =>
    exact .of_same (host.setPriority_registry caller serial level)
  | alert thread => exact .of_same (host.alert_registry thread)
  | setSignal serial => exact .of_same (host.setSignal_registry serial)
  | setMonitor thread serial cookie =>
    exact .of_same (host.setMonitor_registry thread serial cookie)
  | tryEnter asker thread cookie => exact .of_same (host.tryEnter_registry asker thread cookie)
  | detect asker thread cookie => exact .of_same (host.detect_registry asker thread cookie)
  | wait thread | sleep thread | shutdown thread =>
    exact .of_same (host.whenIdle_registry thread rfl)
  | monitorWait thread serial cookie timeout options =>
    exact .of_same (host.whenIdle_registry thread
      (host.startMonitorWait_registry thread serial cookie timeout options))
  | releaseSemaphore serial slots =>
    refine .of_same ?_
    simp only [heed]
    split
    · exact host.releaseSemaphore_registry serial slots _
    · rfl
  | leaveLock thread serial =>
    refine .of_same ?_
    simp only [heed]
    split
    · exact host.leaveLock_registry thread serial _
    · rfl
  | setLogical | tryLock =>
    refine .of_same ?_
    simp only [heed]
    split <;> rfl
  | _ => exact .spared

/-! ### Acts -/

theorem writes_denied {doing : Doing} {thread : ThreadId} {bytes : Nat}
    {level : Memory.CriticalLevel} (denied : host.grant thread bytes level = (false, after)) :
    Writes host doing after.registry := by
  have asked : after.registry = host.registry.perform (.admitBytes thread bytes) := by
    unfold grant at denied
    split at denied
    · cases denied
    · simp only [Domain.Registry.perform]
      split at denied
      · cases denied
      · next refused =>
        cases denied
        rw [refused]
        split
        · exact adopt_registry _ _
        · exact adopt_registry _ _
  exact asked ▸ .quietly _ rfl

theorem writes_charged (host : Host) (doing : Doing) (thread : ThreadId) (bytes base : Nat) :
    Writes host doing (host.chargedAt thread bytes base) := by
  unfold chargedAt
  split
  · exact .spared
  · exact .quietly (.charge thread bytes (.address base)) rfl

theorem writes_heapAlloc (host : Host) (doing : Doing) (thread : ThreadId) (heap size : Nat)
    (level : Memory.CriticalLevel) :
    Writes host doing (host.heapAlloc thread heap size level).2.registry := by
  unfold heapAlloc
  split
  · next denied => exact writes_denied denied
  · next granted =>
    obtain ⟨rfl, _⟩ := grant_eq_true granted
    split
    · exact .spared
    · exact .quietly (.charge thread size (.block _)) rfl

theorem writes_virtualAlloc (host : Host) (doing : Doing) (thread : ThreadId)
    (wanted : Option Nat) (size : Nat) (kind : Memory.AllocationKind)
    (protection : Memory.Protection) (level : Memory.CriticalLevel) :
    Writes host doing
      (host.virtualAlloc thread wanted size kind protection level).2.registry := by
  have made := host.allocation_virtualAlloc thread wanted size kind protection level
  generalize (host.virtualAlloc thread wanted size kind protection level).1 = outcome at made
  generalize (host.virtualAlloc thread wanted size kind protection level).2 = after at made ⊢
  cases made with
  | refused | reserved => exact .spared
  | denied denial => exact writes_denied denial
  | committedAnew | committedInPlace =>
    rw [(chargeAt_books _ _ _ _).1]
    exact writes_charged _ doing _ _ _

theorem writes_perform (host : Host) (act : Act) :
    Writes host (.act act) (host.perform act).registry := by
  cases act with
  | onDomains operation =>
    rw [perform, adopt_registry]
    refine .asked operation fun thread same => ?_
    rw [same]
    rfl
  | heapAlloc thread heap size level => exact host.writes_heapAlloc _ thread heap size level
  | heapFree serial =>
    simp only [perform, heapFree]
    split
    · exact .spared
    · exact .quietly (.release (.block serial)) rfl
  | virtualAlloc thread wanted size kind protection level =>
    exact host.writes_virtualAlloc _ thread wanted size kind protection level
  | virtualFree address size kind =>
    cases kind with
    | release =>
      simp only [perform, virtualFree]
      split
      · exact .spared
      · split
        · exact .quietly (.release (.address address)) rfl
        · exact .spared
    | decommit =>
      simp only [perform, virtualFree]
      split
      · exact .spared
      · split
        · exact .spared
        · simp only
          split
          · exact .spared
          · exact .quietly (.releasePartial _ _) rfl
  | virtualProtect | virtualWrite =>
    refine .of_same ?_
    simp only [perform, virtualProtect, virtualWrite]
    split <;> rfl
  | mapped thread address size => exact .quietly (.charge thread size (.address address)) rfl
  | unmapped address => exact .quietly (.release (.address address)) rfl
  | createHeap | watchMemory => exact .spared

theorem writes_undergo (host : Host) (doing : Doing) :
    Writes host doing (host.undergo doing).registry := by
  cases doing with
  | call call => exact host.writes_heed call
  | act act => exact host.writes_perform act

/-- Domains count their threads exactly, whatever happens to a host. -/
theorem counted_undergone {config : Config} {opened : String → Except Error Trace.Sink}
    {start : Host} (created : create config opened = .ok start) (doings : List Doing)
    (count : Nat) : (start.undergone doings count).registry.Counted := by
  let counted : Host → Prop := fun host => host.registry.Counted
  refine @undergone_induction counted start ?_ ?_ doings count
  · show start.registry.Counted
    rw [(books_of_create created).1]
    exact .empty _ _
  · intro host doing before
    have before : host.registry.Counted := before
    have writes := host.writes_undergo doing
    show (host.undergo doing).registry.Counted
    generalize (host.undergo doing).registry = after at writes ⊢
    cases writes with
    | spared => exact before
    | asked operation => exact before.turn (host.registry.turn_perform operation)
    | posted | purged | polled => exact before.of_same rfl fun _ => rfl

/-- The caps of a host never change. -/
theorem limits_undergone {config : Config} {opened : String → Except Error Trace.Sink}
    {start : Host} (created : create config opened = .ok start) (doings : List Doing)
    (count : Nat) : (start.undergone doings count).registry.limits = config.limits := by
  let capped : Host → Prop := fun host => host.registry.limits = config.limits
  refine @undergone_induction capped start ?_ ?_ doings count
  · exact congrArg Domain.Registry.limits (books_of_create created).1
  · intro host doing same
    have writes := host.writes_undergo doing
    show (host.undergo doing).registry.limits = config.limits
    generalize (host.undergo doing).registry = after at writes ⊢
    cases writes with
    | asked operation =>
      exact (Domain.Registry.limits_turn (host.registry.turn_perform operation)).trans same
    | spared | posted | purged | polled => exact same

/-- Where a thread is unbound, nothing else happens to the register. -/
theorem registry_of_releases {doing : Doing} {thread : ThreadId}
    (releases : doing.releases? host = some thread) :
    (host.undergo doing).registry = host.registry.perform (.releaseThread thread) := by
  unfold Doing.releases? at releases
  split at releases
  · cases releases
    exact adopt_registry host _
  · cases releases
    exact host.releaseThread_registry thread
  · cases releases
    exact adopt_registry host _
  · next leaver =>
    split at releases
    · next stage =>
      cases releases
      simp only [undergo, heed, depart, stage]
      exact host.releaseThread_registry thread
    · cases releases
  · cases releases

end Steward.Host
