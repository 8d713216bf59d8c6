import Steward.Proofs.Host.Objects

/-! Turns of threads that wait. A turn takes what the thread waits for if it is there. If it is not,
the thread goes to sleep, or its wait ends or goes on to its next slice, and nothing is taken. -/

set_option autoImplicit false

namespace Steward.Host

open Deadlock

variable {host after : Host} {thread : ThreadId}

/-- An object that threads share, of which a wait takes something. -/
def Target.isShared : Target → Bool
  | signal _ | semaphore _ | lock _ => true
  | gate _ | exit _ | notice | workers _ | sleep _ => false

/-- A wait for an object tells how it ended; a sleep or a start need not. -/
def Wait.isProper (wait : Wait) : Bool :=
  match wait.purpose with
  | .sleep | .start => !wait.target.isShared
  | .plain | .monitor _ | .watched _ _ | .shutdown => true

/-- What was done to the objects that threads share, and how waits ended. -/
inductive SyncDeed where
  | set (serial : Nat)
  | cleared (serial : Nat)
  | gave (serial slots : Nat)
  /-- A lock was entered without a wait. -/
  | entered (thread : ThreadId) (serial : Nat)
  | left (thread : ThreadId) (serial : Nat)
  | ended (thread : ThreadId) (target : Target) (outcome : Sync.Outcome)
  deriving DecidableEq

/-- A wait ended that took no object. -/
def SyncDeed.isQuiet : SyncDeed → Bool
  | ended _ target outcome => !(target.isShared && outcome.isSignaled)
  | _ => false

/-- The host while a thread makes its turn: its wait is out. -/
def away (host : Host) (thread : ThreadId) : Host :=
  { host with waits := host.waits.erase thread }

/-! ### Looking -/

/-- What a look takes, where it finds its target. -/
inductive Takes (host : Host) (thread : ThreadId) : Target → Ending → Host → Prop where
  | signal {serial : Nat} {signal left : Sync.Signal}
      (found : host.signals.get? serial = some signal) (taken : signal.take? = some left) :
      Takes host thread (.signal serial) ⟨.signaled, none⟩
        { host with signals := host.signals.insert serial left }
  | semaphore {serial : Nat} {semaphore left : Sync.Semaphore}
      (found : host.semaphores.get? serial = some semaphore)
      (taken : semaphore.take? = some left) :
      Takes host thread (.semaphore serial) ⟨.signaled, none⟩
        { host with semaphores := host.semaphores.insert serial left }
  | lock {serial : Nat} {lock entered : Sync.CriticalSection}
      (found : host.locks.get? serial = some lock) (taken : lock.enter? thread = some entered) :
      Takes host thread (.lock serial) ⟨.signaled, none⟩
        { host with locks := host.locks.insert serial entered }
  | notice {event : Domain.Event} {left : Domain.EventQueue}
      (taken : host.registry.events.poll? = some (event, left)) :
      Takes host thread .notice ⟨.signaled, some event⟩
        { host with registry := { host.registry with events := left } }
  | passed {target : Target} {outcome : Sync.Outcome} (apart : target.isShared = false)
      (unqueued : target ≠ .notice) (lasting : outcome.isTimedOut = false) :
      Takes host thread target ⟨outcome, none⟩ host

theorem takes_of_take? {target : Target} {ending : Ending}
    (taken : host.take? thread target = some (ending, after)) :
    Takes host thread target ending after := by
  cases target with
  | signal | semaphore | lock =>
    simp only [take?, Option.bind_eq_bind, Option.bind_eq_some_iff, Option.pure_def,
      Option.some.injEq, Prod.mk.injEq] at taken
    obtain ⟨_, found, _, made, rfl, rfl⟩ := taken
    constructor <;> assumption
  | notice =>
    simp only [take?, Option.bind_eq_bind, Option.bind_eq_some_iff, Option.pure_def,
      Option.some.injEq, Prod.mk.injEq] at taken
    obtain ⟨_, polled, rfl, rfl⟩ := taken
    exact .notice polled
  | gate other =>
    simp only [take?] at taken
    split at taken <;> cases taken <;> exact .passed rfl (by simp) rfl
  | exit | workers =>
    simp only [take?] at taken
    split at taken <;> cases taken
    exact .passed rfl (by simp) rfl
  | sleep => cases taken

namespace Takes

variable {target : Target} {ending : Ending}

theorem waits (takes : Takes host thread target ending after) : after.waits = host.waits := by
  cases takes <;> rfl

theorem controls (takes : Takes host thread target ending after) :
    after.controls = host.controls := by
  cases takes <;> rfl

theorem nextThread (takes : Takes host thread target ending after) :
    after.nextThread = host.nextThread := by
  cases takes <;> rfl

theorem nextSerial (takes : Takes host thread target ending after) :
    after.nextSerial = host.nextSerial := by
  cases takes <;> rfl

theorem isTimedOut (takes : Takes host thread target ending after) :
    ending.outcome.isTimedOut = false := by
  cases takes with
  | signal | semaphore | lock | notice => rfl
  | passed _ _ lasting => exact lasting

theorem isSignaled (takes : Takes host thread target ending after)
    (shared : target.isShared = true) : ending.outcome = .signaled := by
  cases takes with
  | signal | semaphore | lock | notice => rfl
  | passed apart => rw [apart] at shared; cases shared

theorem still (takes : Takes host thread target ending after) (apart : target.isShared = false) :
    Still [] host after := by
  cases takes with
  | signal | semaphore | lock => cases apart
  | notice => exact .of_same rfl rfl rfl rfl
  | passed => exact .refl host

end Takes

/-! ### Giving up -/

theorem kept_deliverAll (host : Host) (wakeUps : List WakeUp) :
    Kept [] wakeUps host (host.deliverAll wakeUps) :=
  .of_change (.refl host) (.of_same rfl rfl rfl rfl rfl) rfl (Nat.le_refl _)

theorem kept_clearAlert (host : Host) (thread : ThreadId) :
    Kept [] [] host (host.clearAlert thread) :=
  ⟨.of_same rfl rfl rfl rfl, host.offers_modify (fun _ => rfl) (.inl fun _ => rfl) (.inl nofun),
    rfl, Nat.le_refl _⟩

/-- A thread that gives up on a pending signal tells another that waits for it. -/
def passWakeUps (host : Host) (target : Target) : List WakeUp :=
  match target with
  | .signal serial =>
      if (host.signals.get? serial).any fun signal => signal.isSet && !signal.lasting then
        [⟨target, false⟩]
      else []
  | _ => []

theorem passOn_eq_deliverAll (host : Host) (target : Target) :
    host.passOn target = host.deliverAll (host.passWakeUps target) := by
  unfold passOn passWakeUps
  cases target with
  | signal serial => dsimp only; split <;> rfl
  | semaphore | lock | gate | exit | notice | workers | sleep => rfl

/-- An attempt is interrupted before it looks. -/
def isForestalled (host : Host) (thread : ThreadId) (wait : Wait) : Bool :=
  wait.stage = .starting && wait.options.alertable && host.isAlerted thread

/-- The wake-ups of an attempt. -/
def attemptWakeUps (host : Host) (thread : ThreadId) (wait : Wait) : List WakeUp :=
  if host.isForestalled thread wait then host.passWakeUps wait.target else []

/-- How an attempt comes to an end, or does not. -/
inductive Attempted (host : Host) (thread : ThreadId) (wait : Wait) :
    Option Ending → Host → Prop where
  | took {ending : Ending} {left : Host} (present : host.isForestalled thread wait = false)
      (taken : Takes host thread wait.target ending left) :
      Attempted host thread wait (some ending) left
  | gaveUp {ending : Ending} {left : Host} (empty : ending.outcome.isSignaled = false)
      (missing : wait.stage ≠ .starting → host.take? thread wait.target = none)
      (kept : Kept [] (host.attemptWakeUps thread wait) host left) :
      Attempted host thread wait (some ending) left
  | dozed (missing : host.take? thread wait.target = none)
      (calm : (wait.options.alertable && host.isAlerted thread) = false) :
      Attempted host thread wait none
        { host with waits := host.waits.insert thread { wait with stage := .asleep } }

theorem attempted (host : Host) (thread : ThreadId) (wait : Wait) :
    Attempted host thread wait (host.attempt thread wait).1 (host.attempt thread wait).2 := by
  have forestalled : host.isForestalled thread wait = (decide (wait.stage = .starting) &&
    wait.options.alertable && host.isAlerted thread) := rfl
  unfold attempt
  rw [← forestalled]
  cases stopped : host.isForestalled thread wait with
  | true =>
    refine .gaveUp rfl (fun late => ?_) ?_
    · simp [isForestalled, late] at stopped
    · have cleared := host.kept_clearAlert thread
      have passed := (host.clearAlert thread).kept_deliverAll (host.passWakeUps wait.target)
      have same : (host.clearAlert thread).passOn wait.target =
          (host.clearAlert thread).deliverAll (host.passWakeUps wait.target) :=
        passOn_eq_deliverAll _ _
      simp only [if_true, same, attemptWakeUps, stopped]
      exact cleared.trans passed
  | false =>
    have silent : host.attemptWakeUps thread wait = [] := by simp [attemptWakeUps, stopped]
    simp only [look, Bool.false_eq_true, if_false]
    cases taken : host.take? thread wait.target with
    | some found => exact .took stopped (takes_of_take? taken)
    | none =>
      cases alerted : wait.options.alertable && host.isAlerted thread with
      | true => exact .gaveUp rfl (fun _ => taken) (silent ▸ host.kept_clearAlert thread)
      | false =>
        cases wait.isDue host.clock with
        | true => exact .gaveUp rfl (fun _ => taken) (silent ▸ .refl host)
        | false => exact .dozed taken alerted

/-! ### Concluding -/

/-- The signals that are set when a slice of a watched wait passed and its thread looks for a
ring. -/
def lapseSets (host : Host) (thread : ThreadId) (wait : Wait) (ending : Ending) : List Nat :=
  match wait.purpose.lock? with
  | some cookie =>
      if ending.outcome.isTimedOut then
        ringSets { host with detector := host.detector.register thread cookie } thread thread cookie
      else []
  | none => []

/-- What follows when a wait came to an end. -/
inductive Concluded (host : Host) (thread : ThreadId) (wait : Wait) (ending : Ending) :
    Option Ending → Host → Prop where
  | finished {told : Option Ending} {after : Host}
      (kept : Kept (host.lapseSets thread wait ending)
        ((host.lapseSets thread wait ending).flatMap host.setWakeUps) host after) :
      Concluded host thread wait ending told after
  | resumed {settled : Host} {cookie : Cookie} {next : Backoff}
      (lapsed : ending.outcome.isTimedOut = true)
      (kept : Kept (host.lapseSets thread wait ending)
        ((host.lapseSets thread wait ending).flatMap host.setWakeUps) host settled) :
      Concluded host thread wait ending none
        (settled.startWait thread wait.target (some next.current) wait.options
          (.watched cookie next))

theorem kept_noteAcquired (host : Host) (thread : ThreadId) (cookie : Cookie) (ending : Ending) :
    Kept [] [] host (host.noteAcquired thread cookie ending) := by
  unfold noteAcquired
  split
  · exact .of_same rfl rfl rfl rfl rfl rfl rfl rfl
  · exact .refl host

theorem kept_conclude (host : Host) (thread : ThreadId) {wait : Wait} (ending : Ending)
    (plain : wait.purpose.lock? = none) :
    Kept [] [] host (host.conclude thread wait ending).2 := by
  unfold conclude
  split
  · exact .refl host
  · exact .refl host
  · next cookie _ => exact host.kept_noteAcquired thread cookie ending
  · next watched =>
    rw [watched] at plain
    cases plain
  · split
    · exact .of_same rfl rfl rfl rfl rfl rfl rfl rfl
    · exact .refl host
  · exact .of_same rfl rfl rfl rfl rfl rfl rfl rfl

theorem kept_endEnter (host : Host) (thread : ThreadId) : Kept [] [] host (host.endEnter thread) :=
  .of_same rfl rfl rfl rfl rfl rfl rfl rfl

theorem concluded (host : Host) (thread : ThreadId) (wait : Wait) (ending : Ending) :
    Concluded host thread wait ending (host.conclude thread wait ending).1
      (host.conclude thread wait ending).2 := by
  cases lock : wait.purpose.lock? with
  | none =>
    have sets : host.lapseSets thread wait ending = [] := by simp [lapseSets, lock]
    refine .finished ?_
    rw [sets]
    exact host.kept_conclude thread ending lock
  | some cookie =>
    obtain ⟨backoff, watched⟩ := Purpose.lock?_eq_some_iff.1 lock
    simp only [conclude, watched]
    cases lapsed : ending.outcome.isTimedOut with
    | false =>
      have sets : host.lapseSets thread wait ending = [] := by simp [lapseSets, lock, lapsed]
      refine .finished ?_
      rw [sets]
      exact (host.kept_endEnter thread).trans (kept_noteAcquired _ thread cookie ending)
    | true =>
      have looked := host.kept_tryEnter thread thread cookie
      have sets : ringSets { host with detector := host.detector.register thread cookie } thread
          thread cookie = host.lapseSets thread wait ending := by
        simp [lapseSets, lock, lapsed]
      rw [sets] at looked
      simp only [if_true, sliceOver]
      split
      · next report _ =>
        let seen := (host.tryEnter thread thread cookie).2
        have told : Kept [] [] seen (seen.reportDeadlock report) :=
          .of_same rfl rfl rfl rfl rfl rfl rfl rfl
        exact .finished (by simpa using (looked.trans told).trans (kept_endEnter _ thread))
      · split
        · exact .finished (by simpa using looked.trans (kept_endEnter _ thread))
        · exact .resumed lapsed looked

theorem lapseSets_of_lasting (host : Host) (thread : ThreadId) (wait : Wait) {ending : Ending}
    (lasting : ending.outcome.isTimedOut = false) : host.lapseSets thread wait ending = [] := by
  unfold lapseSets
  rw [lasting]
  split <;> rfl

theorem kept_conclude_of_lasting (host : Host) (thread : ThreadId) (wait : Wait) {ending : Ending}
    (lasting : ending.outcome.isTimedOut = false) :
    Kept [] [] host (host.conclude thread wait ending).2 := by
  have after := host.concluded thread wait ending
  generalize host.conclude thread wait ending = made at after ⊢
  obtain ⟨told, left⟩ := made
  cases after with
  | finished kept => simpa [host.lapseSets_of_lasting thread wait lasting] using kept
  | resumed lapsed =>
    rw [lasting] at lapsed
    cases lapsed

/-- A proper wait for an object is told to have brought it just when it did. -/
theorem outcome_of_conclude {wait : Wait} {ending told : Ending} (proper : wait.isProper = true)
    (shared : wait.target.isShared = true)
    (made : (host.conclude thread wait ending).1 = some told) :
    told.outcome.isSignaled = ending.outcome.isSignaled := by
  unfold Wait.isProper at proper
  unfold conclude at made
  cases purpose : wait.purpose with
  | plain | monitor | shutdown => simp only [purpose, Option.some.injEq] at made; rw [← made]
  | sleep | start => simp [purpose, shared] at proper
  | watched cookie backoff =>
    simp only [purpose] at made
    cases lapsed : ending.outcome.isTimedOut with
    | false =>
      simp only [lapsed, Bool.false_eq_true, if_false, Option.some.injEq] at made
      rw [← made]
    | true =>
      have empty : ending.outcome.isSignaled = false := by
        cases outcome : ending.outcome <;>
          simp_all [Sync.Outcome.isTimedOut, Sync.Outcome.isSignaled]
      rw [empty]
      simp only [lapsed, if_true, sliceOver] at made
      split at made
      · cases made; rfl
      · split at made <;> cases made
        rfl

theorem conclude_of_signaled {wait : Wait} {ending : Ending} (proper : wait.isProper = true)
    (shared : wait.target.isShared = true) (signaled : ending.outcome = .signaled) :
    (host.conclude thread wait ending).1 = some ending := by
  unfold Wait.isProper at proper
  unfold conclude
  cases purpose : wait.purpose with
  | plain | monitor | shutdown | watched => simp [signaled, Sync.Outcome.isTimedOut]
  | sleep | start => simp [purpose, shared] at proper

/-! ### Turns -/

/-- What a turn comes to, as far as objects go. -/
def turnDeeds (host : Host) (thread : ThreadId) : List SyncDeed :=
  match host.glimpse thread with
  | none => []
  | some (wait, ending, looked) =>
      (looked.lapseSets thread wait ending).map .set ++
        ((host.turn thread).1.map fun told =>
          SyncDeed.ended thread wait.target told.outcome).toList

/-- The wake-ups of a turn. -/
def turnWakeUps (host : Host) (thread : ThreadId) : List WakeUp :=
  match host.glimpse thread with
  | none => []
  | some (wait, ending, looked) =>
      (host.away thread).attemptWakeUps thread wait ++
        (looked.lapseSets thread wait ending).flatMap looked.setWakeUps

/-- What a turn of a thread can come to. -/
inductive Turned (host : Host) (thread : ThreadId) : List SyncDeed → List WakeUp → Host → Prop where
  | idle (resting : ∀ wait, host.waits.get? thread = some wait → wait.stage = .asleep) :
      Turned host thread [] [] host
  | dozed {wait : Wait} (found : host.waits.get? thread = some wait) (stirs : wait.stage ≠ .asleep)
      (missing : (host.away thread).take? thread wait.target = none)
      (calm : (wait.options.alertable && host.isAlerted thread) = false) :
      Turned host thread [] []
        { host with
          waits := (host.waits.erase thread).insert thread { wait with stage := .asleep } }
  | took {wait : Wait} {ending : Ending} {left after : Host} {deeds : List SyncDeed}
      (found : host.waits.get? thread = some wait) (stirs : wait.stage ≠ .asleep)
      (taken : Takes (host.away thread) thread wait.target ending left)
      (kept : Kept [] [] left after)
      (told : wait.target.isShared = true → deeds = [.ended thread wait.target .signaled])
      (quiet : wait.target.isShared = false → ∀ deed ∈ deeds, deed.isQuiet = true) :
      Turned host thread deeds [] after
  | gaveUp {wait : Wait} {sets : List Nat} {wakeUps : List WakeUp} {ends : List SyncDeed}
      {after : Host} (found : host.waits.get? thread = some wait) (stirs : wait.stage ≠ .asleep)
      (missing : wait.stage ≠ .starting → (host.away thread).take? thread wait.target = none)
      (kept : Kept sets wakeUps (host.away thread) after)
      (quiet : ∀ deed ∈ ends, deed.isQuiet = true) :
      Turned host thread (sets.map .set ++ ends) wakeUps after
  | resumed {wait : Wait} {sets : List Nat} {wakeUps : List WakeUp} {settled : Host}
      {cookie : Cookie} {next : Backoff}
      (found : host.waits.get? thread = some wait) (stirs : wait.stage ≠ .asleep)
      (missing : wait.stage ≠ .starting → (host.away thread).take? thread wait.target = none)
      (kept : Kept sets wakeUps (host.away thread) settled) :
      Turned host thread (sets.map .set) wakeUps
        (settled.startWait thread wait.target (some next.current) wait.options
          (.watched cookie next))

namespace Turned

variable {wait : Wait} {ending : Ending} {looked : Host}

theorem of_takes (found : host.waits.get? thread = some wait) (stirs : wait.stage ≠ .asleep)
    (proper : wait.isProper = true)
    (present : (host.away thread).isForestalled thread wait = false)
    (taken : Takes (host.away thread) thread wait.target ending looked) :
    Turned host thread
      ((looked.lapseSets thread wait ending).map .set ++
        ((looked.conclude thread wait ending).1.map fun told =>
          SyncDeed.ended thread wait.target told.outcome).toList)
      ((host.away thread).attemptWakeUps thread wait ++
        (looked.lapseSets thread wait ending).flatMap looked.setWakeUps)
      (looked.conclude thread wait ending).2 := by
  have sets := looked.lapseSets_of_lasting thread wait taken.isTimedOut
  have silent : (host.away thread).attemptWakeUps thread wait = [] := by
    simp [attemptWakeUps, present]
  have kept := looked.kept_conclude_of_lasting thread wait taken.isTimedOut
  rw [sets, silent]
  refine .took found stirs taken kept (fun shared => ?_) fun apart => ?_
  · have signaled := taken.isSignaled shared
    rw [conclude_of_signaled proper shared signaled]
    simp [signaled]
  · intro deed inside
    obtain ⟨told, _, rfl⟩ : ∃ told, (looked.conclude thread wait ending).1 = some told ∧
        SyncDeed.ended thread wait.target told.outcome = deed := by simpa using inside
    simp [SyncDeed.isQuiet, apart]

theorem of_gaveUp (found : host.waits.get? thread = some wait) (stirs : wait.stage ≠ .asleep)
    (proper : wait.isProper = true) (empty : ending.outcome.isSignaled = false)
    (missing : wait.stage ≠ .starting → (host.away thread).take? thread wait.target = none)
    (kept : Kept [] ((host.away thread).attemptWakeUps thread wait) (host.away thread) looked) :
    Turned host thread
      ((looked.lapseSets thread wait ending).map .set ++
        ((looked.conclude thread wait ending).1.map fun told =>
          SyncDeed.ended thread wait.target told.outcome).toList)
      ((host.away thread).attemptWakeUps thread wait ++
        (looked.lapseSets thread wait ending).flatMap looked.setWakeUps)
      (looked.conclude thread wait ending).2 := by
  have quiet : ∀ told, (looked.conclude thread wait ending).1 = some told →
      (SyncDeed.ended thread wait.target told.outcome).isQuiet = true := by
    intro told made
    cases shared : wait.target.isShared with
    | false => simp [SyncDeed.isQuiet, shared]
    | true => simp [SyncDeed.isQuiet, outcome_of_conclude proper shared made, empty]
  have after := looked.concluded thread wait ending
  generalize looked.conclude thread wait ending = made at after quiet ⊢
  obtain ⟨told, left⟩ := made
  cases after with
  | finished next =>
    refine .gaveUp found stirs missing (by simpa using kept.trans next) fun deed inside => ?_
    obtain ⟨outcome, there, rfl⟩ : ∃ outcome, told = some outcome ∧
        SyncDeed.ended thread wait.target outcome.outcome = deed := by simpa using inside
    exact quiet outcome there
  | resumed _ next =>
    simp only [Option.map_none, Option.toList_none, List.append_nil]
    exact .resumed found stirs missing (kept.trans next)

end Turned

/-- A turn of a thread that is not asleep is an attempt, and what follows when it ends the wait. -/
theorem turn_eq {wait : Wait} (found : host.waits.get? thread = some wait)
    (stirs : wait.stage ≠ .asleep) :
    host.turn thread = match (host.away thread).attempt thread wait with
      | (some ending, looked) => looked.conclude thread wait ending
      | (none, looked) => (none, looked) := by
  rw [turn, found]
  exact if_neg stirs

theorem turn_of_asleep {wait : Wait} (found : host.waits.get? thread = some wait)
    (asleep : wait.stage = .asleep) : host.turn thread = (none, host) := by
  rw [turn, found]
  exact if_pos asleep

/-- A turn ends a wait by an attempt on it. -/
theorem attempt_of_glimpse {wait : Wait} {ending : Ending} {looked : Host}
    (seen : host.glimpse thread = some (wait, ending, looked)) :
    host.waits.get? thread = some wait ∧ wait.stage ≠ .asleep ∧
      (host.away thread).attempt thread wait = (some ending, looked) := by
  unfold glimpse at seen
  split at seen
  · cases seen
  · next found =>
    split at seen
    · cases seen
    · next stirs =>
      split at seen
      · next made =>
        cases seen
        exact ⟨found, stirs, made⟩
      · cases seen

/-- A turn that ends no wait sends the thread to sleep at most. -/
theorem turn_of_unseen (unseen : host.glimpse thread = none) :
    (host.turn thread).2 = host ∨ ∃ wait, host.waits.get? thread = some wait ∧
      wait.stage ≠ .asleep ∧ (host.turn thread).2 = { host with
        waits := (host.waits.erase thread).insert thread { wait with stage := .asleep } } := by
  cases found : host.waits.get? thread with
  | none => exact .inl (by simp only [turn, found])
  | some wait =>
    by_cases asleep : wait.stage = .asleep
    · exact .inl (by rw [turn_of_asleep found asleep])
    · have tried := (host.away thread).attempted thread wait
      refine .inr ⟨wait, rfl, asleep, ?_⟩
      rw [turn_eq found asleep]
      simp only [glimpse, found, asleep, if_false] at unseen
      generalize made : (host.away thread).attempt thread wait = attempt at tried
      obtain ⟨ending?, looked⟩ := attempt
      cases tried with
      | dozed missing calm => rfl
      | took | gaveUp =>
        rw [away] at made
        simp [made] at unseen

theorem turned (host : Host) (thread : ThreadId)
    (proper : ∀ wait, host.waits.get? thread = some wait → wait.isProper = true) :
    Turned host thread (host.turnDeeds thread) (host.turnWakeUps thread)
      (host.turn thread).2 := by
  cases found : host.waits.get? thread with
  | none =>
    have unseen : host.glimpse thread = none := by simp [glimpse, found]
    simp only [turnDeeds, turnWakeUps, unseen, turn, found]
    exact .idle (by simp [found])
  | some wait =>
    by_cases asleep : wait.stage = .asleep
    · have unseen : host.glimpse thread = none := by simp [glimpse, found, asleep]
      simp only [turnDeeds, turnWakeUps, unseen, turn_of_asleep found asleep]
      exact .idle (by simp [found, asleep])
    · have tried := (host.away thread).attempted thread wait
      have seen : host.glimpse thread = ((host.away thread).attempt thread wait).1.map
          fun ending => (wait, ending, ((host.away thread).attempt thread wait).2) := by
        simp only [glimpse, found, asleep, if_false, away]
        split <;> next made => rw [made]; rfl
      have turns := turn_eq found asleep
      generalize (host.away thread).attempt thread wait = made at tried seen turns
      obtain ⟨ending?, looked⟩ := made
      simp only [turnDeeds, turnWakeUps, seen, turns]
      cases tried with
      | dozed missing calm => exact .dozed found asleep missing calm
      | took present taken => exact .of_takes found asleep (proper wait found) present taken
      | gaveUp empty missing kept =>
        exact .of_gaveUp found asleep (proper wait found) empty missing kept

end Steward.Host
