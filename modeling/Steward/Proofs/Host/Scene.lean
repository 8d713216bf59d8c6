import Steward.Proofs.Host.Effects

/-! Runs in which many threads share a host. Calls begin in any order. The wake-ups that are owed
for them arrive later, in any order: one that is meant for everyone reaches everyone who sleeps by
then, any other reaches at least one. Threads may wake for no reason. Who enters a lock looks as
often as the lock says before it sleeps. -/

set_option autoImplicit false

namespace Steward.Host

open Deadlock

variable {host after : Host}

/-! ### Orderly hosts -/

/-- Nobody waits on a new host, and no thread has a number. -/
theorem nobody_of_create {config : Config} {opened : String → Except Error Trace.Sink}
    (created : Host.create config opened = .ok host) :
    host.waits = Assoc.empty ∧ host.controls = Assoc.empty := by
  unfold Host.create at created
  split at created
  · cases created
  · cases created
    exact ⟨rfl, rfl⟩

namespace Fits

variable {thread : ThreadId} {wait : Wait}

theorem mono (fits : host.Fits thread wait) (nextThread : host.nextThread ≤ after.nextThread)
    (nextSerial : host.nextSerial ≤ after.nextSerial) : after.Fits thread wait := by
  obtain ⟨numbered, named, proper⟩ := fits
  refine ⟨Nat.lt_of_lt_of_le numbered nextThread, ?_, proper⟩
  cases target : wait.target with
  | signal | semaphore | lock =>
    rw [target] at named
    exact decide_eq_true (Nat.lt_of_lt_of_le (of_decide_eq_true named) nextSerial)
  | gate | exit | notice | workers | sleep => rfl

theorem wake (fits : host.Fits thread wait) : host.Fits thread wait.wake := by
  refine ⟨fits.numbered, by rw [Wait.wake_target]; exact fits.named, ?_⟩
  have proper := fits.proper
  unfold Wait.isProper at proper ⊢
  rwa [purpose_wake, Wait.wake_target]

end Fits

namespace Orderly

theorem of_empty (waits : host.waits = Assoc.empty) (controls : host.controls = Assoc.empty) :
    host.Orderly := by
  refine ⟨fun thread wait found => ?_, fun thread there => ?_⟩
  · rw [waits, Assoc.get?_empty] at found
    cases found
  · rw [control, controls, Assoc.getD, Assoc.get?_empty] at there
    cases there

theorem create {config : Config} {opened : String → Except Error Trace.Sink} {start : Host}
    (created : Host.create config opened = .ok start) : start.Orderly :=
  .of_empty (nobody_of_create created).1 (nobody_of_create created).2

theorem fits_rouse (orderly : host.Orderly) (woken : ThreadId → Wait → Bool) {thread : ThreadId}
    {wait : Wait} (found : (host.rouse woken).waits.get? thread = some wait) :
    host.Fits thread wait := by
  rw [get?_rouse, Option.map_eq_some_iff] at found
  obtain ⟨earlier, before, rfl⟩ := found
  have fits := orderly.waits thread earlier before
  split
  · exact fits.wake
  · exact fits

theorem rouse (orderly : host.Orderly) (woken : ThreadId → Wait → Bool) :
    (host.rouse woken).Orderly :=
  ⟨fun _ _ found => (orderly.fits_rouse woken found).mono (Nat.le_refl _) (Nat.le_refl _),
    orderly.closed⟩

theorem deliverAll (orderly : host.Orderly) (wakeUps : List WakeUp) :
    (host.deliverAll wakeUps).Orderly := by
  obtain ⟨woken, roused⟩ := host.rouses_deliverAll wakeUps
  exact roused ▸ orderly.rouse woken

theorem fits_erase (orderly : host.Orderly) {thread other : ThreadId} {wait : Wait}
    (found : (host.waits.erase thread).get? other = some wait) : host.Fits other wait :=
  orderly.waits other wait (Assoc.get?_of_erase found)

/-- What calls begin with leaves a host in order. -/
theorem begun {wakeUps : List WakeUp} (orderly : host.Orderly)
    (begun : Begun host wakeUps after) : after.Orderly := by
  -- A gate that is closed now was closed before, or belongs to a thread that is new.
  have gates : ∀ {told : List WakeUp} {before : Host}, before.controls = host.controls →
      Offers told before after → host.nextThread ≤ after.nextThread →
      ∀ thread, (after.control thread).gate.isOpen = false →
        thread.value < after.nextThread := by
    intro told before same offers more thread there
    rcases offers.closed thread there with closed | numbered
    · rw [Host.control, same] at closed
      exact Nat.lt_of_lt_of_le (orderly.closed thread closed) more
    · exact numbered
  cases begun with
  | told offers waits nextThread nextSerial =>
    refine ⟨fun thread wait found => ?_, gates rfl offers nextThread⟩
    rw [waits] at found
    exact (orderly.waits thread wait found).mono nextThread nextSerial
  | roused offers waits nextThread nextSerial =>
    refine ⟨fun thread wait found => ?_, gates rfl offers nextThread⟩
    rw [waits] at found
    exact (orderly.fits_rouse _ found).mono nextThread (Nat.le_of_eq nextSerial.symm)
  | @began _ thread wait offers absent starts proper named waits numbered nextThread nextSerial =>
    refine ⟨fun other found there => ?_, gates rfl offers nextThread⟩
    rw [waits, Assoc.get?_insert] at there
    split at there
    · next same =>
      cases there
      exact ⟨same ▸ numbered, names_congr nextSerial _ ▸ named, proper⟩
    · exact (orderly.waits other found there).mono nextThread (Nat.le_of_eq nextSerial.symm)
  | @dozed _ thread wait offers found stirs missing calm waits nextThread nextSerial =>
    refine ⟨fun other there inside => ?_, gates rfl offers nextThread⟩
    rw [waits, Assoc.get?_insert] at inside
    split at inside
    · next same =>
      cases inside
      have fits := orderly.waits thread wait found
      have asleep : host.Fits thread { wait with stage := .asleep } :=
        ⟨fits.numbered, fits.named, fits.proper⟩
      exact same ▸ asleep.mono nextThread (Nat.le_of_eq nextSerial.symm)
    · exact (orderly.fits_erase inside).mono nextThread (Nat.le_of_eq nextSerial.symm)
  | @took _ left thread wait ending found stirs taken offers waits nextThread nextSerial =>
    refine ⟨fun other there inside => ?_, gates taken.controls offers nextThread⟩
    rw [waits] at inside
    exact (orderly.fits_erase inside).mono nextThread (Nat.le_of_eq nextSerial.symm)
  | @gaveUp _ _ thread wait found stirs missing offers waits nextThread nextSerial =>
    have same : (host.away thread).controls = host.controls := rfl
    refine ⟨fun other there inside => ?_, gates same offers nextThread⟩
    rw [waits] at inside
    exact (orderly.fits_erase inside).mono nextThread (Nat.le_of_eq nextSerial.symm)
  | @resumed _ _ thread wait next found stirs missing offers starts proper target waits nextThread
      nextSerial =>
    have same : (host.away thread).controls = host.controls := rfl
    refine ⟨fun other there inside => ?_, gates same offers nextThread⟩
    rw [waits, Assoc.get?_insert] at inside
    split at inside
    · next same =>
      cases inside
      have fits := orderly.waits thread wait found
      have again : host.Fits thread next := ⟨fits.numbered, target ▸ fits.named, proper⟩
      exact same ▸ again.mono nextThread (Nat.le_of_eq nextSerial.symm)
    · exact (orderly.fits_erase inside).mono nextThread (Nat.le_of_eq nextSerial.symm)

theorem heed (orderly : host.Orderly) {call : Call} (accepted : host.accepts call = true) :
    (host.heed call).Orderly := by
  rw [heed_eq_deliverAll orderly accepted]
  exact (orderly.begun (begun_begin orderly accepted)).deliverAll _

end Orderly

/-- A wake-up reaches those it is meant for: all of them, or at least one if there is one. -/
def Reaches (host : Host) (wakeUp : WakeUp) (woken : ThreadId → Wait → Bool) : Prop :=
  if wakeUp.everyone then
    ∀ entry ∈ host.waits.entries, isSleeper wakeUp.target entry = true →
      woken entry.1 entry.2 = true
  else
    (∃ entry ∈ host.waits.entries, isSleeper wakeUp.target entry = true) →
      ∃ entry ∈ host.waits.entries, isSleeper wakeUp.target entry = true ∧
        woken entry.1 entry.2 = true

theorem reaches_deliver (host : Host) (wakeUp : WakeUp) :
    ∃ woken, host.Reaches wakeUp woken ∧ host.deliver wakeUp = host.rouse woken := by
  unfold deliver Reaches
  cases wakeUp.everyone with
  | true =>
    refine ⟨fun _ wait => decide (wait.target = wakeUp.target), ?_, by simp [rouse, wakeAll]⟩
    intro entry _ sleeps
    simp only [isSleeper, Bool.and_eq_true] at sleeps
    exact sleeps.1
  | false =>
    simp only [Bool.false_eq_true, if_false, wakeOne]
    cases first : host.waits.entries.find? (isSleeper wakeUp.target) with
    | none =>
      refine ⟨fun _ _ => false, ?_, host.rouse_nobody.symm⟩
      rintro ⟨entry, inside, sleeps⟩
      exact absurd sleeps (List.find?_eq_none.1 first entry inside)
    | some entry =>
      refine ⟨fun thread _ => decide (thread = entry.1), ?_, by simp [rouse, Assoc.modify]⟩
      exact fun _ => ⟨entry, List.mem_of_find?_eq_some first, List.find?_some first, by simp⟩

/-- A place in two lists is in the first or in the second. -/
theorem split_append {Item : Type} {first second early late : List Item} {item : Item}
    (split : first ++ second = early ++ item :: late) :
    (∃ rest, first = early ++ item :: rest ∧ late = rest ++ second) ∨
      ∃ rest, early = first ++ rest ∧ second = rest ++ item :: late := by
  rcases List.append_eq_append_iff.1 split with ⟨rest, before, inside⟩ | ⟨rest, before, inside⟩
  · exact .inr ⟨rest, before, inside⟩
  · cases rest with
    | nil => exact .inr ⟨[], by simpa using before.symm, inside.symm⟩
    | cons other rest =>
      obtain ⟨rfl, rfl⟩ := List.cons.inj inside
      exact .inl ⟨rest, before, rfl⟩

/-- What a run of calls names is there when it is named. -/
def acceptsAll (host : Host) : List Call → Bool
  | [] => true
  | call :: rest => host.accepts call && (host.heed call).acceptsAll rest

def deedsAll (host : Host) : List Call → List SyncDeed
  | [] => []
  | call :: rest => host.deeds call ++ (host.heed call).deedsAll rest

end Steward.Host

namespace Steward

open Host

/-- A host, the wake-ups that are on their way, and the threads that spin at a lock: which lock, and
how often they look again before they sleep. -/
structure Scene where
  host : Host
  owed : List WakeUp := []
  spinning : Assoc ThreadId (Nat × Nat) := {}

namespace Scene

/-- A call begins. Its wake-ups are owed from then on. -/
def call (scene : Scene) (call : Call) : Scene :=
  { scene with
    host := scene.host.begin call
    owed := scene.owed ++ scene.host.wakeUps call }

/-- A spinning thread is inside, or has one look less. -/
def spin (scene : Scene) (thread : ThreadId) (serial left : Nat) : Scene :=
  { scene.call (.tryLock thread serial) with
    spinning :=
      if scene.host.deeds (.tryLock thread serial) = [] then
        scene.spinning.insert thread (serial, left)
      else scene.spinning.erase thread }

/-- What can happen next, and the deeds that are remembered of it. -/
inductive Step (scene : Scene) : List SyncDeed → Scene → Prop where
  | call (call : Call) (accepted : scene.host.accepts call = true) :
      Step scene (scene.host.deeds call) (scene.call call)
  | arrive {early late : List WakeUp} {wakeUp : WakeUp} (woken : ThreadId → Wait → Bool)
      (owed : scene.owed = early ++ wakeUp :: late) (reaches : scene.host.Reaches wakeUp woken) :
      Step scene [] { scene with host := scene.host.rouse woken, owed := early ++ late }
  /-- Who passes a signal on looks first whether it is still set. -/
  | forgo {early late : List WakeUp} {serial : Nat} {signal : Sync.Signal}
      (owed : scene.owed = early ++ ⟨.signal serial, false⟩ :: late)
      (found : scene.host.signals.get? serial = some signal) (unset : signal.isSet = false) :
      Step scene [] { scene with owed := early ++ late }
  /-- Threads wake for no reason. -/
  | stir (woken : ThreadId → Wait → Bool) :
      Step scene [] { scene with host := scene.host.rouse woken }
  /-- A thread wants to enter a lock. -/
  | enter {thread : ThreadId} {serial : Nat} {lock : Sync.CriticalSection}
      (idle : scene.host.isIdle thread = true) (free : scene.spinning.get? thread = none)
      (found : scene.host.locks.get? serial = some lock) :
      Step scene [] { scene with spinning := scene.spinning.insert thread (serial, lock.spins) }
  | spin {thread : ThreadId} {serial left : Nat}
      (found : scene.spinning.get? thread = some (serial, left + 1)) :
      Step scene (scene.host.deeds (.tryLock thread serial)) (scene.spin thread serial left)
  /-- A thread that has looked often enough waits. -/
  | block {thread : ThreadId} {serial : Nat}
      (found : scene.spinning.get? thread = some (serial, 0))
      (accepted : scene.host.accepts (.wait thread (.lock serial) none {}) = true) :
      Step scene [] { scene.call (.wait thread (.lock serial) none {}) with
        spinning := scene.spinning.erase thread }
  | respin {serial spins : Nat} {lock : Sync.CriticalSection}
      (found : scene.host.locks.get? serial = some lock) :
      Step scene [] { scene with host := { scene.host with
        locks := scene.host.locks.insert serial { lock with spins } } }

/-- Any number of steps, with their deeds in order. -/
inductive Run (start : Scene) : List SyncDeed → Scene → Prop where
  | start : Run start [] start
  | step {deeds more : List SyncDeed} {middle after : Scene} (run : Run start deeds middle)
      (step : Step middle more after) : Run start (deeds ++ more) after

variable {scene after start : Scene} {deeds : List SyncDeed}

/-- A step is the beginning of a call, or wakes threads or forgoes to do so at most, or tells a lock
how often to look. -/
inductive Move (scene : Scene) : List SyncDeed → Scene → Prop where
  | called {after : Scene} (call : Call) (accepted : scene.host.accepts call = true)
      (host : after.host = scene.host.begin call)
      (owed : after.owed = scene.owed ++ scene.host.wakeUps call) :
      Move scene (scene.host.deeds call) after
  | arrived {early late : List WakeUp} {wakeUp : WakeUp} {after : Scene}
      (woken : ThreadId → Wait → Bool) (owed : scene.owed = early ++ wakeUp :: late)
      (reaches : scene.host.Reaches wakeUp woken) (host : after.host = scene.host.rouse woken)
      (left : after.owed = early ++ late) : Move scene [] after
  | forwent {early late : List WakeUp} {serial : Nat} {signal : Sync.Signal} {after : Scene}
      (owed : scene.owed = early ++ ⟨.signal serial, false⟩ :: late)
      (found : scene.host.signals.get? serial = some signal) (unset : signal.isSet = false)
      (host : after.host = scene.host) (left : after.owed = early ++ late) : Move scene [] after
  | stirred {after : Scene} (woken : ThreadId → Wait → Bool)
      (host : after.host = scene.host.rouse woken) (owed : after.owed = scene.owed) :
      Move scene [] after
  | respun {serial spins : Nat} {lock : Sync.CriticalSection} {after : Scene}
      (found : scene.host.locks.get? serial = some lock)
      (host : after.host =
        { scene.host with locks := scene.host.locks.insert serial { lock with spins } })
      (owed : after.owed = scene.owed) : Move scene [] after

theorem Step.move (step : Step scene deeds after) : Move scene deeds after := by
  cases step with
  | call call accepted => exact .called call accepted rfl rfl
  | arrive woken owed reaches => exact .arrived woken owed reaches rfl rfl
  | forgo owed found unset => exact .forwent owed found unset rfl rfl
  | stir woken => exact .stirred woken rfl rfl
  | enter => exact .stirred _ scene.host.rouse_nobody.symm rfl
  | @spin thread serial left found => exact .called (.tryLock thread serial) rfl rfl rfl
  | @block thread serial found accepted =>
    exact .called (.wait thread (.lock serial) none {}) accepted rfl rfl
  | respin found => exact .respun found rfl rfl

/-- What holds at first and is kept by every step of a run holds after it. -/
theorem Run.induction {holds : List SyncDeed → Scene → Prop} (run : Run start deeds after)
    (initial : holds [] start)
    (keeps : ∀ deeds more middle after, Move middle more after → holds deeds middle →
      holds (deeds ++ more) after) : holds deeds after := by
  induction run with
  | start => exact initial
  | step run step ih => exact keeps _ _ _ _ step.move ih

namespace Move

theorem orderly (move : Move scene deeds after) (orderly : scene.host.Orderly) :
    after.host.Orderly := by
  cases move with
  | called call accepted host => exact host ▸ orderly.begun (begun_begin orderly accepted)
  | arrived woken owed reaches host => exact host ▸ orderly.rouse woken
  | forwent _ _ _ host => exact host ▸ orderly
  | stirred woken host => exact host ▸ orderly.rouse woken
  | respun found host => exact host ▸ ⟨fun thread wait there =>
      (orderly.waits thread wait there).mono (Nat.le_refl _) (Nat.le_refl _), orderly.closed⟩

/-- What a step does to the objects that threads share is what is remembered of it. -/
theorem effect (move : Move scene deeds after) (orderly : scene.host.Orderly) :
    Effect scene.host deeds after.host := by
  cases move with
  | called call accepted host => exact host ▸ effect_begin orderly call
  | arrived woken owed reaches host => exact host ▸ (Effect.refl scene.host).rest _
  | forwent _ _ _ host => exact host ▸ .refl scene.host
  | stirred woken host => exact host ▸ (Effect.refl scene.host).rest _
  | respun found host => exact host ▸ .respun found (.refl _)

end Move

theorem Run.orderly (run : Run start deeds after) (orderly : start.host.Orderly) :
    after.host.Orderly :=
  run.induction orderly fun _ _ _ _ move kept => move.orderly kept

theorem orderly_call (orderly : scene.host.Orderly) {call : Call}
    (accepted : scene.host.accepts call = true) : (scene.call call).host.Orderly :=
  orderly.begun (begun_begin orderly accepted)

/-- What holds of the objects at first and is kept by whatever is done to them holds after a run. -/
theorem Run.effects {holds : List SyncDeed → Host → Prop} (run : Run start deeds after)
    (orderly : start.host.Orderly) (initial : holds [] start.host)
    (keeps : ∀ deeds more host after, Effect host more after → holds deeds host →
      holds (deeds ++ more) after) : holds deeds after.host := by
  let kept : List SyncDeed → Scene → Prop := fun deeds scene =>
    scene.host.Orderly ∧ holds deeds scene.host
  have both : kept deeds after := run.induction ⟨orderly, initial⟩ fun _ _ _ _ move kept =>
    ⟨move.orderly kept.1, keeps _ _ _ _ (move.effect kept.1) kept.2⟩
  exact both.2

/-! ### Runs without delay -/

/-- What is owed arrives at once. -/
theorem Run.deliverAll (run : Run start deeds scene) :
    Run start deeds { scene with host := scene.host.deliverAll scene.owed, owed := [] } := by
  obtain ⟨host, owed, spinning⟩ := scene
  -- They arrive in the order in which they are owed.
  induction owed generalizing host with
  | nil => exact run
  | cons wakeUp rest ih =>
    obtain ⟨woken, reaches, delivered⟩ := host.reaches_deliver wakeUp
    have none : ([] : List WakeUp) ++ wakeUp :: rest = wakeUp :: rest := rfl
    have arrived := run.step (.arrive woken none.symm reaches)
    rw [List.append_nil, ← delivered] at arrived
    exact ih _ arrived

/-- A run can go on with calls that are heeded at once. -/
theorem Run.heedAll {host : Host} {calls : List Call} (run : Run start deeds { host })
    (orderly : host.Orderly) (accepted : host.acceptsAll calls = true) :
    Run start (deeds ++ host.deedsAll calls) { host := host.heedAll calls } := by
  induction calls generalizing host deeds with
  | nil => simpa [deedsAll, Host.heedAll] using run
  | cons call rest ih =>
    simp only [acceptsAll, Bool.and_eq_true] at accepted
    have begun := (run.step (.call call accepted.1)).deliverAll
    have heeded : (host.begin call).deliverAll (host.wakeUps call) = host.heed call :=
      (heed_eq_deliverAll orderly accepted.1).symm
    simp only [Scene.call, List.nil_append, heeded] at begun
    have next := ih begun (orderly.heed accepted.1) accepted.2
    simpa [deedsAll, Host.heedAll] using next

theorem run_heedAll {host : Host} (orderly : host.Orderly) (calls : List Call)
    (accepted : host.acceptsAll calls = true) :
    Run { host } (host.deedsAll calls) { host := host.heedAll calls } := by
  have run := Run.heedAll .start orderly accepted
  rwa [List.nil_append] at run

/-! ### Runs that are computed -/

/-- A choice of what happens next. A wake-up arrives as it would without delay. -/
inductive Choice where
  | call (call : Call)
  | arrive
  | enter (thread : ThreadId) (serial : Nat)
  /-- A thread that wants to enter a lock looks again, or waits. -/
  | look (thread : ThreadId)

def next? (scene : Scene) : Choice → Option (List SyncDeed × Scene)
  | .call call =>
      if scene.host.accepts call then some (scene.host.deeds call, scene.call call) else none
  | .arrive =>
      match scene.owed with
      | wakeUp :: rest =>
          some ([], { scene with host := scene.host.deliver wakeUp, owed := rest })
      | [] => none
  | .enter thread serial =>
      match scene.host.locks.get? serial, scene.spinning.get? thread with
      | some lock, none =>
          if scene.host.isIdle thread then
            some ([], { scene with spinning := scene.spinning.insert thread (serial, lock.spins) })
          else none
      | _, _ => none
  | .look thread =>
      match scene.spinning.get? thread with
      | some (serial, left + 1) =>
          some (scene.host.deeds (.tryLock thread serial), scene.spin thread serial left)
      | some (serial, 0) =>
          if scene.host.accepts (.wait thread (.lock serial) none {}) then
            some ([], { scene.call (.wait thread (.lock serial) none {}) with
              spinning := scene.spinning.erase thread })
          else none
      | none => none

theorem step_of_next? {choice : Choice} (made : scene.next? choice = some (deeds, after)) :
    Step scene deeds after := by
  cases choice with
  | call call =>
    simp only [next?] at made
    split at made
    · next accepted =>
      cases made
      exact .call call accepted
    · cases made
  | arrive =>
    simp only [next?] at made
    split at made
    · next wakeUp rest owed =>
      cases made
      obtain ⟨woken, reaches, delivered⟩ := scene.host.reaches_deliver wakeUp
      have first : scene.owed = [] ++ wakeUp :: rest := owed
      exact delivered ▸ .arrive woken first reaches
    · cases made
  | enter thread serial =>
    simp only [next?] at made
    split at made
    · next lock found free =>
      split at made
      · next idle =>
        cases made
        exact .enter idle free found
      · cases made
    · cases made
  | look thread =>
    simp only [next?] at made
    split at made
    · next found =>
      cases made
      exact .spin found
    · next found =>
      split at made
      · next accepted =>
        cases made
        exact .block found accepted
      · cases made
    · cases made

/-- What comes of some choices, one after the other. -/
def play (scene : Scene) : List Choice → Option (List SyncDeed × Scene)
  | [] => some ([], scene)
  | choice :: rest => do
      let (deeds, middle) ← scene.next? choice
      let (more, after) ← middle.play rest
      return (deeds ++ more, after)

theorem Run.play (run : Run start deeds scene) {choices : List Choice} {more : List SyncDeed}
    (made : scene.play choices = some (more, after)) : Run start (deeds ++ more) after := by
  induction choices generalizing scene deeds more with
  | nil =>
    cases made
    simpa using run
  | cons choice rest ih =>
    simp only [Scene.play, Option.bind_eq_bind, Option.bind_eq_some_iff, Option.pure_def,
      Option.some.injEq, Prod.mk.injEq, Prod.exists] at made
    obtain ⟨first, middle, chosen, later, last, onward, rfl, rfl⟩ := made
    have next := ih (run.step (step_of_next? chosen)) onward
    rwa [List.append_assoc] at next

theorem run_of_play (choices : List Choice) (made : start.play choices = some (deeds, after)) :
    Run start deeds after := by
  have run := Run.start.play made
  rwa [List.nil_append] at run

end Scene

end Steward
