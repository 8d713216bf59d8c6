import Steward.Proofs.Host.Scene

/-! Signals that let one waiter through, among any number of threads. Each wait that is told that
the signal came uses up a setting of its own; waits that end otherwise use up nothing. -/

set_option autoImplicit false

namespace Steward.Host

/-- A wait was told that a signal came. -/
def SyncDeed.receives (serial : Nat) : SyncDeed → Bool
  | ended _ (.signal other) .signaled => decide (other = serial)
  | _ => false

/-- A signal is set no longer: it was cleared, or a wait received it. -/
def SyncDeed.usesUp (serial : Nat) : SyncDeed → Bool
  | cleared other => decide (other = serial)
  | deed => deed.receives serial

/-- A signal was set, and not used up since. -/
def Pending (serial : Nat) (log : List SyncDeed) : Prop :=
  ∃ early late, log = early ++ .set serial :: late ∧ ∀ deed ∈ late, deed.usesUp serial = false

/-- A setting of a signal is received by a wait, by their places: the signal was not used up in
between. -/
structure Feeds (serial : Nat) (log : List SyncDeed) (source use : Nat) : Prop where
  earlier : source < use
  set : log[source]? = some (.set serial)
  receives : ∃ deed, log[use]? = some deed ∧ deed.receives serial = true
  spared : ∀ place deed, source < place → place < use → log[place]? = some deed →
    deed.usesUp serial = false

variable {host after : Host} {serial : Nat} {log deeds more : List SyncDeed} {deed : SyncDeed}

theorem SyncDeed.usesUp_of_receives (receives : deed.receives serial = true) :
    deed.usesUp serial = true := by
  cases deed with
  | ended => exact receives
  | set | cleared | gave | entered | left => cases receives

theorem SyncDeed.spares_of_isQuiet (quiet : deed.isQuiet = true) (serial : Nat) :
    deed.usesUp serial = false := by
  cases deed with
  | ended thread target outcome =>
    unfold SyncDeed.usesUp SyncDeed.receives
    split
    · next same => cases same
    · split
      · next same =>
        cases same
        cases quiet
      · rfl
  | set | cleared | gave | entered | left => cases quiet

/-! ### Logs -/

namespace Pending

/-- As long as nothing is used up, what was pending stays so, and what is set becomes so. -/
theorem append_iff (spares : ∀ deed ∈ more, deed.usesUp serial = false) :
    Pending serial (log ++ more) ↔ Pending serial log ∨ .set serial ∈ more := by
  constructor
  · rintro ⟨early, late, split, spared⟩
    rcases split_append split with ⟨rest, before, rfl⟩ | ⟨rest, _, inside⟩
    · exact .inl ⟨early, rest, before, fun deed there => spared deed (List.mem_append_left _ there)⟩
    · exact .inr (by simp [inside])
  · rintro (⟨early, late, rfl, spared⟩ | inside)
    · refine ⟨early, late ++ more, by simp, fun deed there => ?_⟩
      exact (List.mem_append.1 there).elim (spared deed) (spares deed)
    · obtain ⟨early, late, rfl⟩ := List.append_of_mem inside
      exact ⟨log ++ early, late, by simp, fun deed there => spares deed (by simp [there])⟩

theorem not_append (uses : deed.usesUp serial = true) : ¬Pending serial (log ++ [deed]) := by
  rintro ⟨early, late, split, spared⟩
  -- The last deed is not the setting itself, so it comes after it.
  have last : deed ∈ late := by
    rcases split_append split with ⟨rest, _, rfl⟩ | ⟨rest, _, inside⟩
    · simp
    · have only : SyncDeed.set serial ∈ [deed] := by simp [inside]
      cases List.mem_singleton.1 only
      cases uses
  rw [spared deed last] at uses
  cases uses

/-- What a wait receives while a signal is pending was set earlier, and not used up since. -/
theorem feeds {use : Nat} (pending : Pending serial (log.take use)) (there : log[use]? = some deed)
    (receives : deed.receives serial = true) : ∃ source, Feeds serial log source use := by
  obtain ⟨early, late, split, spared⟩ := pending
  have within : use < log.length := (List.getElem?_eq_some_iff.1 there).1
  have length : use = early.length + (late.length + 1) := by
    have := congrArg List.length split
    simpa [Nat.min_eq_left (Nat.le_of_lt within)] using this
  have places : ∀ place, place < use → log[place]? = (early ++ .set serial :: late)[place]? := by
    intro place before
    rw [← split, List.getElem?_take_of_lt before]
  refine ⟨early.length, by omega, ?_, ⟨deed, there, receives⟩,
    fun place other after before found => ?_⟩
  · rw [places _ (by omega)]
    simp
  · rw [places place before, List.getElem?_append_right (Nat.le_of_lt after)] at found
    obtain ⟨offset, rfl⟩ : ∃ offset, place = early.length + (offset + 1) :=
      ⟨place - early.length - 1, by omega⟩
    simp only [Nat.add_sub_cancel_left, List.getElem?_cons_succ] at found
    exact spared other (List.mem_of_getElem? found)

end Pending

/-- A setting is received at most once. -/
theorem Feeds.unique {source first second : Nat} (one : Feeds serial log source first)
    (other : Feeds serial log source second) : first = second := by
  have apart : ∀ {early late : Nat}, Feeds serial log source early →
      Feeds serial log source late → ¬early < late := by
    intro early late one other less
    obtain ⟨deed, there, receives⟩ := one.receives
    have spared := other.spared early deed one.earlier less there
    rw [SyncDeed.usesUp_of_receives receives] at spared
    cases spared
  exact Nat.le_antisymm (Nat.not_lt.1 (apart other one)) (Nat.not_lt.1 (apart one other))

/-! ### What is done to a signal -/

/-- What becomes of a signal through some deeds. -/
inductive Sways (serial : Nat) (signal : Sync.Signal) : List SyncDeed → Sync.Signal → Prop where
  | usedUp {deed : SyncDeed} (uses : deed.usesUp serial = true)
      (present : deed.receives serial = true → signal.isSet = true) :
      Sways serial signal [deed] signal.clear
  | set {deeds : List SyncDeed} (spares : ∀ deed ∈ deeds, deed.usesUp serial = false)
      (inside : .set serial ∈ deeds) : Sways serial signal deeds signal.set
  | aside {deeds : List SyncDeed} (spares : ∀ deed ∈ deeds, deed.usesUp serial = false)
      (outside : .set serial ∉ deeds) : Sways serial signal deeds signal

theorem Effect.sways (effect : Effect host deeds after) (known : serial < host.nextSerial)
    {signal : Sync.Signal} (found : host.signals.get? serial = some signal)
    (fleeting : signal.lasting = false) :
    ∃ next, after.signals.get? serial = some next ∧ Sways serial signal deeds next := by
  -- Deeds that bear neither on this signal nor on any other.
  have unchanged : ∀ {deeds : List SyncDeed},
      (∀ other, after.signals.get? other = host.signals.get? other) →
      (∀ deed ∈ deeds, deed.usesUp serial = false) → .set serial ∉ deeds →
      ∃ next, after.signals.get? serial = some next ∧ Sways serial signal deeds next :=
    fun same spares outside => ⟨signal, by rw [same, found], .aside spares outside⟩
  cases effect with
  | @still sets ends after still quiet =>
    have spares : ∀ deed ∈ sets.map SyncDeed.set ++ ends, deed.usesUp serial = false := by
      intro deed inside
      rcases List.mem_append.1 inside with set | ended
      · obtain ⟨other, _, rfl⟩ := List.mem_map.1 set
        rfl
      · exact SyncDeed.spares_of_isQuiet (quiet deed ended) serial
    have inside : .set serial ∈ sets.map SyncDeed.set ++ ends ↔ serial ∈ sets := by
      have outside : .set serial ∉ ends := fun there => by cases quiet _ there
      simp [outside]
    have there := still.signals serial
    rw [found] at there
    by_cases set : serial ∈ sets
    · exact ⟨signal.set, by simpa [set] using there, .set spares (inside.2 set)⟩
    · exact ⟨signal, by simpa [set] using there, .aside spares (mt inside.1 set)⟩
  | @took thread target ending left after shared taken still =>
    cases taken with
    | @signal other before left there made =>
      by_cases same : other = serial
      · subst same
        rw [found] at there
        cases there
        unfold Sync.Signal.take? at made
        split at made
        · next set =>
          cases made
          refine ⟨signal.clear, ?_, .usedUp (decide_eq_true rfl) fun _ => set⟩
          simp [still.signals, fleeting, Sync.Signal.clear]
        · cases made
      · refine ⟨signal, ?_, .aside ?_ (by simp)⟩
        · simp [still.signals, Ne.symm same, found]
        · simp [SyncDeed.usesUp, SyncDeed.receives, same]
    | semaphore | lock =>
      exact unchanged (fun other => by simp [still.signals])
        (by simp [SyncDeed.usesUp, SyncDeed.receives]) (by simp)
    | notice => cases shared
    | passed apart =>
      rw [apart] at shared
      cases shared
  | addedSignal added still =>
    refine ⟨signal, ?_, .aside (by simp) (by simp)⟩
    simp [still.signals, addSignal, Nat.ne_of_lt known, found]
  | addedSemaphore added still =>
    exact unchanged (fun other => by simp [still.signals, addSemaphore]) (by simp) (by simp)
  | addedLock added still =>
    exact unchanged (fun other => by simp [still.signals, addLock]) (by simp) (by simp)
  | cleared other still =>
    by_cases same : other = serial
    · subst same
      refine ⟨signal.clear, ?_, .usedUp (decide_eq_true rfl) fun receives => ?_⟩
      · simp [still.signals, clearSignal, found]
      · cases receives
    · refine ⟨signal, ?_, .aside ?_ (by simp)⟩
      · simp [still.signals, clearSignal, Ne.symm same, found]
      · simp [SyncDeed.usesUp, same]
  | gave there made still | entered there made still | left there made still =>
    exact unchanged (fun other => by simp [still.signals])
      (by simp [SyncDeed.usesUp, SyncDeed.receives]) (by simp)
  | respun there still => exact unchanged (fun other => by simp [still.signals]) (by simp) (by simp)

/-- A signal is set just when it is pending, and whoever received it did so while it was. -/
structure Signaling (serial : Nat) (log : List SyncDeed) (host : Host) : Prop where
  known : serial < host.nextSerial
  current : ∃ signal, host.signals.get? serial = some signal ∧ signal.lasting = false ∧
    (signal.isSet = true ↔ Pending serial log)
  fed : ∀ early deed late, log = early ++ deed :: late → deed.receives serial = true →
    Pending serial early

namespace Signaling

theorem effect (signaling : Signaling serial log host) (effect : Effect host more after) :
    Signaling serial (log ++ more) after := by
  obtain ⟨known, ⟨signal, found, fleeting, set⟩, fed⟩ := signaling
  obtain ⟨next, there, sways⟩ := effect.sways known found fleeting
  refine ⟨Nat.lt_of_lt_of_le known effect.nextSerial_le, ⟨next, there, ?_⟩, ?_⟩
  · cases sways with
    | usedUp uses => exact ⟨fleeting, by simpa [Sync.Signal.clear] using Pending.not_append uses⟩
    | set spares inside =>
      exact ⟨fleeting, by simpa [Sync.Signal.set] using (Pending.append_iff spares).2 (.inr inside)⟩
    | aside spares outside =>
      exact ⟨fleeting, by rw [set, Pending.append_iff spares, or_iff_left outside]⟩
  · intro early deed late split receives
    rcases split_append split with ⟨rest, before, _⟩ | ⟨rest, rfl, inside⟩
    · exact fed early deed rest before receives
    · have uses := SyncDeed.usesUp_of_receives receives
      cases sways with
      | @usedUp other _ present =>
        -- The wait is all that happened in this step, and it found the signal set.
        obtain ⟨rfl, rfl, rfl⟩ : rest = [] ∧ other = deed ∧ late = [] := by
          cases rest <;> simp_all
        simpa using set.1 (present receives)
      | set spares | aside spares =>
        rw [spares deed (by simp [inside])] at uses
        cases uses

end Signaling

/-- Whatever does not use up a pending signal leaves it as it is. -/
theorem Effect.standing (effect : Effect host deeds after) (known : serial < host.nextSerial)
    {signal : Sync.Signal} (found : host.signals.get? serial = some signal)
    (fleeting : signal.lasting = false) (set : signal.isSet = true)
    (spares : ∀ deed ∈ deeds, deed.usesUp serial = false) :
    after.signals.get? serial = some signal := by
  obtain ⟨next, there, sways⟩ := effect.sways known found fleeting
  cases sways with
  | usedUp uses =>
    rw [spares _ (List.mem_singleton_self _)] at uses
    cases uses
  | set =>
    have same : signal.set = signal := by simp only [Sync.Signal.set, ← set]
    rwa [same] at there
  | aside => exact there

/-- A turn uses up nothing when it ends no wait, or one that is told of something else. -/
theorem spares_turnDeeds (host : Host) (thread : ThreadId) (serial : Nat)
    (otherwise : ∀ ending, (host.turn thread).1 = some ending → ending.outcome.isSignaled = false) :
    ∀ deed ∈ host.turnDeeds thread, deed.usesUp serial = false := by
  intro deed inside
  unfold turnDeeds at inside
  split at inside
  · cases inside
  · next wait ending looked _ =>
    rcases List.mem_append.1 inside with set | ended
    · obtain ⟨other, _, rfl⟩ := List.mem_map.1 set
      rfl
    · obtain ⟨told, made, rfl⟩ : ∃ told, (host.turn thread).1 = some told ∧
          SyncDeed.ended thread wait.target told.outcome = deed := by simpa using ended
      exact SyncDeed.spares_of_isQuiet (by simp [SyncDeed.isQuiet, otherwise told made]) serial

/-- A thread that looks for a signal that is set is told so, unless its wait begins under an
alert. -/
theorem turn_of_isSet {thread : ThreadId} {wait : Wait} (orderly : host.Orderly)
    (found : host.waits.get? thread = some wait) (stirs : wait.stage ≠ .asleep)
    (present : host.isForestalled thread wait = false) (target : wait.target = .signal serial)
    {signal : Sync.Signal} (there : host.signals.get? serial = some signal)
    (set : signal.isSet = true) : (host.turn thread).1 = some ⟨.signaled, none⟩ := by
  have taken : (host.away thread).take? thread wait.target = some (⟨.signaled, none⟩,
      { host.away thread with
        signals := host.signals.insert serial { signal with isSet := signal.lasting } }) := by
    simp [target, take?, away, there, Sync.Signal.take?, set]
  have tried : (host.away thread).attempt thread wait = (some ⟨.signaled, none⟩,
      { host.away thread with
        signals := host.signals.insert serial { signal with isSet := signal.lasting } }) := by
    have starts : (decide (wait.stage = .starting) && wait.options.alertable &&
        (host.away thread).isAlerted thread) = false := present
    simp only [attempt, starts, Bool.false_eq_true, if_false, look, taken]
  rw [turn_eq found stirs, tried]
  exact conclude_of_signaled (orderly.waits thread wait found).proper (by rw [target]; rfl) rfl

end Steward.Host

namespace Steward.Scene

open Host

variable {config : Config} {opened : String → Except Error Trace.Sink} {created : Host}
  {scene last : Scene} {earlier deeds : List SyncDeed}

/-- What happened to a signal, where a signal that is set at first counts as set. -/
def signalLog (serial : Nat) (initial : Bool) (deeds : List SyncDeed) : List SyncDeed :=
  (if initial then [.set serial] else []) ++ deeds

theorem signaling_addSignal (scene : Scene) (initial : Bool) :
    Signaling scene.host.nextSerial (signalLog scene.host.nextSerial initial [])
      (scene.call (.addSignal { lasting := false, isSet := initial })).host := by
  have none : ∀ deed ∈ ([] : List SyncDeed), deed.usesUp scene.host.nextSerial = false := nofun
  refine ⟨Nat.lt_succ_self _, ⟨_, Assoc.get?_insert_self .., rfl, ?_⟩, ?_⟩
  · cases initial with
    | true => exact ⟨fun _ => ⟨[], [], rfl, none⟩, fun _ => rfl⟩
    | false =>
      refine ⟨nofun, ?_⟩
      rintro ⟨early, late, split, _⟩
      cases early <;> cases split
  · intro early deed late split receives
    have first : deed ∈ signalLog scene.host.nextSerial initial [] := by simp [split]
    cases initial with
    | true =>
      cases List.mem_singleton.1 first
      cases receives
    | false => cases first

/-- Among any number of threads that set, clear and await a new signal in any way, it is set just
when it was set since it was last cleared or received. So each wait that received it used up a
setting that no other wait received and that was not cleared before. Settings of a signal that is
set change nothing, and neither do waits that end otherwise: it is there for the next that looks. -/
theorem isSet_iff_pending (made : Host.create config opened = .ok created)
    (before : Run { host := created } earlier scene) (initial : Bool)
    (run : Run (scene.call (.addSignal { lasting := false, isSet := initial })) deeds last) :
    ∃ signal, last.host.signals.get? scene.host.nextSerial = some signal ∧
      (signal.isSet = true ↔
        Pending scene.host.nextSerial (signalLog scene.host.nextSerial initial deeds)) ∧
      (∀ use deed, (signalLog scene.host.nextSerial initial deeds)[use]? = some deed →
        deed.receives scene.host.nextSerial = true →
        ∃ source, Feeds scene.host.nextSerial (signalLog scene.host.nextSerial initial deeds)
            source use ∧
          ∀ other, Feeds scene.host.nextSerial (signalLog scene.host.nextSerial initial deeds)
            source other → other = use) ∧
      (signal.isSet = true →
        (last.host.heed (.setSignal scene.host.nextSerial)).signals.get? scene.host.nextSerial =
            some signal ∧
          ∀ thread cookie,
            (last.host.heed (.setMonitor thread scene.host.nextSerial cookie)).signals.get?
              scene.host.nextSerial = some signal) ∧
      (signal.isSet = true → ∀ thread,
        (∀ ending, (last.host.turn thread).1 = some ending → ending.outcome.isSignaled = false) →
        (last.host.turn thread).2.signals.get? scene.host.nextSerial = some signal) ∧
      (signal.isSet = true → ∀ thread wait, last.host.waits.get? thread = some wait →
        wait.target = .signal scene.host.nextSerial → wait.stage ≠ .asleep →
        last.host.isForestalled thread wait = false →
        (last.host.turn thread).1 = some ⟨.signaled, none⟩) := by
  have begun : (scene.call (.addSignal { lasting := false, isSet := initial })).host.Orderly :=
    orderly_call (before.orderly (.create made)) rfl
  have orderly := run.orderly begun
  let logged : List SyncDeed → Host → Prop := fun deeds host =>
    Signaling scene.host.nextSerial (signalLog scene.host.nextSerial initial deeds) host
  have signaling : logged deeds last.host := by
    refine run.effects begun (scene.signaling_addSignal initial)
      fun deeds more _ _ effect kept => ?_
    have next := Signaling.effect kept effect
    rwa [signalLog, List.append_assoc] at next
  obtain ⟨known, ⟨signal, found, fleeting, pending⟩, fed⟩ := signaling
  refine ⟨signal, found, pending, fun use deed there receives => ?_,
    fun set => ⟨?_, fun thread cookie => ?_⟩,
    fun set thread otherwise => ?_, fun set thread wait waits target stirs present =>
      turn_of_isSet orderly waits stirs present target found set⟩
  · obtain ⟨within, rfl⟩ := List.getElem?_eq_some_iff.1 there
    have split := (List.take_append_drop use (signalLog scene.host.nextSerial initial deeds)).symm
    rw [List.drop_eq_getElem_cons within] at split
    obtain ⟨source, feeds⟩ := (fed _ _ _ split receives).feeds there receives
    exact ⟨source, feeds, fun other again => again.unique feeds⟩
  · exact (effect_heed orderly (.setSignal scene.host.nextSerial)).standing known found fleeting set
      fun deed inside => List.mem_singleton.1 inside ▸ rfl
  · exact (effect_heed orderly (.setMonitor thread scene.host.nextSerial cookie)).standing known
      found fleeting set fun deed inside => List.mem_singleton.1 inside ▸ rfl
  · exact (effect_heed orderly (.turn thread)).standing known found fleeting set
      (last.host.spares_turnDeeds thread _ otherwise)

/-- A watched wait receives one of two settings. A wait that begins under an alert leaves the third
one where it is. -/
def settings : List Choice :=
  [.call .installOracle, .call (.monitorWait ⟨2⟩ 0 ⟨7⟩ none {}), .call (.turn ⟨2⟩),
    .call (.setSignal 0), .arrive, .call (.setMonitor ⟨1⟩ 0 ⟨7⟩), .arrive, .call (.turn ⟨2⟩),
    .call (.setSignal 0), .arrive, .call (.alert ⟨1⟩),
    .call (.wait ⟨1⟩ (.signal 0) none { alertable := true }), .call (.turn ⟨1⟩), .arrive,
    .call (.wait ⟨2⟩ (.signal 0) (some 0) {})]

theorem isSet_iff_pending_settings :
    ∃ start, Host.create {} (fun _ => .ok (.memory 0 [])) = .ok start ∧
      ∃ last, (Scene.call { host := start.heedAll [.spawn, .spawn] }
          (.addSignal { lasting := false, isSet := false })).play settings =
            some ([.set 0, .set 0, .ended ⟨2⟩ (.signal 0) .signaled, .set 0,
              .ended ⟨1⟩ (.signal 0) .interrupted], last) ∧
        ∃ signal, last.host.signals.get? 0 = some signal ∧ signal.isSet = true ∧
          (∃ source, Feeds 0 (signalLog 0 false [.set 0, .set 0, .ended ⟨2⟩ (.signal 0) .signaled,
            .set 0, .ended ⟨1⟩ (.signal 0) .interrupted]) source 2) ∧
          (last.host.heed (.setSignal 0)).signals.get? 0 = some signal ∧
          (last.host.turn ⟨2⟩).1 = some ⟨.signaled, none⟩ := by
  refine ⟨_, rfl, _, rfl, _, rfl, ?_⟩
  have before := run_heedAll (@Orderly.create {} (fun _ => .ok (.memory 0 [])) _ rfl)
    [.spawn, .spawn] rfl
  obtain ⟨signal, found, pending, fed, coalesces, -, next⟩ :=
    @isSet_iff_pending {} (fun _ => .ok (.memory 0 [])) _ _ _ _ _ rfl before false
      (run_of_play settings rfl)
  cases found
  obtain ⟨source, feeds, -⟩ := fed 2 _ rfl rfl
  exact ⟨rfl, ⟨source, feeds⟩, (coalesces rfl).1, next rfl ⟨2⟩ _ rfl rfl nofun rfl⟩

end Steward.Scene
