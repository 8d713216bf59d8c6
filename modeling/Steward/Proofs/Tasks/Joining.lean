import Steward.Proofs.Sync.Alerts
import Steward.Proofs.Sync.Waking
import Steward.Proofs.Tasks.Departure

/-! How threads wait for the end of others. A thread that the host made counts as exited with the
last step of its end, and from then on everybody who joins it is told so. How any other thread ends
the host does not see, although it has a task for every thread that asked for one. -/

set_option autoImplicit false

namespace Steward.Host

/-- A call makes a thread. -/
def Moment.makes (thread : ThreadId) (moment : Moment) : Bool :=
  match moment.call with
  | .createTask _ => decide (thread = ⟨moment.host.nextThread⟩)
  | _ => false

/-- The life of a host: the calls that began on it, and the wake-ups that are on their way. Only of
a thread that the host made can the routine be over. -/
inductive Life (start : Host) : List Moment → Host → List WakeUp → Prop where
  | start : Life start [] start []
  | called {past : List Moment} {host : Host} {owed : List WakeUp}
      (life : Life start past host owed) (call : Call) (accepted : host.accepts call = true)
      (finished : ∀ thread, call = .beginDeparture thread →
        past.any (Moment.makes thread) = true) :
      Life start (past ++ [⟨host, call⟩]) (host.begin call) (owed ++ host.wakeUps call)
  | arrived {past : List Moment} {host : Host} {early late : List WakeUp} {wakeUp : WakeUp}
      (life : Life start past host (early ++ wakeUp :: late)) (woken : ThreadId → Wait → Bool)
      (reaches : host.Reaches wakeUp woken) : Life start past (host.rouse woken) (early ++ late)
  /-- Who passes a signal on looks first whether it is still set. -/
  | forwent {past : List Moment} {host : Host} {early late : List WakeUp} {serial : Nat}
      {signal : Sync.Signal}
      (life : Life start past host (early ++ ⟨.signal serial, false⟩ :: late))
      (found : host.signals.get? serial = some signal) (unset : signal.isSet = false) :
      Life start past host (early ++ late)
  /-- Threads wake for no reason. -/
  | stirred {past : List Moment} {host : Host} {owed : List WakeUp}
      (life : Life start past host owed) (woken : ThreadId → Wait → Bool) :
      Life start past (host.rouse woken) owed
  | respun {past : List Moment} {host : Host} {owed : List WakeUp} {serial spins : Nat}
      {lock : Sync.CriticalSection} (life : Life start past host owed)
      (found : host.locks.get? serial = some lock) :
      Life start past { host with locks := host.locks.insert serial { lock with spins } } owed

variable {start host after last : Host} {past : List Moment} {owed : List WakeUp}
  {thread other : ThreadId} {call : Call} {wait : Wait}

namespace Life

theorem deliverAll (life : Life start past host owed) :
    Life start past (host.deliverAll owed) [] := by
  induction owed generalizing host with
  | nil => exact life
  | cons wakeUp rest ih =>
    obtain ⟨woken, reaches, delivered⟩ := host.reaches_deliver wakeUp
    have arrived := @arrived _ _ _ [] rest wakeUp life woken reaches
    exact ih (delivered ▸ arrived)

/-- The wake-ups of a call can arrive at once. -/
theorem heed (life : Life start past host []) (orderly : host.Orderly) (call : Call)
    (accepted : host.accepts call = true)
    (finished : ∀ thread, call = .beginDeparture thread → past.any (Moment.makes thread) = true) :
    Life start (past ++ [⟨host, call⟩]) (host.heed call) [] := by
  rw [heed_eq_deliverAll orderly accepted]
  exact (life.called call accepted finished).deliverAll

theorem heedAll {calls : List Call} (life : Life start past host []) (orderly : host.Orderly)
    (accepted : host.acceptsAll calls = true)
    (finished : ∀ call ∈ calls, ∀ thread, call = .beginDeparture thread →
      past.any (Moment.makes thread) = true) :
    Life start (past ++ host.momentsAll calls) (host.heedAll calls) [] := by
  induction calls generalizing host past with
  | nil => simpa [momentsAll, Host.heedAll] using life
  | cons call rest ih =>
    simp only [acceptsAll, Bool.and_eq_true] at accepted
    have first := life.heed orderly call accepted.1 (finished call (List.mem_cons_self ..))
    have onward := ih first (orderly.heed accepted.1) accepted.2 fun other inside thread ends => by
      rw [List.any_append, finished other (List.mem_cons_of_mem _ inside) thread ends, Bool.true_or]
    simpa [momentsAll, Host.heedAll] using onward

end Life

/-! ### Ends -/

/-- What is true at every moment of a life: nobody sleeps untold, only threads that the host made
end, and those that took the last step of it have exited. -/
structure Living (past : List Moment) (host : Host) (owed : List WakeUp) : Prop where
  attended : Attended host owed
  numbered : host.roster.Numbered
  kept : ∀ thread, past.any (Moment.makes thread) = true →
    host.roster.controls.contains thread = true
  made : ∀ thread, host.leaving.get? thread ≠ none ∨ host.AtGate thread →
    past.any (Moment.makes thread) = true
  ended : ∀ thread, past.any (Moment.departs thread .marking) = true →
    past.any (Moment.makes thread) = true
  exited : ∀ thread,
    (host.control thread).exited = past.any (Moment.departs thread .marking)

theorem Handled.kept_of_makes {roster : Roster} (handled : Handled host call roster)
    (makes : Moment.makes thread ⟨host, call⟩ = true) :
    roster.controls.contains thread = true := by
  cases handled with
  | refused | created =>
    have new : thread = ⟨host.nextThread⟩ := of_decide_eq_true makes
    rw [new]
    exact (Assoc.contains_insert ..).trans (by simp [roster])
  | spared spares => cases call <;> first | cases makes | cases spares
  | asked asks => cases call <;> first | cases makes | cases asks
  | _ => cases makes

namespace Living

theorem create {config : Config} {opened : String → Except Error Trace.Sink}
    (created : Host.create config opened = .ok start) : Living [] start [] := by
  obtain ⟨waits, controls⟩ := nobody_of_create created
  have roster := roster_of_create created
  refine ⟨.of_nobody (.create created) waits, numbered_of_create created, by simp,
    fun thread ends => ?_, by simp, fun thread => ?_⟩
  · rcases ends with leaves | ⟨wait, found, _⟩
    · have nobody : start.leaving = {} := congrArg Roster.leaving roster
      exact absurd (by rw [nobody]; rfl) leaves
    · rw [waits, Assoc.get?_empty] at found
      cases found
  · rw [control, controls, Assoc.getD, Assoc.get?_empty]
    rfl

theorem departs (living : Living past host owed)
    (departs : Moment.departs thread .marking ⟨host, call⟩ = true) :
    past.any (Moment.makes thread) = true := by
  cases call with
  | depart other =>
    obtain ⟨rfl, found⟩ := of_decide_eq_true departs
    exact living.made other (.inl (by rw [found]; nofun))
  | _ => cases departs

theorem made_begin (living : Living past host owed)
    (finished : ∀ thread, call = .beginDeparture thread → past.any (Moment.makes thread) = true)
    (ends : (host.begin call).leaving.get? thread ≠ none ∨ (host.begin call).AtGate thread) :
    past.any (Moment.makes thread) = true ∨ Moment.makes thread ⟨host, call⟩ = true := by
  rcases ends with leaves | ⟨wait, found, purpose⟩
  · refine .inl ?_
    have parts := (host.handled call).parts thread
    have same : (host.begin call).leaving.get? thread =
      (host.begin call).roster.leaving.get? thread := rfl
    rw [same] at leaves
    generalize (host.begin call).roster.leaving.get? thread = departure at parts leaves
    cases parts with
    | stays => exact living.made thread (.inl leaves)
    | ends ends =>
      rcases ends with rfl | passes
      · exact finished thread rfl
      · obtain ⟨_, wait, _, _, _, purpose, found⟩ := atGate_of_passesGate passes
        exact living.made thread (.inr ⟨wait, found, purpose⟩)
    | departs =>
      refine living.made thread (.inl fun absent => leaves ?_)
      rw [absent]
      rfl
  · have through := fares living.attended.orderly call thread
    rw [found] at through
    rcases through.of_start purpose with ⟨before, there, starts, _⟩ | ⟨⟨parent, rfl⟩, new, _⟩
    · exact .inl (living.made thread (.inr ⟨before, there, starts⟩))
    · exact .inr (decide_eq_true new)

theorem begin (living : Living past host owed) (accepted : host.accepts call = true)
    (finished : ∀ thread, call = .beginDeparture thread → past.any (Moment.makes thread) = true) :
    Living (past ++ [⟨host, call⟩]) (host.begin call) (owed ++ host.wakeUps call) := by
  have handled := host.handled call
  refine ⟨living.attended.begun (begun_begin living.attended.orderly accepted),
    (handled.numbered living.numbered).1, fun thread makes => ?_, fun thread ends => ?_,
    fun thread ended => ?_, fun thread => ?_⟩
  · simp only [List.any_append, List.any_cons, List.any_nil, Bool.or_false, Bool.or_eq_true]
      at makes
    rcases makes with before | now
    · exact handled.kept (living.kept thread before)
    · exact handled.kept_of_makes now
  · simpa using living.made_begin finished ends
  · simp only [List.any_append, List.any_cons, List.any_nil, Bool.or_false, Bool.or_eq_true]
      at ended ⊢
    rcases ended with before | now
    · exact .inl (living.ended thread before)
    · exact .inl (living.departs now)
  · have exited := handled.exited living.numbered fun found =>
      living.kept thread (living.made thread (.inl (by rw [found]; nofun)))
    rw [List.any_append, ← living.exited thread, List.any_cons, List.any_nil, Bool.or_false]
    exact exited

/-- Threads that wake, and locks that are told how often to look, change nothing of that. -/
theorem rest {left : List WakeUp} (living : Living past host owed) (attended : Attended after left)
    (same : after.roster = host.roster)
    (gates : ∀ thread, after.AtGate thread → host.AtGate thread) : Living past after left := by
  refine ⟨attended, same ▸ living.numbered, fun thread makes => ?_, fun thread ends => ?_,
    living.ended, fun thread => ?_⟩
  · rw [same]
    exact living.kept thread makes
  · have leaving : after.leaving = host.leaving := congrArg Roster.leaving same
    rw [leaving] at ends
    exact living.made thread (ends.imp_right (gates thread))
  · have control : after.control thread = host.control thread :=
      congrArg (fun roster : Roster => roster.control thread) same
    rw [control]
    exact living.exited thread

end Living

theorem Life.living {config : Config} {opened : String → Except Error Trace.Sink}
    (created : Host.create config opened = .ok start) (life : Life start past host owed) :
    Living past host owed := by
  induction life with
  | start => exact .create created
  | called _ call accepted finished ih => exact ih.begin accepted finished
  | arrived _ woken reaches ih =>
    exact ih.rest (ih.attended.arrive reaches) rfl fun _ gated => gated.of_rouse
  | forwent _ found unset ih =>
    exact ih.rest (ih.attended.forgo found unset) rfl fun _ gated => gated
  | stirred _ woken ih => exact ih.rest (ih.attended.rouse woken) rfl fun _ gated => gated.of_rouse
  | respun _ found ih => exact ih.rest (ih.attended.respin found) rfl fun _ gated => gated

/-! ### Joins -/

/-- A thread waits for the end of another one. -/
structure Wait.Joins (wait : Wait) (thread : ThreadId) : Prop where
  target : wait.target = .exit thread
  purpose : wait.purpose = .plain

/-- How a thread is told of what it waited for, when it has looked: that it is there, or that an
alert came before. -/
def toldOfExit (interrupted : Bool) : Ending :=
  ⟨if interrupted then .interrupted else .signaled, none⟩

theorem turn_of_join (found : host.waits.get? other = some wait) (joins : wait.Joins thread)
    (stirs : wait.stage ≠ .asleep) (exited : (host.control thread).exited = true) :
    (host.turn other).1 = some (toldOfExit (host.isForestalled other wait)) := by
  cases stopped : host.isForestalled other wait with
  | true => exact (turn_of_isForestalled found stopped (by rw [joins.purpose]; nofun)).1
  | false =>
    have there : (host.away other).take? other wait.target =
        some (⟨.signaled, none⟩, host.away other) := by
      have same : (host.away other).control thread = host.control thread := rfl
      simp [joins.target, take?, same, exited]
    have tried : (host.away other).attempt other wait =
        (some ⟨.signaled, none⟩, host.away other) := by
      have calm : (decide (wait.stage = .starting) && wait.options.alertable &&
        (host.away other).isAlerted other) = false := stopped
      simp only [attempt, calm, Bool.false_eq_true, if_false, look, there]
    rw [turn_eq found stirs, tried]
    simp only [conclude, joins.purpose]
    rfl

theorem outcome_of_join {ending : Ending} (found : host.waits.get? other = some wait)
    (joins : wait.Joins thread) (going : (host.control thread).exited = false)
    (made : (host.turn other).1 = some ending) : ending.outcome ≠ .signaled := by
  have missing : (host.away other).take? other wait.target = none := by
    have same : (host.away other).control thread = host.control thread := rfl
    simp [joins.target, take?, same, going]
  intro signaled
  by_cases asleep : wait.stage = .asleep
  · rw [turn_of_asleep found asleep] at made
    cases made
  · rw [turn_eq found asleep] at made
    simp only [attempt, look, missing] at made
    split at made
    · next ended =>
      simp only [conclude, joins.purpose, Option.some.injEq] at made
      subst made
      split at ended
      · cases ended
        cases signaled
      · split at ended
        · cases ended
          cases signaled
        · split at ended <;> cases ended
          cases signaled
    · cases made

/-- When no wake-up is on its way, nobody sleeps on what is open to everyone. -/
theorem Attended.stirs (attended : Attended host []) {target : Target}
    (opened : host.isOpen target = true) (found : host.waits.get? other = some wait)
    (same : wait.target = target) : wait.stage ≠ .asleep := by
  intro asleep
  have sleeps : 0 < host.waiting .asleep target := by
    simp only [waiting, Assoc.count, Assoc.values, List.countP_map, List.countP_pos_iff]
    exact ⟨(other, wait), Assoc.mem_of_get? found, by simp [Wait.isAt, same, asleep]⟩
  rcases attended.covered target with told | enough | ⟨closed, _⟩
  · cases told
  · rw [List.count_nil] at enough
    exact absurd sleeps (Nat.not_lt.2 enough)
  · cases opened.symm.trans closed

/-- A task shows whether its thread has ended, and everybody else who joins it is told so: whoever
joins it then, when he looks for the first time, and whoever joined it before, who is woken. Nobody
is told of an end that did not come yet. -/
structure ShowsEnd (host : Host) (owed : List WakeUp) (serial : Nat) (ended : Prop) : Prop where
  exited : (host.control (host.task serial).thread).exited = true ↔ ended
  prompt : ended → ∀ other, other ≠ (host.task serial).thread → ∀ timeout options, ∃ joined,
    host.startJoin other serial timeout options = .ok joined ∧
      (joined.turn other).1 = some (toldOfExit (options.alertable && host.isAlerted other))
  told : ended → ∀ other wait, host.waits.get? other = some wait →
    wait.Joins (host.task serial).thread → wait.stage ≠ .asleep →
      (host.turn other).1 = some (toldOfExit (host.isForestalled other wait))
  woken : ended → owed = [] → ∀ other wait, host.waits.get? other = some wait →
    wait.Joins (host.task serial).thread → wait.stage ≠ .asleep
  untold : ¬ ended → ∀ other wait ending, host.waits.get? other = some wait →
    wait.Joins (host.task serial).thread → (host.turn other).1 = some ending →
      ending.outcome ≠ .signaled

theorem startJoin_eq {serial : Nat} (apart : other ≠ (host.task serial).thread)
    (timeout : Option Nat) (options : Sync.WaitOptions) :
    host.startJoin other serial timeout options =
      .ok (host.startWait other (.exit (host.task serial).thread) timeout options .plain) := by
  rw [startJoin, if_neg fun same => apart same.symm]

theorem Living.showsEnd (living : Living past host owed) (serial : Nat) :
    ShowsEnd host owed serial
      (past.any (Moment.departs (host.task serial).thread .marking) = true) := by
  have exited := living.exited (host.task serial).thread
  refine ⟨by rw [exited], fun ended other apart timeout options => ?_,
    fun ended other wait found joins stirs => ?_,
    fun ended delivered other wait found joins => ?_,
    fun going other wait ending found joins made => ?_⟩
  · let joined := host.startWait other (.exit (host.task serial).thread) timeout options .plain
    let wait : Wait := ⟨.exit (host.task serial).thread,
      timeout.map fun span => host.clock + span, options, .plain, .starting⟩
    have begun : joined.waits.get? other = some wait := Assoc.get?_insert_self ..
    have joins : wait.Joins (host.task serial).thread := ⟨rfl, rfl⟩
    refine ⟨joined, startJoin_eq apart timeout options, ?_⟩
    exact turn_of_join begun joins nofun (exited.trans ended)
  · exact turn_of_join found joins stirs (exited.trans ended)
  · subst delivered
    have opened : host.isOpen (.exit (host.task serial).thread) = true := exited.trans ended
    exact living.attended.stirs opened found joins.target
  · exact outcome_of_join found joins (exited.trans (Bool.eq_false_iff.2 going)) made

/-- A task shows the end of its thread, however it came to be and whatever became of it, exactly if
the thread did not end elsewhere: of threads that it did not make the host learns nothing, so that a
task that a running thread asked for never shows that the thread ended. -/
theorem showsEnd_iff {config : Config} {opened : String → Except Error Trace.Sink}
    (created : Host.create config opened = .ok start) (life : Life start past host owed)
    {elsewhere : ThreadId → Prop}
    (foreign : ∀ thread, elsewhere thread → past.any (Moment.makes thread) = false) (serial : Nat) :
    ShowsEnd host owed serial (elsewhere (host.task serial).thread ∨
        past.any (Moment.departs (host.task serial).thread .marking) = true) ↔
      ¬ elsewhere (host.task serial).thread := by
  have living := life.living created
  constructor
  · intro shows gone
    have exited := (shows.exited.2 (.inl gone))
    rw [living.exited] at exited
    cases (living.ended _ exited).symm.trans (foreign _ gone)
  · intro here
    simpa [here] using living.showsEnd serial

/-- A thread joins a task that runs, and sleeps. -/
def joinedTask : List Call :=
  [.spawn, .createTask ⟨1⟩, .startTask 0, .turn ⟨2⟩, .wait ⟨1⟩ (.exit ⟨2⟩) none {}, .turn ⟨1⟩]

/-- The routine of the task is over, and its thread ends. -/
def endedTask : List Call := [.beginDeparture ⟨2⟩, .depart ⟨2⟩, .depart ⟨2⟩, .depart ⟨2⟩]

theorem showsEnd_joinedTask :
    ∃ start past host, create {} (fun _ => .ok (.memory 0 [])) = .ok start ∧
      host = (start.heedAll joinedTask).heedAll endedTask ∧ Life start past host [] ∧
      (host.task 0).thread = ⟨2⟩ ∧ (host.control ⟨2⟩).exited = true ∧
      (host.turn ⟨1⟩).1 = some ⟨.signaled, none⟩ := by
  have orderly := @Orderly.create {} (fun _ => .ok (.memory 0 [])) _ rfl
  have joined := Life.start.heedAll orderly (show acceptsAll _ joinedTask = true from rfl)
    (by simp [joinedTask])
  have ended := joined.heedAll
    (@Life.living _ _ _ _ {} (fun _ => .ok (.memory 0 [])) rfl joined).attended.orderly
    (show acceptsAll _ endedTask = true from rfl) (by
      simp only [endedTask, List.mem_cons, List.not_mem_nil, or_false]
      rintro call (rfl | rfl | rfl | rfl) thread ends <;> cases ends
      decide +kernel)
  have shows := (@showsEnd_iff _ _ _ _ {} (fun _ => .ok (.memory 0 [])) rfl ended
    (fun _ => False) (fun _ => False.elim) 0).2 id
  have finished := shows.exited.2 (.inr (by decide +kernel))
  let wait : Wait := ⟨.exit ⟨2⟩, none, {}, .plain, .awake⟩
  have told := shows.told (.inr (by decide +kernel)) ⟨1⟩ wait rfl ⟨rfl, rfl⟩
    (shows.woken (.inr (by decide +kernel)) rfl ⟨1⟩ wait rfl ⟨rfl, rfl⟩)
  exact ⟨_, _, _, rfl, rfl, ended, by decide +kernel, finished, told.trans rfl⟩

/-- A task that a thread asked for which the host did not make, and a join with a deadline. -/
def foreignTask : List Call :=
  [.spawn, .spawn, .currentTask ⟨2⟩, .wait ⟨1⟩ (.exit ⟨2⟩) (some 10) {}, .turn ⟨1⟩, .elapse 10]

/-- The thread of the task has ended elsewhere. Its task does not show that, and the join comes to
its deadline. -/
theorem not_showsEnd_foreignTask :
    ∃ start past host, create {} (fun _ => .ok (.memory 0 [])) = .ok start ∧
      host = start.heedAll foreignTask ∧ Life start past host [] ∧
      past.any (Moment.makes ⟨2⟩) = false ∧ (host.task 0).thread = ⟨2⟩ ∧
      ¬ ShowsEnd host [] 0 True ∧ (host.turn ⟨1⟩).1 = some ⟨.timedOut, none⟩ := by
  have orderly := @Orderly.create {} (fun _ => .ok (.memory 0 [])) _ rfl
  have life := Life.start.heedAll orderly (show acceptsAll _ foreignTask = true from rfl)
    (by simp [foreignTask])
  refine ⟨_, _, _, rfl, rfl, life, by decide +kernel, by decide +kernel, fun shows => ?_,
    by decide +kernel⟩
  have exited := shows.exited.2 trivial
  revert exited
  decide +kernel

end Steward.Host
