import Steward.Proofs.Deadlock.Division
import Steward.Proofs.Deadlock.Honest
import Steward.Proofs.Deadlock.Slices

/-! Watched waits of bounded time that end because their time has passed. Whatever threads do
meanwhile, the slices of such a wait are the ones that the time divides into. Each of them lasts as
long as it should, and after each the thread looks for a ring once. -/

set_option autoImplicit false

namespace Steward.Host

open Deadlock

/-- The slice that a wait is in. -/
def Purpose.slice? : Purpose → Option Nat
  | .watched _ backoff => some backoff.current
  | _ => none

/-- The slice of its wait that a thread finds run out when it takes its turn. -/
def Moment.span? (thread : ThreadId) (moment : Moment) : Option Nat :=
  if moment.isTurnOf thread then
    (moment.host.glimpse thread).bind fun (wait, ending, _) =>
      if ending.outcome.isTimedOut then wait.purpose.slice? else none
  else none

/-- The slices of a thread's wait that ran out, in order. -/
def spans (thread : ThreadId) (moments : List Moment) : List Nat :=
  moments.filterMap (Moment.span? thread)

/-- When the slice of a thread's wait began: at its last look or, before the first, at the beginning
of the wait. -/
def sliceBegan (thread : ThreadId) (opening : Nat) (moments : List Moment) : Nat :=
  moments.foldl (fun began moment =>
    if (moment.span? thread).isSome then moment.host.clock else began) opening

/-- A thread that waits for nothing begins to wait for a signal in slices. Nobody need tell the
owners of locks yet. -/
structure Vigil (config : DeadlockConfig) (total : Nat) where
  host : Host
  thread : ThreadId
  serial : Nat
  cookie : Cookie
  options : Sync.WaitOptions
  orderly : host.Orderly
  named : host.names (.signal serial) = true
  idle : host.isIdle thread = true

/-- What a turn in a slice comes to, unless something else than the time ends the wait. The thread
goes on to sleep; or its slice ran out, it shows its lock, looks for a ring once and finds none, and
then goes on with the next slice or gives up. -/
inductive Looks (host : Host) (thread : ThreadId) (wait : Wait) (cookie : Cookie)
    (backoff : Backoff) : Option Nat → Option Ending × Host → Prop where
  | rested : Looks host thread wait cookie backoff none (none, host)
  | dozed : Looks host thread wait cookie backoff none (none, { host with
      waits := (host.waits.erase thread).insert thread { wait with stage := .asleep } })
  | wentOn {looked : Host} {next : Backoff} (due : wait.isDue host.clock = true)
      (alone : ((host.away thread).shows thread cookie).detect thread thread cookie =
        (none, looked))
      (onward : backoff.spend.next? = some next) :
      Looks host thread wait cookie backoff (some backoff.current)
        (none, looked.startWait thread wait.target (some next.current) wait.options
          (.watched cookie next))
  | gaveUp {looked : Host} (due : wait.isDue host.clock = true)
      (alone : ((host.away thread).shows thread cookie).detect thread thread cookie =
        (none, looked))
      (nothing : backoff.spend.next? = none) :
      Looks host thread wait cookie backoff (some backoff.current)
        (some ⟨.timedOut, none⟩, looked.endEnter thread)

variable {start host after last : Host} {moments more early late : List Moment}
  {moment : Moment} {thread : ThreadId} {wait : Wait} {serial : Nat} {cookie : Cookie}
  {backoff : Backoff}

theorem spans_append (thread : ThreadId) (early late : List Moment) :
    spans thread (early ++ late) = spans thread early ++ spans thread late :=
  List.filterMap_append

theorem spans_more (thread : ThreadId) (moments : List Moment) (moment : Moment) :
    spans thread (moments ++ [moment]) =
      spans thread moments ++ (moment.span? thread).toList := by
  rw [spans_append]
  rfl

theorem sliceBegan_more (thread : ThreadId) (opening : Nat) (moments : List Moment)
    (moment : Moment) : sliceBegan thread opening (moments ++ [moment]) =
      if (moment.span? thread).isSome then moment.host.clock
      else sliceBegan thread opening moments := by
  simp only [sliceBegan, List.foldl_append, List.foldl_cons, List.foldl_nil]

theorem spans_of_quiet (quiet : ∀ moment ∈ more, moment.isTurnOf thread = false) :
    spans thread more = [] := by
  refine List.filterMap_eq_nil_iff.2 fun moment inside => ?_
  rw [Moment.span?, quiet moment inside]
  rfl

/-- A slice goes on while its thread takes no turn. -/
theorem sliceBegan_of_quiet (opening : Nat)
    (quiet : ∀ moment ∈ more, moment.isTurnOf thread = false) :
    sliceBegan thread opening (moments ++ more) = sliceBegan thread opening moments := by
  have nothing := List.filterMap_eq_nil_iff.1 (spans_of_quiet quiet)
  rw [sliceBegan, List.foldl_append]
  exact List.foldlRecOn more _ (motive := (· = sliceBegan thread opening moments)) rfl
    fun began same moment inside => by rw [nothing moment inside]; exact same

/-! ### One turn -/

/-- A look ends with the time of a wait only where nothing else happens. -/
theorem timedOut_of_glimpse {ending : Ending} {looked : Host}
    (seen : host.glimpse thread = some (wait, ending, looked))
    (lapsed : ending.outcome.isTimedOut = true) :
    looked = host.away thread ∧ wait.isDue host.clock = true := by
  obtain ⟨_, _, made⟩ := attempt_of_glimpse seen
  unfold attempt look at made
  split at made
  · cases made
    cases lapsed
  · split at made
    · next taken =>
      cases made
      rw [(takes_of_take? taken).isTimedOut] at lapsed
      cases lapsed
    · split at made
      · cases made
        cases lapsed
      · split at made
        · next due =>
          cases made
          exact ⟨rfl, due⟩
        · cases made

theorem span?_turn (host : Host) (thread : ThreadId) :
    Moment.span? thread ⟨host, .turn thread⟩ =
      (host.glimpse thread).bind fun (wait, ending, _) =>
        if ending.outcome.isTimedOut then wait.purpose.slice? else none :=
  if_pos (decide_eq_true rfl)

theorem span?_of_aside {call : Call} (apart : call ≠ .turn thread) :
    Moment.span? thread ⟨host, call⟩ = none :=
  if_neg fun turns => apart (isTurnOf_iff.1 turns)

theorem looks (found : host.waits.get? thread = some wait)
    (purpose : wait.purpose = .watched cookie backoff)
    (lapsing : ∀ ending, (host.turn thread).1 = some ending → ending.outcome = .timedOut) :
    Looks host thread wait cookie backoff (Moment.span? thread ⟨host, .turn thread⟩)
      (host.turn thread) := by
  rw [span?_turn]
  cases seen : host.glimpse thread with
  | none =>
    have silent := (turn_of_glimpse_eq_none seen).1
    generalize turned : host.turn thread = result at silent
    obtain ⟨told, left⟩ := result
    obtain rfl : told = none := silent
    have same := turn_of_unseen seen
    simp only [turned, found, Option.some.injEq] at same
    rcases same with rfl | ⟨_, rfl, _, rfl⟩
    · exact .rested
    · exact .dozed
  | some sight =>
    obtain ⟨other, ending, looked⟩ := sight
    obtain ⟨there, turned, _⟩ := glimpse_eq_some seen
    cases found.symm.trans there
    rw [Option.bind_some]
    cases lapsed : ending.outcome.isTimedOut with
    | false =>
      -- What ended the wait is told.
      simp only [turned, conclude, purpose, lapsed, Bool.false_eq_true, if_false,
        Option.some.injEq, forall_eq'] at lapsing
      rw [lapsing] at lapsed
      cases lapsed
    | true =>
      obtain ⟨rfl, due⟩ := timedOut_of_glimpse seen lapsed
      simp only [conclude, purpose, lapsed, if_true, sliceOver] at turned
      generalize looks : (host.away thread).tryEnter thread thread cookie = result at turned
      obtain ⟨report?, looked⟩ := result
      cases report? with
      | some report =>
        rw [turned] at lapsing
        cases lapsing _ rfl
      | none =>
        simp only [lapsed, if_true, purpose, Purpose.slice?]
        cases onward : backoff.spend.next? with
        | none =>
          simp only [onward] at turned
          rw [turned]
          exact .gaveUp due looks onward
        | some next =>
          simp only [onward] at turned
          rw [turned]
          exact .wentOn due looks onward

/-! ### The slice that a wait is in -/

theorem clock_setSignal (host : Host) (serial : Nat) :
    (host.setSignal serial).clock = host.clock := by
  unfold setSignal
  split
  · rfl
  · simp only
    split
    · rfl
    · obtain ⟨woken, roused⟩ := rouses_wakeOne _ (.signal serial)
      rw [roused]
      rfl

theorem clock_askOwner (host : Host) (asker : ThreadId) (cookie : Cookie) :
    (askOwner asker cookie host).2.clock = host.clock := by
  unfold askOwner
  simp only
  split
  · rw [setMonitor, clock_setSignal]
    split <;> rfl
  · split <;> rfl

/-- No time passes while a thread looks for a ring. -/
theorem clock_detect (host : Host) (asker thread : ThreadId) (cookie : Cookie) :
    (host.detect asker thread cookie).2.clock = host.clock := by
  let still : Host → Prop := fun world => world.clock = host.clock
  have answers : ∀ world, still world → ∀ cookie, still ((oracle asker).ask cookie world).2 :=
    fun world same other => (clock_askOwner world asker other).trans same
  unfold detect
  split
  · exact Oracle.follow_keeps answers _ rfl
  · rfl

namespace Vigil

variable {config : DeadlockConfig} {total : Nat} (vigil : Vigil config total)

/-- The host on which the thread has begun to wait. -/
def begun : Host :=
  vigil.host.startWait vigil.thread (.signal vigil.serial) (some (config.opening total).current)
    vigil.options (.watched vigil.cookie (config.opening total))

/-- The wait of the thread in its first slice. -/
def firstWait : Wait :=
  ⟨.signal vigil.serial, some (vigil.host.clock + (config.opening total).current), vigil.options,
    .watched vigil.cookie (config.opening total), .starting⟩

theorem waits_begun :
    vigil.begun.waits = vigil.host.waits.insert vigil.thread vigil.firstWait := by
  rw [begun, startWait, Assoc.erase_of_absent (absent_of_isIdle vigil.idle)]
  rfl

theorem get?_begun : vigil.begun.waits.get? vigil.thread = some vigil.firstWait :=
  Assoc.get?_insert_self ..

theorem orderly_begun : vigil.begun.Orderly := by
  have offers : Offers [] vigil.host vigil.begun := .of_same rfl rfl rfl rfl rfl
  exact vigil.orderly.begun (.began offers (absent_of_isIdle vigil.idle) rfl rfl vigil.named
    vigil.waits_begun (isIdle_iff.1 vigil.idle).1 (Nat.le_refl _) rfl)

/-- A thread is in the slice that follows on those that ran out, and waits for as long as the slice
is from when it began. -/
structure Abides (moments : List Moment) (host : Host) (wait : Wait) (backoff : Backoff) :
    Prop where
  found : host.waits.get? vigil.thread = some wait
  purpose : wait.purpose = .watched vigil.cookie backoff
  bounded : backoff.total = some total
  waited : backoff.waited = (spans vigil.thread moments).sum
  deadline : wait.deadline =
    some (sliceBegan vigil.thread vigil.host.clock moments + backoff.current)
  began : vigil.host.clock + backoff.waited ≤ sliceBegan vigil.thread vigil.host.clock moments
  onward : ∀ rest, backoff.Divides rest →
    (config.opening total).Divides (spans vigil.thread moments ++ rest)

theorem abides_begun : vigil.Abides [] vigil.begun vigil.firstWait (config.opening total) := by
  exact ⟨vigil.get?_begun, rfl, rfl, rfl, rfl, Nat.le_refl _, fun rest divides => divides⟩

namespace Abides

variable {vigil}

/-- A slice does not run out before its time. -/
theorem lasts (abides : vigil.Abides moments host wait backoff) {clock : Nat}
    (due : wait.isDue clock = true) :
    vigil.host.clock + backoff.waited + backoff.current ≤ clock := by
  rw [Wait.isDue, abides.deadline] at due
  have late := of_decide_eq_true due
  have began := abides.began
  omega

theorem keep (abides : vigil.Abides moments host wait backoff)
    (quiet : ∀ moment ∈ more, moment.isTurnOf vigil.thread = false)
    (stays : after.waits.get? vigil.thread = some wait ∨
      after.waits.get? vigil.thread = some wait.wake) :
    ∃ wait, vigil.Abides (moments ++ more) after wait backoff := by
  have same : spans vigil.thread (moments ++ more) = spans vigil.thread moments := by
    rw [spans_append, spans_of_quiet quiet, List.append_nil]
  have still := @sliceBegan_of_quiet moments more vigil.thread vigil.host.clock quiet
  rcases stays with kept | woken
  · exact ⟨wait, kept, abides.purpose, abides.bounded, same ▸ abides.waited,
      still ▸ abides.deadline, still ▸ abides.began, same ▸ abides.onward⟩
  · exact ⟨wait.wake, woken, (purpose_wake wait).trans abides.purpose, abides.bounded,
      same ▸ abides.waited, still ▸ (Wait.wake_deadline wait).trans abides.deadline,
      still ▸ abides.began, same ▸ abides.onward⟩

/-- A turn that is told of nothing leaves the thread in its slice, or brings it to the next. -/
theorem turn (abides : vigil.Abides moments host wait backoff)
    (silent : (host.turn vigil.thread).1 = none) :
    ∃ wait backoff, vigil.Abides (moments ++ [⟨host, .turn vigil.thread⟩])
      (host.begin (.turn vigil.thread)) wait backoff := by
  have turned := looks abides.found abides.purpose (by simp [silent])
  have there := get?_begin_turn host vigil.thread
  have more := spans_more vigil.thread moments ⟨host, .turn vigil.thread⟩
  have began := sliceBegan_more vigil.thread vigil.host.clock moments ⟨host, .turn vigil.thread⟩
  generalize Moment.span? vigil.thread ⟨host, .turn vigil.thread⟩ = span? at turned more began
  generalize host.turn vigil.thread = result at turned there silent
  cases turned with
  | rested =>
    rw [Option.toList_none, List.append_nil] at more
    exact ⟨wait, backoff, there.trans abides.found, abides.purpose, abides.bounded,
      more ▸ abides.waited, began ▸ abides.deadline, began ▸ abides.began, more ▸ abides.onward⟩
  | dozed =>
    rw [Option.toList_none, List.append_nil] at more
    exact ⟨_, backoff, there.trans (Assoc.get?_insert_self ..), abides.purpose, abides.bounded,
      more ▸ abides.waited, began ▸ abides.deadline, began ▸ abides.began, more ▸ abides.onward⟩
  | @wentOn looked next due alone onward =>
    have counted := Backoff.waited_of_next? onward
    have clock := clock_detect ((host.away vigil.thread).shows vigil.thread vigil.cookie)
      vigil.thread vigil.thread vigil.cookie
    rw [alone] at clock
    have now : looked.clock = host.clock := clock
    have here : sliceBegan vigil.thread vigil.host.clock
        (moments ++ [⟨host, .turn vigil.thread⟩]) = host.clock := began
    refine ⟨_, next, there.trans (Assoc.get?_insert_self ..), rfl, counted.2.trans abides.bounded,
      ?_, ?_, ?_, fun rest divides => ?_⟩
    · rw [more, counted.1, abides.waited]
      simp
    · rw [here, ← now]
      rfl
    · have before := abides.lasts due
      rw [here, counted.1]
      omega
    · rw [more, List.append_assoc]
      exact abides.onward _ (.onward onward divides)
  | gaveUp => cases silent

end Abides

theorem abides (course : Course vigil.begun moments host)
    (untold : ∀ moment ∈ moments, moment.outcome? vigil.thread = none) :
    ∃ wait backoff, vigil.Abides moments host wait backoff := by
  let abiding : List Moment → Host → Prop := fun moments host =>
    ∃ wait backoff, vigil.Abides moments host wait backoff
  refine @Course.induction _ _ _ abiding _ course vigil.orderly_begun untold
    ⟨_, _, vigil.abides_begun⟩ ?_
  rintro early more middle after step settled quiet ⟨wait, backoff, abides⟩
  rcases step.spares settled abides.found with ⟨rfl, rfl⟩ | ⟨aside, stays⟩
  · have silent := quiet _ (List.mem_singleton_self _)
    rw [outcome?_turn, Option.map_eq_none_iff] at silent
    exact abides.turn silent
  · obtain ⟨wait, kept⟩ := abides.keep aside stays
    exact ⟨wait, backoff, kept⟩

end Vigil

/-! ### The edge of a waiting thread -/

theorem purpose?_rouse (host : Host) (woken : ThreadId → Wait → Bool) (thread : ThreadId) :
    (host.rouse woken).purpose? thread = host.purpose? thread := by
  rw [purpose?, get?_rouse, Option.map_map, purpose?]
  refine Option.map_congr fun wait _ => ?_
  simp only [Function.comp_apply]
  split
  · exact purpose_wake wait
  · rfl

theorem isSome_lapse? (host : Host) (thread : ThreadId) :
    (host.lapse? thread).isSome = (Moment.span? thread ⟨host, .turn thread⟩).isSome := by
  rw [span?_turn, lapse?]
  cases host.glimpse thread with
  | none => rfl
  | some sight =>
    obtain ⟨wait, ending, looked⟩ := sight
    simp only [Option.bind_some]
    split
    · cases purpose : wait.purpose <;> rfl
    · rfl

/-- What is done by others, or begun while the thread waits, leaves the wait that it is
inside of. -/
theorem inside_aside {deeds : List WatchDeed} {call : Call} (busy : host.isIdle thread = false)
    (apart : call ≠ .turn thread) :
    inside thread (deeds ++ host.watchDeeds call) = inside thread deeds := by
  cases call with
  | turn other =>
    have distinct : thread ≠ other := fun same => apart (same ▸ rfl)
    exact inside_turn distinct deeds host
  | monitorWait waiter serial lock timeout options =>
    simp only [watchDeeds]
    split
    · next begins =>
      have other : waiter ≠ thread := by
        rintro rfl
        simp [busy] at begins
      rw [inside_more, WatchDeed.after, if_neg other]
    · rw [List.append_nil]
  | _ => simp only [watchDeeds, List.append_nil]

namespace Watched

variable {deeds : List WatchDeed} {slices : Nat}

/-- Who is woken still waits for the same. -/
theorem rouse_iff {woken : ThreadId → Wait → Bool} :
    Watched deeds (host.rouse woken) ↔ Watched deeds host := by
  have same := host.purpose?_rouse woken
  exact ⟨fun watched => watched.steady ⟨.refl _, rfl, fun thread => (same thread).symm,
      fun aloof => ⟨aloof, rfl⟩⟩,
    fun watched => watched.steady ⟨.refl _, rfl, same, fun aloof => ⟨aloof, rfl⟩⟩⟩

theorem begin (watched : Watched deeds host) (orderly : host.Orderly) {call : Call}
    (accepted : host.accepts call = true) (indirect : call.isIndirect = true) :
    Watched (deeds ++ host.watchDeeds call) (host.begin call) := by
  obtain ⟨woken, roused⟩ := (host.begin call).rouses_deliverAll (host.wakeUps call)
  have heeded := watched.heed indirect
  rw [heed_eq_deliverAll orderly accepted, roused] at heeded
  exact rouse_iff.1 heeded

theorem edge_of_inside (watched : Watched deeds host)
    (within : inside thread deeds = some (cookie, slices)) :
    host.detector.waits.get? thread = if slices = 0 then none else some cookie := by
  apply Option.ext
  intro lock
  rw [watched.shown thread lock, within]
  cases slices <;> simp

theorem busy_of_inside (watched : Watched deeds host)
    (within : inside thread deeds = some (cookie, slices)) : host.isIdle thread = false := by
  refine Bool.eq_false_iff.2 fun idle => ?_
  have waiting := watched.waiting thread
  rw [within, (isIdle_iff.1 idle).2] at waiting
  cases waiting

/-- While nobody but waits shows locks, the slices of a wait are counted along with it. -/
theorem course (watched : Watched deeds start) (orderly : start.Orderly)
    (within : inside thread deeds = some (cookie, slices)) (course : Course start moments last)
    (all : ∀ moment ∈ moments, moment.outcome? thread = none ∧ moment.call.isIndirect = true) :
    ∃ later, Watched later last ∧
      inside thread later = some (cookie, slices + (spans thread moments).length) := by
  let counted : List Moment → Host → Prop := fun moments host =>
    ∃ later, Watched later host ∧
      inside thread later = some (cookie, slices + (spans thread moments).length)
  refine @Course.induction _ _ _ counted _ course orderly all ⟨deeds, watched, within⟩ ?_
  rintro early more middle after step settled quiet ⟨later, watched, within⟩
  cases step with
  | began call accepted =>
    obtain ⟨silent, indirect⟩ := quiet _ (List.mem_singleton_self _)
    refine ⟨_, watched.begin settled accepted indirect, ?_⟩
    rw [spans_more, List.length_append, ← Nat.add_assoc]
    by_cases turns : call = .turn thread
    · subst turns
      rw [outcome?_turn, Option.map_eq_none_iff] at silent
      rw [watchDeeds, silent, isSome_lapse?]
      cases Moment.span? thread ⟨middle, .turn thread⟩ with
      | none => simpa [endDeeds] using within
      | some span => simp [endDeeds, WatchDeed.after, within]
    · rw [inside_aside (watched.busy_of_inside within) turns, within]
      have aside : Moment.span? thread ⟨middle, call⟩ = none := span?_of_aside turns
      rw [aside]
      rfl
  | roused woken => exact ⟨later, rouse_iff.2 watched, by simpa using within⟩
  | respun => exact ⟨later, watched.steady (.of_same rfl rfl rfl rfl rfl), by simpa using within⟩

end Watched

/-! ### The whole wait -/

theorem Moment.call_of_outcome? {outcome : Sync.Outcome}
    (told : moment.outcome? thread = some outcome) : moment.call = .turn thread := by
  refine isTurnOf_iff.1 (Decidable.byContradiction fun apart => ?_)
  rw [Moment.outcome?, if_neg apart] at told
  cases told

/-- What comes before a moment of a wait, or before its end, is early. -/
theorem mem_of_split {sooner later : List Moment} {next : Moment}
    (split : early ++ [moment] = sooner ++ next :: later) :
    (∀ earlier ∈ sooner, earlier ∈ early) ∧ (next ∈ early ∨ next = moment) := by
  rcases split_append split with ⟨rest, rfl, rfl⟩ | ⟨rest, rfl, last⟩
  · exact ⟨fun _ => List.mem_append_left _, .inl (by simp)⟩
  · cases rest with
    | nil =>
      cases last
      exact ⟨by simp, .inr rfl⟩
    | cons => simp at last

namespace Vigil

variable {config : DeadlockConfig} {total : Nat} {vigil : Vigil config total}

theorem Abides.looks (abides : vigil.Abides moments host wait backoff)
    (lapsing : ∀ ending, (host.turn vigil.thread).1 = some ending → ending.outcome = .timedOut) :
    Looks host vigil.thread wait vigil.cookie backoff
        (Moment.span? vigil.thread ⟨host, .turn vigil.thread⟩) (host.turn vigil.thread) ∧
      ∀ span, Moment.span? vigil.thread ⟨host, .turn vigil.thread⟩ = some span →
        vigil.host.clock + (spans vigil.thread moments).sum + span ≤ host.clock := by
  have looks := Host.looks abides.found abides.purpose lapsing
  refine ⟨looks, fun span ran => ?_⟩
  rw [ran] at looks
  rw [← abides.waited]
  generalize host.turn vigil.thread = result at looks
  cases looks with
  | wentOn due | gaveUp due => exact abides.lasts due

theorem Abides.spends (abides : vigil.Abides moments host wait backoff)
    (told : (host.turn vigil.thread).1.map Ending.outcome = some .timedOut) :
    Backoff.Spends config.initialSlice total
        (spans vigil.thread (moments ++ [⟨host, .turn vigil.thread⟩])) ∧
      (host.begin (.turn vigil.thread)).detector.waits.get? vigil.thread = none := by
  have looks := (abides.looks fun ending ended => by simpa [ended] using told).1
  have detector : (host.begin (.turn vigil.thread)).detector =
      (host.turn vigil.thread).2.detector := rfl
  rw [spans_more, detector]
  generalize Moment.span? vigil.thread ⟨host, .turn vigil.thread⟩ = span? at looks ⊢
  generalize host.turn vigil.thread = result at looks told ⊢
  cases looks with
  | rested | dozed | wentOn => cases told
  | gaveUp due alone nothing =>
    exact ⟨(abides.onward _ (.last nothing)).spends, Assoc.get?_erase_self ..⟩

/-- The edge of the thread is there from the end of its first slice on. -/
theorem edge (course : Course vigil.begun moments host) {deeds : List WatchDeed}
    (watched : Watched deeds vigil.host)
    (all : ∀ moment ∈ moments,
      moment.outcome? vigil.thread = none ∧ moment.call.isIndirect = true) :
    host.detector.waits.get? vigil.thread =
      if spans vigil.thread moments = [] then none else some vigil.cookie := by
  obtain ⟨numbered, free⟩ := isIdle_iff.1 vigil.idle
  have begun : Watched (deeds ++ [.began vigil.thread vigil.cookie]) vigil.begun :=
    watched.watch numbered free ..
  have first : inside vigil.thread (deeds ++ [.began vigil.thread vigil.cookie]) =
      some (vigil.cookie, 0) := by simp [WatchDeed.after]
  obtain ⟨later, watched, within⟩ := begun.course vigil.orderly_begun first course all
  rw [watched.edge_of_inside within, Nat.zero_add]
  simp only [List.length_eq_zero_iff]

end Vigil

/-- A wait for a monitor while somebody tells the owners of locks is one in slices. -/
def Watch.vigil {config : DeadlockConfig} {total : Nat} (watch : Watch config total) :
    Vigil config total :=
  ⟨watch.host, watch.thread, watch.serial, watch.cookie, watch.options, watch.orderly,
    watch.named, watch.idle⟩

theorem Watch.begun_eq {config : DeadlockConfig} {total : Nat} (watch : Watch config total) :
    watch.begun = watch.vigil.begun := by
  have plain : (watch.options.unwatched || !watch.host.detector.hasOracle) = false := by
    simp [watch.watched, watch.installed]
  have heeds : watch.host.heed (.monitorWait watch.thread watch.serial watch.cookie (some total)
      watch.options) = watch.vigil.begun := by
    simp only [heed, whenIdle, watch.idle, if_true, startMonitorWait, plain, watch.configured]
    rfl
  -- Nobody is woken by the beginning of a wait.
  have absent := absent_of_isIdle watch.idle
  have waits : unwoken watch.host.waits watch.vigil.begun.waits = watch.vigil.begun.waits := by
    refine .trans ?_ watch.vigil.waits_begun.symm
    exact (WokenFrom.of_same rfl).unwoken_startWait (fun _ _ found => found) absent
      (by simp [absent]) ..
  rw [begun, begin_of_patient _ rfl, heeds, waits]

/-- A wait of bounded time in slices that ends because its time has passed spends all of it in the
slices that it waits, the last of which takes the rest. Each slice is waited for as long as it is,
from when it began, which is when the one before it was found to have run out. After each the thread
asks for a ring once, and not before the slice has passed. Its edge is there from the end of the
first slice on. -/
theorem timedOut_spends {config : DeadlockConfig} {total : Nat} (vigil : Vigil config total)
    (course : Course vigil.begun early moment.host)
    (untold : ∀ earlier ∈ early, earlier.outcome? vigil.thread = none)
    (told : moment.outcome? vigil.thread = some .timedOut) :
    let moments := early ++ [moment]
    Backoff.Spends config.initialSlice total (spans vigil.thread moments) ∧
    (∀ sooner turn later, moments = sooner ++ turn :: later →
      turn.isTurnOf vigil.thread = true →
      ∃ wait backoff, turn.host.waits.get? vigil.thread = some wait ∧
        wait.purpose = .watched vigil.cookie backoff ∧
        wait.deadline =
          some (sliceBegan vigil.thread vigil.host.clock sooner + backoff.current) ∧
        Looks turn.host vigil.thread wait vigil.cookie backoff (turn.span? vigil.thread)
          (turn.host.turn vigil.thread) ∧
        ∀ span, turn.span? vigil.thread = some span →
          vigil.host.clock + (spans vigil.thread sooner).sum + span ≤ turn.host.clock) ∧
    moment.after.detector.waits.get? vigil.thread = none ∧
    ∀ deeds, Watched deeds vigil.host → (∀ earlier ∈ early, earlier.call.isIndirect = true) →
      ∀ sooner next later, moments = sooner ++ next :: later →
        next.host.detector.waits.get? vigil.thread =
          if spans vigil.thread sooner = [] then none else some vigil.cookie := by
  obtain ⟨last, call⟩ := moment
  obtain rfl : call = .turn vigil.thread := Moment.call_of_outcome? told
  have whole := course.call (.turn vigil.thread) rfl
  obtain ⟨wait, backoff, abides⟩ := vigil.abides course untold
  obtain ⟨spends, gone⟩ := abides.spends (outcome?_turn last vigil.thread ▸ told)
  refine ⟨spends, fun sooner turn later split turns => ?_, gone,
    fun deeds watched indirect sooner next later split => ?_⟩
  · obtain ⟨before, here⟩ := mem_of_split split
    obtain ⟨led, _, _⟩ := (split ▸ whole).cut
    obtain ⟨wait, backoff, abides⟩ :=
      vigil.abides led fun earlier inside => untold earlier (before earlier inside)
    obtain ⟨middle, call⟩ := turn
    obtain rfl : call = .turn vigil.thread := isTurnOf_iff.1 turns
    refine ⟨wait, backoff, abides.found, abides.purpose, abides.deadline,
      abides.looks fun ending ended => ?_⟩
    rcases here with sooner | same
    · have silent := untold _ sooner
      rw [outcome?_turn, ended] at silent
      cases silent
    · rw [← same, outcome?_turn, ended] at told
      exact Option.some.inj told
  · obtain ⟨before, _⟩ := mem_of_split split
    obtain ⟨led, _, _⟩ := (split ▸ whole).cut
    exact Vigil.edge led watched fun earlier inside =>
      ⟨untold earlier (before earlier inside), indirect earlier (before earlier inside)⟩

/-- The first three slices of a wait of a second pass, and the time of the last one. -/
def oneSecond : List Call :=
  [.elapse 100000000, .turn ⟨1⟩, .elapse 300000000, .turn ⟨1⟩, .elapse 700000000, .turn ⟨1⟩,
    .elapse 1000000000]

/-- With the first slice that a host has where nothing else is asked for, a second is spent in four
slices. -/
theorem timedOut_spends_oneThread :
    ∃ start, create {} (fun _ => .ok (.memory 0 [])) = .ok start ∧
      ∃ watch : Watch {} 1000000000, watch.host = start.heedAll oneThread ∧
        ∃ early moment, Course watch.begun early moment.host ∧
          (∀ earlier ∈ early, earlier.outcome? watch.thread = none) ∧
          moment.outcome? watch.thread = some .timedOut ∧
          spans watch.thread (early ++ [moment]) =
            [100000000, 200000000, 400000000, 300000000] ∧
          Backoff.Spends 100000000 1000000000 (spans watch.thread (early ++ [moment])) ∧
          ∀ sooner next later, early ++ [moment] = sooner ++ next :: later →
            next.host.detector.waits.get? watch.thread =
              if spans watch.thread sooner = [] then none else some watch.cookie := by
  let watch : Watch {} 1000000000 :=
    ⟨_, ⟨1⟩, 0, ⟨1⟩, {}, @orderly_oneThread _ {} (fun _ => .ok (.memory 0 [])) rfl, rfl, rfl, rfl,
      rfl, rfl⟩
  let moment : Moment := ⟨watch.begun.heedAll oneSecond, .turn ⟨1⟩⟩
  have passes : Course watch.begun (watch.begun.momentsAll oneSecond) moment.host :=
    .heedAll .start watch.orderly_begun (show acceptsAll _ oneSecond = true from rfl)
  have untold : ∀ earlier ∈ watch.begun.momentsAll oneSecond, earlier.outcome? ⟨1⟩ = none := by
    decide +kernel
  have told : moment.outcome? ⟨1⟩ = some .timedOut := by decide +kernel
  have watched := (@Watched.initial {} (fun _ => .ok (.memory 0 [])) _ rfl).run
    (show ∀ call ∈ oneThread, call.isIndirect = true by decide)
  obtain ⟨spends, _, _, edges⟩ :=
    timedOut_spends watch.vigil (watch.begun_eq ▸ passes) untold told
  exact ⟨_, rfl, watch, rfl, _, moment, passes, untold, told, by decide +kernel, spends,
    edges _ watched (by decide +kernel)⟩

end Steward.Host
