import Steward.Proofs.Host.Call

/-! The wait edges of watched waits. An edge appears when the first slice of a wait has passed,
names the lock of that wait for as long as it lasts, and goes with it, however it ends. What the
edges say is read off the past of each thread. -/

set_option autoImplicit false

namespace Steward.Host

open Deadlock

/-- What a watched wait waits for. -/
def Purpose.lock? : Purpose → Option Cookie
  | .watched cookie _ => some cookie
  | _ => none

theorem Purpose.lock?_eq_some_iff {purpose : Purpose} {cookie : Cookie} :
    purpose.lock? = some cookie ↔ ∃ backoff, purpose = .watched cookie backoff := by
  cases purpose <;> simp [lock?]

/-- What threads did about their watched waits. -/
inductive WatchDeed where
  | began (thread : ThreadId) (cookie : Cookie)
  /-- A slice of a wait passed. -/
  | lapsed (thread : ThreadId)
  | ended (thread : ThreadId) (outcome : Sync.Outcome)
  deriving DecidableEq

/-- The watched wait that a thread is inside of after a deed: its lock, and how many of its slices
passed. -/
def WatchDeed.after (thread : ThreadId) (inside : Option (Cookie × Nat)) :
    WatchDeed → Option (Cookie × Nat)
  | began other cookie => if other = thread then some (cookie, 0) else inside
  | lapsed other =>
      if other = thread then inside.map fun wait => (wait.1, wait.2 + 1) else inside
  | ended other _ => if other = thread then none else inside

/-- The watched wait that a thread is inside of, going by all deeds so far. -/
def inside (thread : ThreadId) (deeds : List WatchDeed) : Option (Cookie × Nat) :=
  deeds.foldl (WatchDeed.after thread) none

@[simp] theorem inside_more (thread : ThreadId) (deeds : List WatchDeed) (deed : WatchDeed) :
    inside thread (deeds ++ [deed]) = deed.after thread (inside thread deeds) := by
  simp [inside]

/-- A slice of a watched wait passed. -/
def Wait.lapses (wait : Wait) (ending : Ending) : Bool :=
  wait.purpose.lock?.isSome && ending.outcome.isTimedOut

/-- The end that a wait comes to when its thread takes its turn, with the host at that moment. -/
def glimpse (host : Host) (thread : ThreadId) : Option (Wait × Ending × Host) :=
  match host.waits.get? thread with
  | none => none
  | some wait =>
      if wait.stage = .asleep then none
      else
        match { host with waits := host.waits.erase thread }.attempt thread wait with
        | (some ending, looked) => some (wait, ending, looked)
        | (none, _) => none

/-- The host in the middle of a turn in which a slice of a watched wait passed: the thread has shown
its lock, and is about to look for a ring. -/
def lapse? (host : Host) (thread : ThreadId) : Option Host :=
  match host.glimpse thread with
  | none => none
  | some (wait, ending, looked) =>
      if ending.outcome.isTimedOut then
        wait.purpose.lock?.map fun cookie =>
          { looked with detector := looked.detector.register thread cookie }
      else none

/-- What a thread did whose operation ended, or did not. -/
def endDeeds (thread : ThreadId) : Option Ending → List WatchDeed
  | some ending => [.ended thread ending.outcome]
  | none => []

/-- What a call comes to for watched waits. -/
def watchDeeds (host : Host) : Call → List WatchDeed
  | .monitorWait thread _ cookie _ options =>
      if host.isIdle thread && !(options.unwatched || !host.detector.hasOracle) then
        [.began thread cookie]
      else []
  | .turn thread =>
      (if (host.lapse? thread).isSome then [.lapsed thread] else []) ++
        endDeeds thread (host.turn thread).1
  | _ => []

def watchRun (host : Host) : List Call → List WatchDeed
  | [] => []
  | call :: rest => host.watchDeeds call ++ (host.heed call).watchRun rest

/-- A call that leaves the wait edges to the waits. -/
def Call.isIndirect : Call → Bool
  | .tryEnter _ _ _ | .endEnter _ => false
  | .prepare _ answers => answers.all fun answer => answer.endEnter.isNone
  | _ => true

/-- The wait edges are those of the waits of which a slice passed. -/
def Shown (deeds : List WatchDeed) (host : Host) : Prop :=
  ∀ thread cookie, host.detector.waits.get? thread = some cookie ↔
    ∃ slices, inside thread deeds = some (cookie, slices) ∧ 1 ≤ slices

/-- What happened so far agrees with who waits and with the wait edges. -/
structure Watched (deeds : List WatchDeed) (host : Host) : Prop where
  aloof : host.owners.Aloof
  numbered : ∀ thread purpose, host.purpose? thread = some purpose →
    thread.value < host.nextThread
  waiting : ∀ thread, (inside thread deeds).map Prod.fst =
    (host.purpose? thread).bind Purpose.lock?
  shown : Shown deeds host

theorem purpose?_startWait (host : Host) (thread other : ThreadId) (target : Target)
    (timeout : Option Nat) (options : Sync.WaitOptions) (purpose : Purpose) :
    (host.startWait thread target timeout options purpose).purpose? other =
      if other = thread then some purpose else host.purpose? other := by
  simp only [purpose?, startWait, Assoc.get?_insert, Assoc.get?_erase]
  split <;> rfl

namespace Watched

variable {deeds : List WatchDeed} {host after : Host} {thread : ThreadId}

theorem steady (watched : Watched deeds host) (steady : Steady host after) :
    Watched deeds after := by
  obtain ⟨aloof, edges⟩ := steady.edges watched.aloof
  refine ⟨aloof, fun thread purpose there => ?_, fun thread => ?_, fun thread cookie => ?_⟩
  · rw [steady.purposes] at there
    exact steady.nextThread ▸ watched.numbered thread purpose there
  · rw [steady.purposes]
    exact watched.waiting thread
  · rw [edges]
    exact watched.shown thread cookie

theorem reregister (watched : Watched deeds host) (registry : Domain.Registry) :
    Watched deeds { host with registry } :=
  ⟨watched.aloof, watched.numbered, watched.waiting, watched.shown⟩

theorem number (watched : Watched deeds host) (control : Tasks.Control) :
    Watched deeds (host.addThread control).2 :=
  ⟨watched.aloof, fun thread purpose there => Nat.lt_succ_of_lt
    (watched.numbered thread purpose there), watched.waiting, watched.shown⟩

/-- Who begins a wait that nobody watches goes on to show nothing. -/
theorem wait (watched : Watched deeds host) (bound : thread.value < host.nextThread)
    (free : host.purpose? thread = none) (target : Target) (timeout : Option Nat)
    (options : Sync.WaitOptions) {purpose : Purpose} (plain : purpose.lock? = none) :
    Watched deeds (host.startWait thread target timeout options purpose) := by
  refine ⟨watched.aloof, fun other begun there => ?_, fun other => ?_, watched.shown⟩
  · rw [purpose?_startWait] at there
    split at there
    · next same => exact same ▸ bound
    · exact watched.numbered other begun there
  · rw [purpose?_startWait, watched.waiting]
    split
    · next same => simp [same, free, plain]
    · rfl

/-- Who begins a watched wait shows nothing before its first slice has passed. -/
theorem watch (watched : Watched deeds host) (bound : thread.value < host.nextThread)
    (free : host.purpose? thread = none) (target : Target) (timeout : Option Nat)
    (options : Sync.WaitOptions) (cookie : Cookie) (backoff : Backoff) :
    Watched (deeds ++ [.began thread cookie])
      (host.startWait thread target timeout options (.watched cookie backoff)) := by
  refine ⟨watched.aloof, fun other begun there => ?_, fun other => ?_, fun other lock => ?_⟩
  · rw [purpose?_startWait] at there
    split at there
    · next same => exact same ▸ bound
    · exact watched.numbered other begun there
  · rw [purpose?_startWait, inside_more, WatchDeed.after]
    by_cases same : other = thread
    · simp [same, Purpose.lock?]
    · simp [same, Ne.symm same, watched.waiting]
  · rw [inside_more, WatchDeed.after]
    refine (watched.shown other lock).trans ?_
    by_cases same : other = thread
    · -- Idle threads are not inside of a watched wait.
      have outside : inside thread deeds = none := by
        simpa [free] using watched.waiting thread
      simp [same, outside]
    · simp [Ne.symm same]

end Watched

theorem steady_noteAcquired (host : Host) (thread : ThreadId) (cookie : Cookie) (ending : Ending) :
    Steady host (host.noteAcquired thread cookie ending) := by
  unfold noteAcquired
  split
  · exact .of_same rfl rfl rfl rfl rfl
  · exact .refl host

theorem steady_conclude (host : Host) (thread : ThreadId) {wait : Wait} (ending : Ending)
    (plain : wait.purpose.lock? = none) : Steady host (host.conclude thread wait ending).2 := by
  unfold Host.conclude
  split
  · exact .refl host
  · exact .refl host
  · next cookie _ => exact host.steady_noteAcquired thread cookie ending
  · next watched =>
    rw [watched] at plain
    cases plain
  · split
    · exact .of_same rfl rfl rfl rfl rfl
    · exact .refl host
  · exact .of_same rfl rfl rfl rfl rfl

/-- A thread is in the middle of a turn: its wait is out, and its operation has not ended yet. -/
structure Midway (thread : ThreadId) (lock : Option Cookie) (deeds : List WatchDeed)
    (host : Host) : Prop where
  aloof : host.owners.Aloof
  numbered : ∀ other purpose, host.purpose? other = some purpose →
    other.value < host.nextThread
  bound : thread.value < host.nextThread
  away : host.purpose? thread = none
  lock : (inside thread deeds).map Prod.fst = lock
  others : ∀ other, other ≠ thread →
    (inside other deeds).map Prod.fst = (host.purpose? other).bind Purpose.lock?
  shown : Shown deeds host

theorem Watched.leave {deeds : List WatchDeed} {host : Host} {thread : ThreadId} {wait : Wait}
    (watched : Watched deeds host) (found : host.waits.get? thread = some wait) :
    Midway thread wait.purpose.lock? deeds { host with waits := host.waits.erase thread } := by
  have there : host.purpose? thread = some wait.purpose := by simp [purpose?, found]
  have erased : ∀ other, purpose? { host with waits := host.waits.erase thread } other =
      if other = thread then none else host.purpose? other := by
    intro other
    simp only [purpose?, Assoc.get?_erase]
    split <;> rfl
  refine ⟨watched.aloof, fun other purpose still => ?_, watched.numbered thread _ there, ?_, ?_,
    fun other apart => ?_, watched.shown⟩
  · rw [erased] at still
    split at still
    · cases still
    · exact watched.numbered other purpose still
  · rw [erased, if_pos rfl]
  · rw [watched.waiting, there, Option.bind_some]
  · rw [erased, if_neg apart]
    exact watched.waiting other

namespace Midway

variable {deeds : List WatchDeed} {host after : Host} {thread : ThreadId} {lock : Option Cookie}
  {cookie : Cookie}

theorem steady (midway : Midway thread lock deeds host) (steady : Steady host after) :
    Midway thread lock deeds after := by
  obtain ⟨aloof, edges⟩ := steady.edges midway.aloof
  refine ⟨aloof, fun other purpose there => ?_, steady.nextThread ▸ midway.bound,
    (steady.purposes thread).trans midway.away, midway.lock, fun other apart => ?_,
    fun other held => ?_⟩
  · rw [steady.purposes] at there
    exact steady.nextThread ▸ midway.numbered other purpose there
  · rw [steady.purposes]
    exact midway.others other apart
  · rw [edges]
    exact midway.shown other held

theorem get?_register (waits : Waits) (thread other : ThreadId) (cookie : Cookie) :
    (register waits thread cookie).get? other =
      if other = thread then some ((waits.get? thread).getD cookie) else waits.get? other := by
  unfold Deadlock.register
  split
  · next present =>
    obtain ⟨shown, edge⟩ := Option.isSome_iff_exists.1 present
    by_cases same : other = thread
    · simp [same, edge]
    · simp [same]
  · next absent =>
    have fresh : waits.get? thread = none := by simpa [Assoc.contains] using absent
    rw [Assoc.get?_insert, fresh, Option.getD_none]

/-- After a slice that passed, the thread shows its lock if it did not do so before. -/
theorem lapsed (midway : Midway thread (some cookie) deeds host) :
    Midway thread (some cookie) (deeds ++ [.lapsed thread])
      { host with detector := host.detector.register thread cookie } := by
  obtain ⟨slices, within⟩ : ∃ slices, inside thread deeds = some (cookie, slices) := by
    simpa [Option.map_eq_some_iff] using midway.lock
  have edges : ∀ other, (inside other (deeds ++ [.lapsed thread])) =
      if other = thread then some (cookie, slices + 1) else inside other deeds := by
    intro other
    rw [inside_more, WatchDeed.after]
    by_cases same : other = thread
    · simp [same, within]
    · simp [same, Ne.symm same]
  refine ⟨midway.aloof, midway.numbered, midway.bound, midway.away, ?_, fun other apart => ?_,
    fun other held => ?_⟩
  · rw [edges, if_pos rfl, Option.map_some]
  · rw [edges, if_neg apart]
    exact midway.others other apart
  · rw [edges, Detector.register, get?_register]
    split
    · -- An edge that is there already is the one of this wait.
      have shown : (host.detector.waits.get? thread).getD cookie = cookie := by
        cases edge : host.detector.waits.get? thread with
        | none => rfl
        | some shown =>
          obtain ⟨_, there, _⟩ := (midway.shown thread shown).1 edge
          rw [within] at there
          cases there
          rfl
      rw [shown]
      constructor
      · intro same
        exact ⟨slices + 1, by rw [Option.some.inj same], Nat.le_add_left 1 slices⟩
      · rintro ⟨_, there, _⟩
        cases there
        rfl
    · exact midway.shown other held

theorem watched (midway : Midway thread none deeds host) : Watched deeds host := by
  refine ⟨midway.aloof, midway.numbered, fun other => ?_, midway.shown⟩
  by_cases same : other = thread
  · rw [same, midway.lock, midway.away, Option.bind_none]
  · exact midway.others other same

theorem inside_ended (outside : inside thread deeds = none) (outcome : Sync.Outcome)
    (other : ThreadId) : inside other (deeds ++ [.ended thread outcome]) = inside other deeds := by
  rw [inside_more, WatchDeed.after]
  split
  · next same => exact (same ▸ outside).symm
  · rfl

/-- The end of a wait that nobody watched. -/
theorem ended (midway : Midway thread none deeds host) (outcome : Sync.Outcome) :
    Watched (deeds ++ [.ended thread outcome]) host := by
  have outside := Option.map_eq_none_iff.1 midway.lock
  have watched := midway.watched
  refine ⟨watched.aloof, watched.numbered, fun other => ?_, fun other held => ?_⟩
  · rw [inside_ended outside]
    exact watched.waiting other
  · rw [inside_ended outside]
    exact watched.shown other held

/-- The end of a watched wait takes its edge along. -/
theorem endEnter (midway : Midway thread lock deeds host) (outcome : Sync.Outcome) :
    Watched (deeds ++ [.ended thread outcome]) (host.endEnter thread) := by
  refine ⟨midway.aloof, midway.numbered, fun other => ?_, fun other held => ?_⟩
  · rw [inside_more, WatchDeed.after]
    by_cases same : other = thread
    · subst same
      have away : (host.endEnter other).purpose? other = none := midway.away
      simp [away]
    · rw [if_neg (Ne.symm same)]
      exact midway.others other same
  · rw [inside_more, WatchDeed.after]
    simp only [Host.endEnter, Detector.endEnter, Assoc.get?_erase]
    by_cases same : other = thread
    · simp [same]
    · rw [if_neg same, if_neg (Ne.symm same)]
      exact midway.shown other held

/-- A wait of the same kind goes on. -/
theorem resume (midway : Midway thread lock deeds host) {purpose : Purpose}
    (kept : purpose.lock? = lock) {waits : Assoc ThreadId Wait}
    (same : ∀ other, (waits.get? other).map Wait.purpose =
      if other = thread then some purpose else host.purpose? other) :
    Watched deeds { host with waits } := by
  refine ⟨midway.aloof, fun other begun there => ?_, fun other => ?_, midway.shown⟩
  · rw [purpose?, same] at there
    split at there
    · next here => exact here ▸ midway.bound
    · exact midway.numbered other begun there
  · rw [purpose?, same]
    split
    · next here => rw [here, midway.lock, Option.bind_some, kept]
    · next apart => exact midway.others other apart

/-- A look for a ring comes after the thread showed its lock, and ends its wait or lets it go on. -/
theorem sliceOver (midway : Midway thread (some cookie) deeds host) (wait : Wait)
    (backoff : Backoff) :
    Watched (deeds ++ [.lapsed thread] ++
        endDeeds thread (host.sliceOver thread wait cookie backoff).1)
      (host.sliceOver thread wait cookie backoff).2 := by
  have looked : Midway thread (some cookie) (deeds ++ [.lapsed thread])
      (host.tryEnter thread thread cookie).2 :=
    midway.lapsed.steady (steady_detect _ _ _ _)
  unfold Host.sliceOver
  simp only
  split
  · next report _ =>
    let seen := (host.tryEnter thread thread cookie).2
    have told : Steady seen (seen.reportDeadlock report) := .of_same rfl rfl rfl rfl rfl
    exact (looked.steady told).endEnter (.deadlock report)
  · split
    · exact looked.endEnter .timedOut
    · next next _ =>
      have kept : (Purpose.watched cookie next).lock? = some cookie := rfl
      simp only [endDeeds, List.append_nil]
      exact looked.resume kept
        (purpose?_startWait _ thread · wait.target (some next.current) wait.options _)

theorem conclude (wait : Wait) (midway : Midway thread wait.purpose.lock? deeds host)
    (ending : Ending) :
    Watched (deeds ++ (if wait.lapses ending then [.lapsed thread] else []) ++
        endDeeds thread (host.conclude thread wait ending).1)
      (host.conclude thread wait ending).2 := by
  cases lock : wait.purpose.lock? with
  | none =>
    rw [lock] at midway
    have steady := host.steady_conclude thread ending lock
    simp only [Wait.lapses, lock, Option.isSome_none, Bool.false_and, Bool.false_eq_true, if_false,
      List.append_nil]
    cases (host.conclude thread wait ending).1 with
    | none => simpa [endDeeds] using midway.watched.steady steady
    | some ending => exact (midway.ended ending.outcome).steady steady
  | some cookie =>
    rw [lock] at midway
    obtain ⟨backoff, watched⟩ := Purpose.lock?_eq_some_iff.1 lock
    simp only [Wait.lapses, Host.conclude, watched]
    cases timedOut : ending.outcome.isTimedOut with
    | true => exact midway.sliceOver wait backoff
    | false =>
      have ended := midway.endEnter ending.outcome
      simpa [endDeeds] using ended.steady (steady_noteAcquired _ thread cookie ending)

end Midway

/-! ### Runs -/

variable {deeds : List WatchDeed} {host : Host} {thread : ThreadId}

theorem glimpse_eq_some {wait : Wait} {ending : Ending} {looked : Host}
    (seen : host.glimpse thread = some (wait, ending, looked)) :
    host.waits.get? thread = some wait ∧ host.turn thread = looked.conclude thread wait ending ∧
      Steady { host with waits := host.waits.erase thread } looked := by
  unfold glimpse at seen
  unfold turn
  split at seen
  · cases seen
  · next found =>
    split at seen
    · cases seen
    · next stirs =>
      rcases attempt_cases { host with waits := host.waits.erase thread } thread _ with
        ⟨ending, after, made, steady⟩ | made
      · rw [made] at seen
        cases seen
        simp only [found, stirs, if_false, made]
        exact ⟨trivial, trivial, steady⟩
      · rw [made] at seen
        cases seen

theorem turn_of_glimpse_eq_none (unseen : host.glimpse thread = none) :
    (host.turn thread).1 = none ∧ Steady host (host.turn thread).2 := by
  unfold turn
  cases found : host.waits.get? thread with
  | none => exact ⟨rfl, .refl host⟩
  | some wait =>
    by_cases asleep : wait.stage = .asleep
    · simp only [asleep, if_true]
      exact ⟨trivial, .refl host⟩
    · rcases attempt_cases { host with waits := host.waits.erase thread } thread wait with
        ⟨ending, after, made, steady⟩ | made
      · simp [glimpse, found, asleep, made] at unseen
      · -- The wait that falls asleep is the one that was taken out.
        simp only [asleep, if_false, made]
        refine ⟨trivial, .of_waits fun other => ?_⟩
        rw [Assoc.get?_insert, Assoc.get?_erase, purpose?]
        by_cases same : other = thread
        · simp [same, found]
        · simp [same]

theorem isIdle_iff :
    host.isIdle thread = true ↔
      thread.value < host.nextThread ∧ host.purpose? thread = none := by
  simp [isIdle, purpose?, Assoc.contains]

namespace Watched

theorem glimpse (watched : Watched deeds host) {wait : Wait} {ending : Ending} {looked : Host}
    (seen : host.glimpse thread = some (wait, ending, looked)) :
    Midway thread wait.purpose.lock? deeds looked := by
  obtain ⟨found, _, steady⟩ := glimpse_eq_some seen
  exact (watched.leave found).steady steady

theorem lapse? (watched : Watched deeds host) {shown : Host}
    (lapsed : host.lapse? thread = some shown) :
    ∃ cookie, Midway thread (some cookie) (deeds ++ [.lapsed thread]) shown := by
  unfold Host.lapse? at lapsed
  split at lapsed
  · cases lapsed
  · next wait ending looked seen =>
    split at lapsed
    · obtain ⟨cookie, lock, rfl⟩ := Option.map_eq_some_iff.1 lapsed
      have midway := watched.glimpse seen
      rw [lock] at midway
      exact ⟨cookie, midway.lapsed⟩
    · cases lapsed

theorem turn (watched : Watched deeds host) (thread : ThreadId) :
    Watched (deeds ++ host.watchDeeds (.turn thread)) (host.turn thread).2 := by
  cases seen : host.glimpse thread with
  | none =>
    obtain ⟨waits, steady⟩ := turn_of_glimpse_eq_none seen
    simpa [watchDeeds, Host.lapse?, seen, waits, endDeeds] using watched.steady steady
  | some sight =>
    obtain ⟨wait, ending, looked⟩ := sight
    have lapses : (host.lapse? thread).isSome = wait.lapses ending := by
      simp only [Host.lapse?, seen, Wait.lapses]
      split
      · next timedOut => simp [timedOut]
      · next earlier => simp [earlier]
    rw [watchDeeds, lapses, (glimpse_eq_some seen).2.1, ← List.append_assoc]
    exact (watched.glimpse seen).conclude wait ending

theorem whenIdle (watched : Watched deeds host) {begun : Host}
    (begins : thread.value < host.nextThread → host.purpose? thread = none →
      Watched deeds begun) : Watched deeds (host.whenIdle thread begun) := by
  unfold Host.whenIdle
  split
  · next idle =>
    obtain ⟨bound, free⟩ := isIdle_iff.1 idle
    exact begins bound free
  · exact watched

theorem monitorWait (watched : Watched deeds host) (thread : ThreadId) (serial : Nat)
    (cookie : Cookie) (timeout : Option Nat) (options : Sync.WaitOptions) :
    Watched (deeds ++ host.watchDeeds (.monitorWait thread serial cookie timeout options))
      (host.whenIdle thread (host.startMonitorWait thread serial cookie timeout options)) := by
  simp only [watchDeeds, Host.whenIdle, startMonitorWait]
  cases idle : host.isIdle thread with
  | false => simpa using watched
  | true =>
    obtain ⟨bound, free⟩ := isIdle_iff.1 idle
    cases blind : options.unwatched || !host.detector.hasOracle with
    | true =>
      have plain : (Purpose.monitor cookie).lock? = none := rfl
      simpa using watched.wait bound free (.signal serial) timeout options plain
    | false => simpa using watched.watch bound free (.signal serial) _ options cookie _

theorem createTask (watched : Watched deeds host) (parent : ThreadId) :
    Watched deeds (host.createTask parent).2 := by
  let numbered := (host.addThread .suspended).2
  have counted : Watched deeds numbered := watched.number .suspended
  unfold Host.createTask
  simp only
  split
  · next registry _ => exact (counted.reregister registry).steady (numbered.steady_adopt registry)
  · next registry _ =>
    let listed := { numbered.adopt registry with
      tasks := (numbered.tasks.add ⟨host.nextThread⟩).2 }
    have tabled : Steady (numbered.adopt registry) listed := .of_same rfl rfl rfl rfl rfl
    have steady := (numbered.steady_adopt registry).trans tabled
    -- Nobody waits yet under the number that the new thread got.
    have fresh : host.purpose? ⟨host.nextThread⟩ = none := by
      cases there : host.purpose? ⟨host.nextThread⟩ with
      | none => rfl
      | some purpose => exact absurd (watched.numbered _ _ there) (Nat.lt_irrefl _)
    refine ((counted.reregister registry).steady steady).wait ?_ ?_ _ none {} rfl
    · exact steady.nextThread ▸ Nat.lt_succ_self host.nextThread
    · exact (steady.purposes _).trans fresh

/-- What happened so far goes on agreeing with who waits and with the wait edges. -/
theorem heed (watched : Watched deeds host) {call : Call} (indirect : call.isIndirect = true) :
    Watched (deeds ++ host.watchDeeds call) (host.heed call) := by
  cases given : call.isAside with
  | true =>
    obtain ⟨registry, _, steady⟩ := host.aside_heed given
    have same : host.watchDeeds call = [] := by
      cases call <;> first | rfl | cases given
    rw [same, List.append_nil]
    exact (watched.reregister registry).steady steady
  | false =>
    cases call with
    | spawn =>
      simp only [watchDeeds, List.append_nil]
      exact watched.number {}
    | createTask parent =>
      simp only [watchDeeds, List.append_nil]
      exact watched.createTask parent
    | wait thread target timeout options =>
      simp only [watchDeeds, List.append_nil]
      exact watched.whenIdle fun bound free => watched.wait bound free target timeout options rfl
    | sleep thread span options =>
      simp only [watchDeeds, List.append_nil]
      exact watched.whenIdle fun bound free => watched.wait bound free _ (some span) options rfl
    | shutdown thread timeout =>
      simp only [watchDeeds, List.append_nil]
      have closed : Watched deeds { host with crew := host.crew.shutdown.2 } :=
        watched.steady (.of_same rfl rfl rfl rfl rfl)
      exact watched.whenIdle fun bound free => closed.wait bound free _ (some timeout) {} rfl
    | monitorWait thread serial cookie timeout options =>
      exact watched.monitorWait thread serial cookie timeout options
    | turn thread => exact watched.turn thread
    | prepare cookie answers =>
      have quiet : ∀ answer ∈ answers, answer.endEnter = none := by
        simpa [Call.isIndirect] using indirect
      simp only [watchDeeds, List.append_nil]
      exact ⟨watched.aloof.prepare cookie quiet, watched.numbered, watched.waiting, watched.shown⟩
    | tryEnter | endEnter => cases indirect
    | _ => cases given

end Watched

theorem Watched.initial {config : Config} {opened : String → Except Error Trace.Sink} {start : Host}
    (created : create config opened = .ok start) : Watched [] start := by
  unfold create at created
  split at created
  · cases created
  · cases created
    exact ⟨fun _ _ => nofun, fun _ _ => nofun, fun _ => rfl, fun _ _ => ⟨nofun, nofun⟩⟩

theorem Watched.run (watched : Watched deeds host) {calls : List Call}
    (indirect : ∀ call ∈ calls, call.isIndirect = true) :
    Watched (deeds ++ host.watchRun calls) (host.heedAll calls) := by
  induction calls generalizing host deeds with
  | nil => simpa [watchRun, heedAll] using watched
  | cons call rest ih =>
    have next := watched.heed (indirect call (by simp))
    simpa [watchRun, heedAll] using ih next fun other inside =>
      indirect other (List.mem_cons_of_mem _ inside)

/-- What another thread did says nothing about the wait that a thread is inside of. -/
theorem inside_turn {other : ThreadId} (apart : thread ≠ other) (deeds : List WatchDeed)
    (host : Host) :
    inside thread (deeds ++ host.watchDeeds (.turn other)) = inside thread deeds := by
  have lapsed : inside thread
      (deeds ++ if (host.lapse? other).isSome then [.lapsed other] else []) =
      inside thread deeds := by
    split
    · simp [WatchDeed.after, Ne.symm apart]
    · simp
  rw [watchDeeds, ← List.append_assoc]
  cases (host.turn other).1 with
  | none => simpa [endDeeds] using lapsed
  | some ending =>
    rw [endDeeds, inside_more, WatchDeed.after, if_neg (Ne.symm apart)]
    exact lapsed

/-- Nothing but its own turns changes the edge of a thread. -/
theorem Watched.edge_heed (watched : Watched deeds host) {call : Call}
    (indirect : call.isIndirect = true) (apart : call ≠ .turn thread) :
    (host.heed call).detector.waits.get? thread = host.detector.waits.get? thread := by
  apply Option.ext
  intro cookie
  refine ((watched.heed indirect).shown thread cookie).trans
    (Iff.trans ?_ (watched.shown thread cookie).symm)
  cases call with
  | monitorWait waiter serial lock timeout options =>
    simp only [watchDeeds]
    split
    · next begins =>
      simp only [inside_more, WatchDeed.after]
      split
      · -- A wait that begins has no slice behind it, and its thread was idle.
        next same =>
        subst same
        have free := (isIdle_iff.1 (Bool.and_eq_true_iff.1 begins).1).2
        have outside : inside waiter deeds = none := by
          simpa [free] using watched.waiting waiter
        rw [outside]
        refine ⟨?_, nofun⟩
        rintro ⟨_, begun, passed⟩
        cases begun
        cases passed
      · rfl
    · rw [List.append_nil]
  | turn other =>
    have distinct : thread ≠ other := fun same => apart (same ▸ rfl)
    rw [inside_turn distinct]
  | _ => simp only [watchDeeds, List.append_nil]

theorem Watched.edge_of_ended (watched : Watched deeds host) {ending : Ending}
    (ended : (host.turn thread).1 = some ending) :
    (host.turn thread).2.detector.waits.get? thread = none := by
  have after := watched.turn thread
  have outside : inside thread (deeds ++ host.watchDeeds (.turn thread)) = none := by
    rw [watchDeeds, ended, endDeeds, ← List.append_assoc, inside_more, WatchDeed.after, if_pos rfl]
  apply Option.eq_none_iff_forall_not_mem.2
  intro cookie edge
  obtain ⟨_, inside, _⟩ := (after.shown thread cookie).1 edge
  rw [outside] at inside
  cases inside

theorem Watched.size_eq_zero (watched : Watched deeds host)
    (nobody : ∀ thread, (host.purpose? thread).bind Purpose.lock? = none) :
    host.detector.waits.size = 0 := by
  apply Assoc.size_eq_zero
  intro thread
  apply Option.eq_none_iff_forall_not_mem.2
  intro cookie edge
  obtain ⟨_, inside, _⟩ := (watched.shown thread cookie).1 edge
  have waiting := watched.waiting thread
  rw [inside, nobody] at waiting
  cases waiting

/-- In every state of a run in which only waits show locks, a thread has a wait edge exactly when it
is inside of a watched wait of which a slice passed, and the edge names the lock of that wait. This
holds also while a thread looks for a ring. No thread changes the edge of another one, a wait that
ended leaves none, and when nobody is inside of a watched wait there are none at all. -/
theorem edges_of_watched {config : Config} {opened : String → Except Error Trace.Sink}
    {start : Host} (created : create config opened = .ok start) {calls : List Call}
    (indirect : ∀ call ∈ calls, call.isIndirect = true) :
    let deeds := start.watchRun calls
    let host := start.heedAll calls
    (∀ thread cookie, host.detector.waits.get? thread = some cookie ↔
      ∃ slices, inside thread deeds = some (cookie, slices) ∧ 1 ≤ slices) ∧
    (∀ thread, (inside thread deeds).map Prod.fst =
      (host.purpose? thread).bind Purpose.lock?) ∧
    (∀ thread shown, host.lapse? thread = some shown →
      (∀ other cookie, shown.detector.waits.get? other = some cookie ↔
        ∃ slices, inside other (deeds ++ [.lapsed thread]) = some (cookie, slices) ∧ 1 ≤ slices) ∧
      ∀ asker other cookie,
        (shown.detect asker other cookie).2.detector.waits = shown.detector.waits) ∧
    (∀ call thread, call.isIndirect = true → call ≠ .turn thread →
      (host.heed call).detector.waits.get? thread = host.detector.waits.get? thread) ∧
    (∀ thread ending, (host.turn thread).1 = some ending →
      (host.turn thread).2.detector.waits.get? thread = none) ∧
    ((∀ thread, (host.purpose? thread).bind Purpose.lock? = none) →
      host.detector.waits.size = 0) := by
  intro deeds host
  have watched : Watched deeds host := (Watched.initial created).run indirect
  refine ⟨watched.shown, watched.waiting, fun thread shown lapsed => ?_,
    fun call thread => watched.edge_heed, fun thread ending => watched.edge_of_ended,
    watched.size_eq_zero⟩
  obtain ⟨_, midway⟩ := watched.lapse? lapsed
  exact ⟨midway.shown, fun asker other cookie =>
    ((steady_detect shown asker other cookie).edges midway.aloof).2⟩

/-- Two threads wait for each other's locks. The first one shows its lock after a slice; the second
one runs into the ring, and the first one gets its monitor in the end. -/
def crossedWaits : List Call :=
  [.spawn, .spawn, .installOracle, .addSignal ⟨false, false⟩, .addSignal ⟨false, false⟩,
    .own ⟨0xa⟩ ⟨2⟩, .own ⟨0xb⟩ ⟨1⟩, .monitorWait ⟨1⟩ 0 ⟨0xa⟩ none {}, .turn ⟨1⟩, .elapse 100000000,
    .turn ⟨1⟩, .monitorWait ⟨2⟩ 1 ⟨0xb⟩ none {}, .turn ⟨2⟩, .elapse 200000000, .turn ⟨2⟩, .turn ⟨1⟩,
    .setSignal 0, .turn ⟨1⟩]

theorem edges_of_watched_crossedWaits :
    ∃ start, create {} (fun _ => .ok (.memory 0 [])) = .ok start ∧
      start.watchRun crossedWaits = [.began ⟨1⟩ ⟨0xa⟩, .lapsed ⟨1⟩, .began ⟨2⟩ ⟨0xb⟩, .lapsed ⟨2⟩,
        .ended ⟨2⟩ (.deadlock ⟨[⟨⟨2⟩, ⟨0xb⟩, ⟨1⟩⟩, ⟨⟨1⟩, ⟨0xa⟩, ⟨2⟩⟩]⟩), .ended ⟨1⟩ .signaled] ∧
      (start.heedAll (crossedWaits.take 15)).detector.waits.get? ⟨1⟩ = some ⟨0xa⟩ ∧
      (start.heedAll crossedWaits).detector.waits.get? ⟨1⟩ = none := by
  refine ⟨_, rfl, by decide +kernel, ?_, ?_⟩
  · have midst := @edges_of_watched {} (fun _ => .ok (.memory 0 [])) _ rfl (crossedWaits.take 15)
      (by decide +kernel)
    exact (midst.1 ⟨1⟩ ⟨0xa⟩).2 ⟨1, by decide +kernel, Nat.le_refl 1⟩
  · decide +kernel

end Steward.Host
