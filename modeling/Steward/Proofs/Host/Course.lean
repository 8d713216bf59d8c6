import Steward.Proofs.Host.Roster
import Steward.Proofs.Host.Scene

/-! The course of a host: the calls that began on it, each with the host as it was at that moment.
Wake-ups come between them at any time. A course can be cut before each of its moments. From one
moment to the next, each wait fares in one of a few ways. -/

set_option autoImplicit false

namespace Steward.Host

open Deadlock

/-- A call that begins, and the host on which it does. -/
structure Moment where
  host : Host
  call : Call

/-- The host once the call of a moment began. -/
def Moment.after (moment : Moment) : Host := moment.host.begin moment.call

/-- What can be next on a host. Only the beginning of a call is a moment of its course. -/
inductive Next (host : Host) : List Moment → Host → Prop where
  | began (call : Call) (accepted : host.accepts call = true) :
      Next host [⟨host, call⟩] (host.begin call)
  | roused (woken : ThreadId → Wait → Bool) : Next host [] (host.rouse woken)
  | respun {serial spins : Nat} {lock : Sync.CriticalSection}
      (found : host.locks.get? serial = some lock) :
      Next host [] { host with locks := host.locks.insert serial { lock with spins } }

/-- The moments of calls that are heeded at once. -/
def momentsAll (host : Host) : List Call → List Moment
  | [] => []
  | call :: rest => ⟨host, call⟩ :: (host.heed call).momentsAll rest

/-- From one host to another, by way of these moments. -/
inductive Course (start : Host) : List Moment → Host → Prop where
  | start : Course start [] start
  | next {moments more : List Moment} {middle after : Host} (course : Course start moments middle)
      (next : Next middle more after) : Course start (moments ++ more) after

variable {start host middle after last : Host} {moments more early late : List Moment}
  {moment : Moment} {thread : ThreadId}

theorem Next.orderly (next : Next host more after) (orderly : host.Orderly) : after.Orderly := by
  cases next with
  | began call accepted => exact orderly.begun (begun_begin orderly accepted)
  | roused woken => exact orderly.rouse woken
  | respun found =>
    exact ⟨fun thread wait there =>
      (orderly.waits thread wait there).mono (Nat.le_refl _) (Nat.le_refl _), orderly.closed⟩

namespace Course

theorem orderly (course : Course start moments last) (orderly : start.Orderly) :
    last.Orderly := by
  induction course with
  | start => exact orderly
  | next _ next ih => exact next.orderly ih

theorem append (course : Course start moments middle) (onward : Course middle more last) :
    Course start (moments ++ more) last := by
  induction onward with
  | start => simpa using course
  | next _ next ih => exact List.append_assoc .. ▸ ih.next next

theorem call (course : Course start moments host) (call : Call)
    (accepted : host.accepts call = true) :
    Course start (moments ++ [⟨host, call⟩]) (host.begin call) := course.next (.began call accepted)

/-- A call that is heeded at once is a moment like any other. -/
theorem heed (course : Course start moments host) (orderly : host.Orderly) (call : Call)
    (accepted : host.accepts call = true) :
    Course start (moments ++ [⟨host, call⟩]) (host.heed call) := by
  obtain ⟨woken, roused⟩ := (host.begin call).rouses_deliverAll (host.wakeUps call)
  have delivered := (course.call call accepted).next (.roused woken)
  rwa [List.append_nil, ← roused, ← heed_eq_deliverAll orderly accepted] at delivered

theorem heedAll {calls : List Call} (course : Course start moments host)
    (orderly : host.Orderly) (accepted : host.acceptsAll calls = true) :
    Course start (moments ++ host.momentsAll calls) (host.heedAll calls) := by
  induction calls generalizing host moments with
  | nil => simpa [momentsAll, Host.heedAll] using course
  | cons call rest ih =>
    simp only [acceptsAll, Bool.and_eq_true] at accepted
    have onward := ih (course.heed orderly call accepted.1) (orderly.heed accepted.1) accepted.2
    simpa [momentsAll, Host.heedAll] using onward

/-- A course falls into what led up to a moment, and what came after it. -/
theorem cut (course : Course start (early ++ moment :: late) last) :
    Course start early moment.host ∧ moment.host.accepts moment.call = true ∧
      Course moment.after late last := by
  generalize split : early ++ moment :: late = moments at course
  induction course generalizing late with
  | start => simp at split
  | next course next ih =>
    rcases split_append split.symm with ⟨rest, before, rfl⟩ | ⟨rest, rfl, inside⟩
    · obtain ⟨led, accepted, onward⟩ := ih before.symm
      exact ⟨led, accepted, onward.next next⟩
    · cases next with
      | began call accepted =>
        -- A step has one moment at most, and this is it.
        cases rest with
        | nil =>
          obtain ⟨rfl, rfl⟩ := List.cons.inj inside
          exact ⟨by simpa using course, accepted, .start⟩
        | cons => simp at inside
      | roused | respun => simp at inside

/-- What holds at first and is kept by everything that can be next holds after a course. Only what
is allowed need keep it. -/
theorem induction {holds : List Moment → Host → Prop} {allowed : Moment → Prop}
    (course : Course start moments last) (orderly : start.Orderly)
    (all : ∀ moment ∈ moments, allowed moment) (initial : holds [] start)
    (keeps : ∀ early more middle after, Next middle more after → middle.Orderly →
      (∀ moment ∈ more, allowed moment) → holds early middle → holds (early ++ more) after) :
    holds moments last := by
  induction course with
  | start => exact initial
  | next course next ih =>
    have before := ih fun moment inside => all moment (List.mem_append_left _ inside)
    exact keeps _ _ _ _ next (course.orderly orderly)
      (fun moment inside => all moment (List.mem_append_right _ inside)) before

/-- Between the moments of a course the roster stays as it is. -/
theorem roster_induction {holds : List Moment → Roster → Prop} {allowed : Moment → Prop}
    (course : Course start moments last) (all : ∀ moment ∈ moments, allowed moment)
    (initial : holds [] start.roster)
    (keeps : ∀ early moment, allowed moment → holds early moment.host.roster →
      holds (early ++ [moment]) moment.after.roster) : holds moments last.roster := by
  induction course with
  | start => exact initial
  | @next moments more middle after course next ih =>
    have before := ih fun moment inside => all moment (List.mem_append_left _ inside)
    cases next with
    | began call accepted =>
      exact keeps moments ⟨middle, call⟩ (all _ (by simp)) before
    | roused | respun => exact (List.append_nil moments).symm ▸ before

/-- Numbers go on being given in order. -/
theorem numbering (course : Course start moments last) (numbered : start.roster.Numbered) :
    last.roster.Numbered ∧ start.nextThread ≤ last.nextThread := by
  let kept : List Moment → Roster → Prop := fun _ roster =>
    roster.Numbered ∧ start.nextThread ≤ roster.nextThread
  refine @roster_induction _ _ _ kept (fun _ => True) course (fun _ _ => trivial)
    ⟨numbered, Nat.le_refl _⟩ fun _ moment _ before => ?_
  have next := (moment.host.handled moment.call).numbered before.1
  exact ⟨next.1, Nat.le_trans before.2 next.2⟩

theorem numbered (course : Course start moments last) (numbered : start.roster.Numbered) :
    last.roster.Numbered := (course.numbering numbered).1

end Course

/-- Nothing is kept of any thread on a new host. -/
theorem roster_of_create {config : Config} {opened : String → Except Error Trace.Sink}
    (made : Host.create config opened = .ok start) : start.roster = ⟨{}, 1, {}, {}, {}⟩ := by
  unfold Host.create at made
  split at made
  · cases made
  · cases made
    rfl

theorem numbered_of_create {config : Config} {opened : String → Except Error Trace.Sink}
    (made : Host.create config opened = .ok start) : start.roster.Numbered := by
  intro thread there
  rw [roster_of_create made] at there
  cases there

/-! ### The wait of a thread -/

/-- The wait that a thread begins with a call. -/
inductive Begins (host : Host) (thread : ThreadId) : Call → Wait → Prop where
  | wait (target : Target) (timeout : Option Nat) (options : Sync.WaitOptions) :
      Begins host thread (.wait thread target timeout options)
        ⟨target, timeout.map fun span => host.clock + span, options, .plain, .starting⟩
  | sleep (span : Nat) (options : Sync.WaitOptions) :
      Begins host thread (.sleep thread span options)
        ⟨.sleep thread, some (host.clock + span), options, .sleep, .starting⟩
  | monitor (serial : Nat) (cookie : Cookie) (timeout deadline : Option Nat)
      (options : Sync.WaitOptions) :
      Begins host thread (.monitorWait thread serial cookie timeout options)
        ⟨.signal serial, deadline, options, .monitor cookie, .starting⟩
  | watched (serial : Nat) (cookie : Cookie) (timeout deadline : Option Nat)
      (options : Sync.WaitOptions) (backoff : Backoff) :
      Begins host thread (.monitorWait thread serial cookie timeout options)
        ⟨.signal serial, deadline, options, .watched cookie backoff, .starting⟩
  | shutdown (timeout : Nat) (workers : List Nat) (deadline : Option Nat) :
      Begins host thread (.shutdown thread timeout)
        ⟨.workers workers, deadline, {}, .shutdown, .starting⟩
  /-- A new thread waits at its gate. -/
  | gate (parent : ThreadId) (new : thread = ⟨host.nextThread⟩) :
      Begins host thread (.createTask parent) ⟨.gate thread, none, {}, .start, .starting⟩

/-- What becomes of a thread's wait, or of its having none, when a call begins. -/
inductive Fares (host : Host) (call : Call) (thread : ThreadId) : Option Wait → Prop where
  | kept (still : call = .turn thread → host.glimpse thread = none) :
      Fares host call thread (host.waits.get? thread)
  | woken (apart : call ≠ .turn thread) :
      Fares host call thread ((host.waits.get? thread).map Wait.wake)
  | began {wait : Wait} (absent : host.waits.get? thread = none)
      (begins : Begins host thread call wait) : Fares host call thread (some wait)
  | dozed {wait : Wait} (turn : call = .turn thread) (unseen : host.glimpse thread = none)
      (found : host.waits.get? thread = some wait) :
      Fares host call thread (some { wait with stage := .asleep })
  | ended (turn : call = .turn thread) (seen : (host.glimpse thread).isSome = true) :
      Fares host call thread none
  | resumed {wait next : Wait} {ending : Ending} {looked : Host} (turn : call = .turn thread)
      (seen : host.glimpse thread = some (wait, ending, looked))
      (watched : next.purpose.lock?.isSome = true) : Fares host call thread (some next)

/-- The waits of a host are those of another, some of which were woken. -/
def WokenFrom (host after : Host) : Prop := ∃ woken, after.waits = (host.rouse woken).waits

namespace WokenFrom

theorem of_same (same : after.waits = host.waits) : WokenFrom host after :=
  ⟨fun _ _ => false, by rw [rouse_nobody, same]⟩

theorem deliver (woken : WokenFrom host middle) {wakeUps : List WakeUp}
    (delivered : after.waits = (middle.deliverAll wakeUps).waits) : WokenFrom host after := by
  obtain ⟨first, before⟩ := woken
  obtain ⟨second, roused⟩ := middle.rouses_deliverAll wakeUps
  have both := congrArg Host.waits (rouse_rouse host first second)
  have same : (middle.rouse second).waits = ((host.rouse first).rouse second).waits := by
    simp only [rouse, before]
  exact ⟨_, (congrArg Host.waits roused ▸ delivered).trans (same.trans both)⟩

theorem unwoken (woken : WokenFrom host after)
    (inside : ∀ thread wait, host.waits.get? thread = some wait →
      start.waits.get? thread = some wait) : unwoken start.waits after.waits = host.waits := by
  obtain ⟨chosen, same⟩ := woken
  rw [same]
  exact unwoken_rouse chosen inside

/-- A wait that begins on top of others that were woken. -/
theorem unwoken_startWait (woken : WokenFrom host after)
    (inside : ∀ thread wait, host.waits.get? thread = some wait →
      start.waits.get? thread = some wait)
    (absent : host.waits.get? thread = none)
    (stirred : ∀ earlier, start.waits.get? thread = some earlier → earlier.stage ≠ .asleep)
    (target : Target) (timeout : Option Nat) (options : Sync.WaitOptions) (purpose : Purpose) :
    Host.unwoken start.waits (after.startWait thread target timeout options purpose).waits =
      host.waits.insert thread
        ⟨target, timeout.map fun span => after.clock + span, options, purpose, .starting⟩ := by
  have missing : after.waits.get? thread = none := by
    obtain ⟨chosen, same⟩ := woken
    rw [same, get?_rouse, absent]
    rfl
  have waits : (after.startWait thread target timeout options purpose).waits =
      after.waits.insert thread
        ⟨target, timeout.map fun span => after.clock + span, options, purpose, .starting⟩ := by
    rw [startWait, Assoc.erase_of_absent missing]
  rw [waits, unwoken_insert missing _ stirred, woken.unwoken inside]

end WokenFrom

theorem fares_of_insert {call : Call} {other : ThreadId} {wait : Wait}
    (waits : (host.begin call).waits = host.waits.insert other wait)
    (absent : host.waits.get? other = none) (begins : Begins host other call wait)
    (apart : call ≠ .turn thread) :
    Fares host call thread ((host.begin call).waits.get? thread) := by
  rw [waits, Assoc.get?_insert]
  split
  · next same =>
    subst same
    exact .began absent begins
  · exact .kept fun turn => absurd turn apart

theorem fares_of_same {call : Call} (waits : (host.begin call).waits = host.waits)
    (still : call = .turn thread → host.glimpse thread = none) :
    Fares host call thread ((host.begin call).waits.get? thread) := waits ▸ .kept still

/-- A call begins a wait of a thread if the thread is idle, and does nothing otherwise. -/
structure Opens (host : Host) (thread : ThreadId) (call : Call) (wait : Wait) : Prop where
  begins : Begins host thread call wait
  idle : host.isIdle thread = true → (host.begin call).waits = host.waits.insert thread wait
  busy : host.isIdle thread = false → (host.begin call).waits = host.waits

theorem absent_of_isIdle (idle : host.isIdle thread = true) : host.waits.get? thread = none := by
  simp only [isIdle, Assoc.contains, Bool.and_eq_true, Bool.not_eq_true',
    Option.isSome_eq_false_iff, Option.isNone_iff_eq_none] at idle
  exact idle.2

namespace Opens

variable {call : Call}

theorem of_heed {target : Target} {timeout : Option Nat} {options : Sync.WaitOptions}
    {purpose : Purpose} (patient : call.isPrompt = false) (same : middle.waits = host.waits)
    (heeds : host.heed call =
      host.whenIdle thread (middle.startWait thread target timeout options purpose))
    (begins : Begins host thread call
      ⟨target, timeout.map fun span => middle.clock + span, options, purpose, .starting⟩) :
    Opens host thread call
      ⟨target, timeout.map fun span => middle.clock + span, options, purpose, .starting⟩ := by
  have waits : (host.begin call).waits = unwoken host.waits (host.heed call).waits :=
    congrArg Host.waits (host.begin_of_patient patient)
  refine ⟨begins, fun idle => ?_, fun busy => ?_⟩
  · have absent := absent_of_isIdle idle
    rw [waits, heeds, whenIdle, idle, if_pos rfl]
    exact (WokenFrom.of_same same).unwoken_startWait (fun _ _ found => found) absent
      (by simp [absent]) target timeout options purpose
  · have rests : host.heed call = host := by rw [heeds, whenIdle, busy]; rfl
    rw [waits, rests, unwoken_of_inside fun _ _ found => found]

theorem fares {other : ThreadId} {wait : Wait} (opens : Opens host other call wait)
    (apart : call ≠ .turn thread) :
    Fares host call thread ((host.begin call).waits.get? thread) := by
  cases idle : host.isIdle other with
  | false => exact fares_of_same (opens.busy idle) fun turn => absurd turn apart
  | true => exact fares_of_insert (opens.idle idle) (absent_of_isIdle idle) opens.begins apart

end Opens

/-- The thread that begins to wait with a call, if it is idle. -/
def Call.opener? : Call → Option ThreadId
  | .wait thread _ _ _ | .sleep thread _ _ | .monitorWait thread _ _ _ _ | .shutdown thread _ =>
      some thread
  | _ => none

theorem opens_monitorWait (host : Host) (thread : ThreadId) (serial : Nat) (cookie : Cookie)
    (timeout : Option Nat) (options : Sync.WaitOptions) :
    ∃ wait, Opens host thread (.monitorWait thread serial cookie timeout options) wait := by
  cases plain : options.unwatched || !host.detector.hasOracle with
  | true =>
    have heeds : host.heed (.monitorWait thread serial cookie timeout options) =
        host.whenIdle thread (host.startWait thread (.signal serial) timeout options
          (.monitor cookie)) := by
      simp only [heed, startMonitorWait, plain]
      rfl
    exact ⟨_, .of_heed rfl rfl heeds (.monitor serial cookie timeout _ options)⟩
  | false =>
    let backoff : Backoff :=
      { slice := host.config.deadlock.initialSlice, total := timeout,
        longest := host.config.deadlock.maxSlice }
    have heeds : host.heed (.monitorWait thread serial cookie timeout options) =
        host.whenIdle thread (host.startWait thread (.signal serial) (some backoff.current) options
          (.watched cookie backoff)) := by
      simp only [heed, startMonitorWait, plain]
      rfl
    exact ⟨_, .of_heed rfl rfl heeds (.watched serial cookie timeout _ options backoff)⟩

theorem opens (host : Host) {call : Call} (opener : call.opener? = some thread) :
    ∃ wait, Opens host thread call wait := by
  cases call with
  | wait other target timeout options =>
    cases opener
    exact ⟨_, .of_heed rfl rfl rfl (.wait target timeout options)⟩
  | sleep other span options =>
    cases opener
    exact ⟨_, .of_heed rfl rfl rfl (.sleep span options)⟩
  | monitorWait other serial cookie timeout options =>
    cases opener
    exact host.opens_monitorWait thread serial cookie timeout options
  | shutdown other timeout =>
    cases opener
    let closed : Host := { host with crew := host.crew.shutdown.2 }
    have same : closed.waits = host.waits := rfl
    have heeds : host.heed (.shutdown thread timeout) = host.whenIdle thread
        (closed.startWait thread (.workers host.crew.shutdown.1) (some timeout) {} .shutdown) := rfl
    exact ⟨_, .of_heed rfl same heeds (.shutdown timeout _ _)⟩
  | _ => cases opener

theorem fares_prompt {call : Call} {woken : ThreadId → Wait → Bool}
    (waits : (host.begin call).waits = (host.rouse woken).waits) (apart : call ≠ .turn thread) :
    Fares host call thread ((host.begin call).waits.get? thread) := by
  rw [waits, get?_rouse]
  cases found : host.waits.get? thread with
  | none =>
    have kept : Fares host call thread (host.waits.get? thread) :=
      .kept fun turn => absurd turn apart
    rwa [found] at kept
  | some wait =>
    cases chosen : woken thread wait with
    | true =>
      have roused : Fares host call thread ((host.waits.get? thread).map Wait.wake) := .woken apart
      simpa [found, chosen] using roused
    | false =>
      have kept : Fares host call thread (host.waits.get? thread) :=
        .kept fun turn => absurd turn apart
      simpa [found, chosen] using kept

theorem wokenFrom_adopt (same : middle.waits = host.waits) (registry : Domain.Registry) :
    WokenFrom host (middle.adopt registry) := by
  have rests : WokenFrom host { middle with registry } := .of_same same
  exact rests.deliver (congrArg Host.waits (wakeSome_eq_deliverAll _ _ _))

theorem Orderly.unnumbered (orderly : host.Orderly) :
    host.waits.get? ⟨host.nextThread⟩ = none := by
  cases found : host.waits.get? ⟨host.nextThread⟩ with
  | none => rfl
  | some wait => exact absurd (orderly.waits _ wait found).numbered (Nat.lt_irrefl _)

theorem fares_createTask (orderly : host.Orderly) (parent : ThreadId) :
    Fares host (.createTask parent) thread
      ((host.begin (.createTask parent)).waits.get? thread) := by
  have waits : (host.begin (.createTask parent)).waits =
      unwoken host.waits (host.createTask parent).2.waits := rfl
  have inside : ∀ thread wait, host.waits.get? thread = some wait →
      host.waits.get? thread = some wait := fun _ _ found => found
  have numbered : (host.addThread .suspended).2.waits = host.waits := rfl
  cases made : (host.addThread .suspended).2.registry.reserveThread parent
      (host.addThread .suspended).1 with
  | mk outcome registry =>
    have adopted := wokenFrom_adopt numbered registry
    cases outcome with
    | error error =>
      refine fares_of_same ?_ nofun
      simp only [waits, createTask, made]
      exact adopted.unwoken inside
    | ok domain =>
      have absent := orderly.unnumbered
      refine fares_of_insert ?_ absent (.gate parent rfl) nofun
      simp only [waits, createTask, made]
      obtain ⟨chosen, same⟩ := adopted
      exact WokenFrom.unwoken_startWait ⟨chosen, same⟩ inside absent (by simp [absent])
        (.gate ⟨host.nextThread⟩) none {} .start

/-- Where a turn ends a wait, the others are at most woken, and the thread may have its next
slice. -/
theorem waits_turn {wait : Wait} {ending : Ending} {looked : Host}
    (seen : host.glimpse thread = some (wait, ending, looked)) :
    WokenFrom (host.away thread) (host.turn thread).2 ∨
      ∃ settled cookie next, WokenFrom (host.away thread) settled ∧
        (host.turn thread).2 = settled.startWait thread wait.target (some (next : Backoff).current)
          wait.options (.watched cookie next) := by
  obtain ⟨_, _, made⟩ := attempt_of_glimpse seen
  have tried := (host.away thread).attempted thread wait
  rw [made] at tried
  have woken : WokenFrom (host.away thread) looked := by
    cases tried with
    | took present taken => exact .of_same taken.waits
    | gaveUp empty missing kept => exact WokenFrom.deliver (.of_same rfl) kept.waits
  have after := looked.concluded thread wait ending
  rw [← (glimpse_eq_some seen).2.1] at after
  generalize host.turn thread = turned at after ⊢
  obtain ⟨told, left⟩ := turned
  cases after with
  | finished kept => exact .inl (woken.deliver kept.waits)
  | @resumed settled cookie next lapsed kept =>
    exact .inr ⟨settled, cookie, next, woken.deliver kept.waits, rfl⟩

theorem fares_turn (host : Host) (other thread : ThreadId) :
    Fares host (.turn other) thread ((host.begin (.turn other)).waits.get? thread) := by
  have waits : (host.begin (.turn other)).waits =
      unwoken host.waits (host.turn other).2.waits := rfl
  have inside : ∀ thread wait, (host.away other).waits.get? thread = some wait →
      host.waits.get? thread = some wait := fun _ _ => Assoc.get?_of_erase
  have gone : (host.away other).waits.get? other = none := Assoc.get?_erase_self _ _
  have others : ∀ wait, thread ≠ other →
      (((host.away other).waits.insert other wait).get? thread) = host.waits.get? thread := by
    intro wait apart
    simp [away, apart]
  cases seen : host.glimpse other with
  | none =>
    rcases turn_of_unseen seen with same | ⟨wait, found, stirs, dozed⟩
    · refine fares_of_same ?_ fun turn => Call.turn.inj turn ▸ seen
      rw [waits, same, unwoken_of_inside fun _ _ found => found]
    · have stirred : ∀ earlier, host.waits.get? other = some earlier →
          earlier.stage ≠ .asleep := by
        intro earlier again
        cases found.symm.trans again
        exact stirs
      have rested : (host.begin (.turn other)).waits =
          (host.away other).waits.insert other { wait with stage := .asleep } := by
        rw [waits, dozed]
        exact (unwoken_insert gone _ stirred).trans (by rw [unwoken_of_inside inside])
      rw [rested]
      by_cases same : thread = other
      · subst same
        rw [Assoc.get?_insert_self]
        exact .dozed rfl seen found
      · rw [others _ same]
        exact .kept fun turn => absurd (Call.turn.inj turn).symm same
  | some sight =>
    obtain ⟨wait, ending, looked⟩ := sight
    obtain ⟨found, stirs, _⟩ := attempt_of_glimpse seen
    rcases waits_turn seen with woken | ⟨settled, cookie, next, woken, resumed⟩
    · rw [waits, woken.unwoken inside]
      by_cases same : thread = other
      · subst same
        rw [gone]
        exact .ended rfl (by simp [seen])
      · rw [away, Assoc.get?_erase_of_ne _ same]
        exact .kept fun turn => absurd (Call.turn.inj turn).symm same
    · have stirred : ∀ earlier, host.waits.get? other = some earlier →
          earlier.stage ≠ .asleep := by
        intro earlier again
        cases found.symm.trans again
        exact stirs
      rw [waits, resumed, woken.unwoken_startWait inside gone stirred]
      by_cases same : thread = other
      · subst same
        rw [Assoc.get?_insert_self]
        exact .resumed rfl seen rfl
      · rw [others _ same]
        exact .kept fun turn => absurd (Call.turn.inj turn).symm same

/-- Waking others does not touch the wait of a thread that takes its turn. -/
theorem get?_begin_turn (host : Host) (thread : ThreadId) :
    (host.begin (.turn thread)).waits.get? thread = (host.turn thread).2.waits.get? thread := by
  have waits : (host.begin (.turn thread)).waits =
      unwoken host.waits (host.turn thread).2.waits := rfl
  rw [waits, unwoken, Assoc.get?_mapValues]
  cases found : host.waits.get? thread with
  | none => simp
  | some wait =>
    by_cases asleep : wait.stage = .asleep
    · rw [turn_of_asleep found asleep]
      simp [found]
    · refine (Option.map_congr fun after _ => ?_).trans Option.map_id'
      simp only [Wait.wake_of_stirring asleep]
      split
      · assumption
      · rfl

/-- How the wait of a thread fares when any call begins. -/
theorem fares (orderly : host.Orderly) (call : Call) (thread : ThreadId) :
    Fares host call thread ((host.begin call).waits.get? thread) := by
  cases opener : call.opener? with
  | some other =>
    obtain ⟨wait, opens⟩ := host.opens opener
    refine opens.fares ?_
    rintro rfl
    cases opener
  | none =>
    cases bears : call.bearsOnWaits with
    | false =>
      have patient : call.isPrompt = false := by
        cases call <;> first | rfl | cases bears
      refine fares_of_same ?_ ?_
      · rw [host.begin_of_patient patient]
        exact (told_heed orderly bears).1.unwoken fun _ _ found => found
      · rintro rfl
        cases bears
    | true =>
      cases call with
      | createTask parent => exact fares_createTask orderly parent
      | turn other => exact host.fares_turn other thread
      | elapse clock =>
        obtain ⟨woken, roused⟩ := host.rouses_elapse clock
        have same : (host.begin (.elapse clock)).waits = (host.rouse woken).waits := by
          rw [begin, heed, roused]
          rfl
        exact fares_prompt same (by simp)
      | restCrew =>
        obtain ⟨woken, roused⟩ := host.rouses_restCrew
        have same : (host.begin .restCrew).waits = (host.rouse woken).waits := by
          rw [begin, heed, roused]
          rfl
        exact fares_prompt same (by simp)
      | wait | sleep | monitorWait | shutdown => cases opener
      | _ => cases bears

/-- A wait that has not looked yet stays as it is until its thread takes its turn. -/
theorem Fares.of_starting {call : Call} {wait : Wait} {after : Option Wait}
    (fares : Fares host call thread after) (found : host.waits.get? thread = some wait)
    (starts : wait.stage = .starting) (apart : call ≠ .turn thread) : after = some wait := by
  cases fares with
  | kept => exact found
  | woken =>
    rw [found, Option.map_some, Wait.wake_of_stirring (by simp [starts])]
  | began absent =>
    rw [found] at absent
    cases absent
  | dozed turn | ended turn | resumed turn => exact absurd turn apart

/-- A wait for the start of a thread: at its own gate, for as long as it takes. -/
structure Wait.AwaitsStart (wait : Wait) (thread : ThreadId) : Prop where
  purpose : wait.purpose = .start
  target : wait.target = .gate thread
  deadline : wait.deadline = none
  options : wait.options = {}

theorem Wait.AwaitsStart.wake {wait : Wait} (awaits : wait.AwaitsStart thread) :
    wait.wake.AwaitsStart thread :=
  ⟨(purpose_wake wait).trans awaits.purpose, (Wait.wake_target wait).trans awaits.target,
    (Wait.wake_deadline wait).trans awaits.deadline, (Wait.wake_options wait).trans awaits.options⟩

/-- Threads wait for their start only at their own gates. -/
def Gated (host : Host) : Prop :=
  ∀ thread wait, host.waits.get? thread = some wait → wait.purpose = .start →
    wait.AwaitsStart thread

/-- Who waits for its start after a call did so before, and its turn did not end that; or it is
new. -/
theorem Fares.of_start {call : Call} {after : Wait} (fares : Fares host call thread (some after))
    (purpose : after.purpose = .start) :
    (∃ before, host.waits.get? thread = some before ∧ before.purpose = .start ∧
        (before.AwaitsStart thread → after.AwaitsStart thread) ∧
        (call = .turn thread → host.glimpse thread = none)) ∨
      (∃ parent, call = .createTask parent) ∧ thread = ⟨host.nextThread⟩ ∧
        after.AwaitsStart thread := by
  generalize outcome : some after = wait at fares
  cases fares with
  | kept still => exact .inl ⟨after, outcome.symm, purpose, id, still⟩
  | woken apart =>
    obtain ⟨before, found, rfl⟩ := Option.map_eq_some_iff.1 outcome.symm
    exact .inl ⟨before, found, (purpose_wake before) ▸ purpose, Wait.AwaitsStart.wake,
      fun turn => absurd turn apart⟩
  | began absent begins =>
    cases outcome
    cases begins with
    | gate parent new => exact .inr ⟨⟨parent, rfl⟩, new, rfl, rfl, rfl, rfl⟩
    | wait | sleep | monitor | watched | shutdown => cases purpose
  | @dozed wait turn unseen found =>
    cases outcome
    exact .inl ⟨wait, found, purpose, fun awaits => ⟨awaits.1, awaits.2, awaits.3, awaits.4⟩,
      fun _ => unseen⟩
  | ended => cases outcome
  | resumed _ _ watched =>
    cases outcome
    rw [purpose] at watched
    cases watched

namespace Gated

theorem create {config : Config} {opened : String → Except Error Trace.Sink}
    (made : Host.create config opened = .ok start) : start.Gated := by
  intro thread wait found
  rw [(nobody_of_create made).1, Assoc.get?_empty] at found
  cases found

theorem next (gated : host.Gated) (orderly : host.Orderly) (next : Next host more after) :
    after.Gated := by
  intro thread wait found purpose
  cases next with
  | began call accepted =>
    have through := fares orderly call thread
    rw [found] at through
    rcases through.of_start purpose with ⟨before, there, starts, awaits, _⟩ | ⟨_, _, awaits⟩
    · exact awaits (gated thread before there starts)
    · exact awaits
  | roused woken =>
    rw [get?_rouse] at found
    obtain ⟨before, there, rfl⟩ := Option.map_eq_some_iff.1 found
    cases chosen : woken thread before with
    | true =>
      simp only [chosen, if_true, purpose_wake] at purpose ⊢
      exact (gated thread before there purpose).wake
    | false =>
      simp only [chosen, Bool.false_eq_true, if_false] at purpose ⊢
      exact gated thread before there purpose
  | respun => exact gated thread wait found purpose

theorem course (gated : start.Gated) (orderly : start.Orderly)
    (course : Course start moments last) : last.Gated := by
  let kept : List Moment → Host → Prop := fun _ host => host.Gated
  exact @Course.induction _ _ _ kept (fun _ => True) course orderly (fun _ _ => trivial) gated
    fun _ _ _ _ step settled _ before => Gated.next before settled step

end Gated

end Steward.Host

namespace Steward.Scene

open Host

variable {start after : Scene} {deeds : List SyncDeed}

/-- The hosts of a run go through a course. -/
theorem Run.course (run : Run start deeds after) :
    ∃ moments, Course start.host moments after.host := by
  let courses : List SyncDeed → Scene → Prop := fun _ scene =>
    ∃ moments, Course start.host moments scene.host
  refine @Run.induction _ _ _ courses run ⟨[], .start⟩ ?_
  rintro _ _ middle after move ⟨moments, course⟩
  cases move with
  | called call accepted host => exact ⟨_, host ▸ course.call call accepted⟩
  | arrived woken owed reaches host => exact ⟨_, host ▸ course.next (.roused woken)⟩
  | forwent _ _ _ host => exact ⟨_, host ▸ course⟩
  | stirred woken host => exact ⟨_, host ▸ course.next (.roused woken)⟩
  | respun found host => exact ⟨_, host ▸ course.next (.respun found)⟩

end Steward.Scene
