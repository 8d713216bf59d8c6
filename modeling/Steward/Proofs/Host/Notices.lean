import Steward.Host.Watch
import Steward.Proofs.Domain.Delivery
import Steward.Proofs.Host.Act

/-! Notices among the threads of a host. Many threads post, poll and purge; a poll sleeps while
there is nothing to take, and looks again when somebody posts or its time is over. -/

set_option autoImplicit false

namespace Steward.Host

open Domain

/-- What threads do with the notices of a host. A poll that was begun goes on whenever its thread
comes to its turn. -/
inductive NoticeCall where
  | post (event : Event)
  | poll (thread : ThreadId) (timeout : Option Nat)
  | purge (domain : DomainId)
  | turn (thread : ThreadId)
  | elapse (clock : Nat)

/-- A poll ends with what it found, or goes on waiting. -/
def turnDeed : Option Ending → Deed
  | some ending => .polled ending.notice
  | none => .waited

def onNotices (host : Host) : NoticeCall → Deed × Host
  | .post event =>
      let (accepted, events) := host.registry.events.post event
      (.posted event accepted, host.adopt { host.registry with events })
  | .poll thread timeout => (.waited, host.startWait thread .notice timeout {} .plain)
  | .purge domain =>
      let (dropped, events) := host.registry.events.purge domain
      (.purged domain dropped, host.adopt { host.registry with events })
  | .turn thread =>
      let (ending, left) := host.turn thread
      (turnDeed ending, left)
  | .elapse clock => (.waited, host.elapse clock)

/-- Calls one after the other, and what each of them came to. -/
def noticeRun (host : Host) : List NoticeCall → List Deed × Host
  | [] => ([], host)
  | call :: rest =>
      let (deed, next) := host.onNotices call
      let (deeds, left) := next.noticeRun rest
      (deed :: deeds, left)

structure Wait.IsPoll (wait : Wait) : Prop where
  target : wait.target = .notice
  patient : wait.options.alertable = false
  purpose : wait.purpose = .plain

theorem Wait.IsPoll.wake {wait : Wait} (poll : wait.IsPoll) : wait.wake.IsPoll := by
  unfold Wait.wake
  split
  · exact ⟨poll.target, poll.patient, poll.purpose⟩
  · exact poll

/-- Whoever waits waits for a notice. -/
def Polling (host : Host) : Prop :=
  ∀ thread wait, host.waits.get? thread = some wait → wait.IsPoll

namespace Polling

variable {host : Host}

theorem wakeOne (polling : host.Polling) (target : Target) : (host.wakeOne target).Polling := by
  unfold Host.wakeOne
  split
  · next woken _ _ =>
    intro thread wait found
    by_cases same : thread = woken
    · subst same
      simp only [Assoc.get?_modify_self, Option.map_eq_some_iff] at found
      obtain ⟨before, asleep, rfl⟩ := found
      exact (polling _ _ asleep).wake
    · exact polling thread wait (by simpa [same] using found)
  · exact polling

theorem wakeSome (polling : host.Polling) (target : Target) (count : Nat) :
    (wakeSome target count host).Polling := by
  induction count generalizing host with
  | zero => exact polling
  | succ count ih => exact ih (polling.wakeOne target)

theorem adopt (polling : host.Polling) (registry : Registry) : (host.adopt registry).Polling :=
  @wakeSome { host with registry } polling _ _

theorem insert (polling : host.Polling) (thread : ThreadId) {wait : Wait} (poll : wait.IsPoll) :
    Polling { host with waits := host.waits.insert thread wait } := by
  intro other found there
  by_cases same : other = thread
  · subst same
    rw [Assoc.get?_insert_self] at there
    exact Option.some.inj there ▸ poll
  · exact polling other found (by simpa [same] using there)

theorem erase (polling : host.Polling) (thread : ThreadId) :
    Polling { host with waits := host.waits.erase thread } := by
  intro other found there
  by_cases same : other = thread
  · subst same
    simp at there
  · exact polling other found (by simpa [same] using there)

theorem elapse (polling : host.Polling) (clock : Nat) : (host.elapse clock).Polling := by
  intro thread wait found
  simp only [Host.elapse, Assoc.get?_mapValues, Option.map_eq_some_iff] at found
  obtain ⟨before, there, rfl⟩ := found
  split
  · exact (polling thread before there).wake
  · exact polling thread before there

/-- A look of a poll takes the oldest notice, or finds that there is none and sleeps until it is
time to give up. -/
theorem attempt (polling : host.Polling) (thread : ThreadId) {wait : Wait} (poll : wait.IsPoll) :
    (∃ event events, host.registry.events.poll? = some (event, events) ∧
      host.attempt thread wait = (some ⟨.signaled, some event⟩,
        { host with registry := { host.registry with events } })) ∨
    host.registry.events.poll? = none ∧
      (host.attempt thread wait = (some ⟨.timedOut, none⟩, host) ∨
        ∃ left : Host, host.attempt thread wait = (none, left) ∧ left.registry = host.registry ∧
          left.Polling) := by
  simp only [Host.attempt, Host.look, poll.target, poll.patient, take?]
  -- Even when its time is over, a poll gives up only after it looked at the queue.
  cases found : host.registry.events.poll? with
  | some pair => exact .inl ⟨pair.1, pair.2, rfl, by simp⟩
  | none =>
    refine .inr ⟨rfl, ?_⟩
    by_cases due : wait.isDue host.clock = true
    · exact .inl (by simp [due])
    · have asleep : Wait.IsPoll ⟨.notice, wait.deadline, wait.options, wait.purpose, .asleep⟩ :=
        ⟨rfl, poll.patient, poll.purpose⟩
      refine .inr ⟨{ host with waits := host.waits.insert thread _ }, ?_, rfl,
        polling.insert thread asleep⟩
      simp [due]

theorem turn (polling : host.Polling) (thread : ThreadId) :
    (turnDeed (host.turn thread).1).Does host.registry.events
        (host.turn thread).2.registry.events ∧ (host.turn thread).2.Polling := by
  unfold Host.turn
  cases found : host.waits.get? thread with
  | none => exact ⟨.waited, polling⟩
  | some wait =>
    simp only
    split
    · exact ⟨.waited, polling⟩
    · -- What a look takes off the queue is what the poll returns, since nothing follows the wait.
      have poll := polling thread wait found
      have rest := polling.erase thread
      rcases rest.attempt thread poll with ⟨event, events, taken, looked⟩ |
        ⟨empty, looked | ⟨left, looked, same, still⟩⟩
      · simp only [looked, conclude, poll.purpose]
        exact ⟨.taken taken, rest⟩
      · simp only [looked, conclude, poll.purpose]
        exact ⟨.missed empty, rest⟩
      · simp only [looked, same]
        exact ⟨.waited, still⟩

end Polling

theorem does_onNotices {host : Host} (polling : host.Polling) (call : NoticeCall) :
    (host.onNotices call).1.Does host.registry.events (host.onNotices call).2.registry.events ∧
      (host.onNotices call).2.Polling := by
  cases call with
  | post event =>
    simp only [onNotices, adopt_registry]
    exact ⟨.posted event, polling.adopt _⟩
  | poll thread timeout =>
    exact ⟨.waited, (polling.erase thread).insert thread ⟨rfl, rfl, rfl⟩⟩
  | purge domain =>
    simp only [onNotices, adopt_registry]
    exact ⟨.purged domain, polling.adopt _⟩
  | turn thread => exact polling.turn thread
  | elapse clock => exact ⟨.waited, polling.elapse clock⟩

theorem history_noticeRun {host : Host} (polling : host.Polling) {before : List Deed}
    (history : History before host.registry.events) (calls : List NoticeCall) :
    History (before ++ (host.noticeRun calls).1) (host.noticeRun calls).2.registry.events := by
  induction calls generalizing host before with
  | nil => simpa [noticeRun] using history
  | cons call rest ih =>
    obtain ⟨does, still⟩ := does_onNotices polling call
    simpa [noticeRun] using ih still (history.more does)

/-- The notices of a host are queued at most once for each kind and domain. Polls return them in
the order of the posts; each that was accepted is taken by one poll, or dropped by one purge of its
domain, or still queued. -/
theorem notices_delivered {config : Config} {opened : String → Except Error Trace.Sink}
    {start : Host} (created : create config opened = .ok start) (calls : List NoticeCall) :
    let deeds := (start.noticeRun calls).1
    let host := (start.noticeRun calls).2
    let pending := host.registry.events.pending
    (pending.Pairwise fun first second => first.kind = second.kind → first.domain ≠ second.domain) ∧
      (∀ event, ∃ accepted, (host.onNotices (.post event)).1 = .posted event accepted ∧
        (accepted = true ↔
          ∀ queued ∈ pending, event.kind = queued.kind → event.domain ≠ queued.domain) ∧
        (host.onNotices (.post event)).2.registry.events.pending =
          if accepted then pending ++ [event] else pending) ∧
      (returned deeds).Sublist (accepted deeds) ∧
      (∃ taken dropped waiting, Delivered deeds pending taken dropped waiting) ∧
      ∀ domain, (host.onNotices (.purge domain)).2.registry.events.pending =
        pending.filter fun event => event.domain ≠ domain := by
  intro deeds host pending
  -- A new host has an empty queue, and nobody waits for anything yet.
  have initial : start.Polling ∧ start.registry.events = {} := by
    unfold create at created
    split at created
    · cases created
    · cases created
      exact ⟨fun _ _ => nofun, rfl⟩
  have history : History deeds host.registry.events := by
    have begun : History [] start.registry.events := initial.2 ▸ .empty
    exact history_noticeRun initial.1 begun calls
  refine ⟨?_, fun event => ⟨(host.registry.events.post event).1, rfl, ?_, ?_⟩, ?_,
    history.exists_delivered, fun domain => ?_⟩
  · exact history.apart.imp Event.same_eq_false_iff.1
  · rw [EventQueue.post_eq_true_iff]
    simp only [Event.same_eq_false_iff, pending]
  · simp only [onNotices, adopt_registry]
    exact EventQueue.pending_post _ _
  · exact (List.sublist_append_left _ _).trans history.sublist_accepted
  · simp only [onNotices, adopt_registry]
    rfl

def busyNotices : List NoticeCall :=
  [.poll ⟨1⟩ none, .turn ⟨1⟩, .post ⟨.outOfTasks, ⟨1⟩, some ⟨5⟩⟩, .post ⟨.outOfTasks, ⟨1⟩, none⟩,
    .post ⟨.outOfMemory, ⟨2⟩, none⟩, .turn ⟨1⟩, .post ⟨.outOfTasks, ⟨1⟩, none⟩, .purge ⟨2⟩,
    .poll ⟨2⟩ (some 5), .turn ⟨2⟩, .poll ⟨2⟩ (some 5), .turn ⟨2⟩, .elapse 5, .turn ⟨2⟩]

theorem delivered_busyNotices :
    ∃ start, create {} (fun _ => .ok (.memory 0 [])) = .ok start ∧
      (start.noticeRun busyNotices).1 = [.waited, .waited,
        .posted ⟨.outOfTasks, ⟨1⟩, some ⟨5⟩⟩ true, .posted ⟨.outOfTasks, ⟨1⟩, none⟩ false,
        .posted ⟨.outOfMemory, ⟨2⟩, none⟩ true, .polled (some ⟨.outOfTasks, ⟨1⟩, some ⟨5⟩⟩),
        .posted ⟨.outOfTasks, ⟨1⟩, none⟩ true, .purged ⟨2⟩ 1, .waited,
        .polled (some ⟨.outOfTasks, ⟨1⟩, none⟩), .waited, .waited, .waited, .polled none] ∧
      ∃ taken dropped waiting, Delivered (start.noticeRun busyNotices).1
        (start.noticeRun busyNotices).2.registry.events.pending taken dropped waiting := by
  refine ⟨_, rfl, by decide, ?_⟩
  have delivered := @notices_delivered {} (fun _ => .ok (.memory 0 [])) _ rfl busyNotices
  exact delivered.2.2.2.1

end Steward.Host
