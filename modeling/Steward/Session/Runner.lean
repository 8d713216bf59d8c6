import Steward.Session.Completion
import Steward.Session.Deadlock
import Steward.Session.Debug
import Steward.Session.Domains
import Steward.Session.Hosting
import Steward.Session.Memory
import Steward.Session.Sync
import Steward.Session.Tasks

/-! How a session runs. Steps come one after another. Each thread does what it is asked in order. A
step ends as soon as the answer that it waits for is there; the other threads go on before the next
one. While an answer is waited for and nothing else can go on, time passes: up to the next deadline,
and by a tick at least. -/

set_option autoImplicit false

namespace Steward.Session

def perform (session : Session) (thread : ThreadId) : Command → Progress × Session
  | .spawn name => session.spawn name
  | .task command => session.performTask thread command
  | .domain command => session.performDomain thread command
  | .host command => session.performHost thread command
  | .memory command => session.performMemory thread command
  | .lock name command => session.performLock thread name command
  | .signal lasting name command => session.performSignal thread lasting name command
  | .semaphore name command => session.performSemaphore thread name command
  | .monitor name command => session.performMonitor thread name command
  | .deadlock command => session.performDeadlock thread command
  | .trace command => session.performTrace command
  | .completion command => session.performCompletion command
  | .debug subject => session.performDebug thread subject

/-- Answer a command whose wait ended. -/
def finish (session : Session) (thread : ThreadId) (ending : Host.Ending) :
    After → Result × Session
  | .outcome => (.ok (.outcome ending.outcome), session)
  | .monitorOutcome => (.ok (.monitorOutcome ending.outcome), session)
  | .nothing => (.ok .nothing, session)
  | .guard serial early => session.closeGuard thread serial early
  | .notice => (.ok (.optional .event ending.notice), session)
  | .shutdown => (.ok (.flag ending.outcome.isSignaled), session)
  | .removed => (.ok (.flag true), session)

/-- Let a thread make a step of its wait, and keep the result of a command that ended with it. -/
def turn (session : Session) (thread : ThreadId) : Session :=
  match session.host.turn thread with
  | (none, host) => { session with host }
  | (some ending, host) =>
      match session.pending.get? thread with
      | none => { session with host }
      | some (ticket, after) =>
          let (result, session) := { session with host }.finish thread ending after
          { session with
            pending := session.pending.erase thread
            results := session.results.insert ticket result }

/-- Begin what a thread was asked. A task that is over waits for nothing but its own exit. -/
def beginErrand (session : Session) (thread : ThreadId) : Errand → Progress × Session
  | .run command => session.perform thread command
  | .finish false => session.answer .nothing
  | .finish true =>
      session.waiting
        ((session.host.beginDeparture thread).startWait thread (.exit thread) none {} .plain)
        .nothing

/-- Note what a request came to on a thread: a result, or a wait, of which the first look comes at
once. -/
def note (thread : ThreadId) (ticket : Nat) : Progress × Session → Session
  | (.answered result, session) =>
      { session with results := session.results.insert ticket result }
  | (.waiting after, session) =>
      { session with pending := session.pending.insert thread (ticket, after) }.turn thread

/-- A thread is started and waits for nothing. -/
def isFree (session : Session) (thread : ThreadId) : Bool :=
  (session.host.control thread).isStarted && !session.host.waits.contains thread

def hasExited (session : Session) (thread : ThreadId) : Bool :=
  (session.host.control thread).exited

/-- A thread can go on with what it was asked, or is gone and will not. -/
def isReady (session : Session) (thread : ThreadId) : Bool :=
  !(session.requests.getD thread []).isEmpty && (session.hasExited thread || session.isFree thread)

/-- Let a thread begin with the next request, or have a thread that is gone turn it down. -/
def serve (session : Session) (thread : ThreadId) : Session :=
  match session.requests.getD thread [] with
  | [] => session
  | request :: rest =>
      let left := { session with requests := session.requests.insert thread rest }
      if session.hasExited thread then
        note thread request.ticket (left.complain .noThread)
      else if session.isFree thread then
        note thread request.ticket (left.beginErrand thread request.errand)
      else session

/-- Let every thread make a step that waits, ends, or has something to do, and let the workers work
until they rest. -/
def round (session : Session) : Session :=
  let turned := session.host.waits.keys.foldl turn session
  let departed := { turned with host := turned.host.leaving.keys.foldl Host.depart turned.host }
  let served := departed.requests.keys.foldl serve departed
  { served with host := served.host.restCrew }

/-- A thread begins a wait of no time, in vain. One that does so over and over stirs all the time,
and must not keep the others from going on. -/
def spins (host : Host) (entry : ThreadId × Host.Wait) : Bool :=
  entry.2.stage = .starting &&
    (host.attempt entry.1 entry.2).1.any fun ending => ending.outcome.isTimedOut

def isStirring (session : Session) : Bool :=
  (session.host.waits.entries.any fun entry =>
    decide (entry.2.stage ≠ .asleep) && !spins session.host entry) ||
  !session.host.leaving.keys.isEmpty || session.requests.keys.any session.isReady

/-- However soon a wait is due, the clock of a session goes on by this much. -/
def tick : Nat := 50000

/-- When time passes, it passes up to this. -/
def nextTime? (session : Session) : Option Nat :=
  session.host.nextDeadline?.map fun deadline => max deadline (session.host.clock + tick)

/-- Go on until the result of a ticket is there or, without a ticket, until nothing stirs; or until
patience ends. Time passes only for a ticket. -/
def drive (ticket : Option Nat) : Nat → Session → Session
  | 0, session => session
  | patience + 1, session =>
      if ticket.any session.results.contains then session
      else if session.isStirring then drive ticket patience session.round
      else
        match ticket, session.nextTime? with
        | some _, some time =>
            drive ticket patience { session with host := session.host.elapse time }.round
        | _, _ => session

/-- How many rounds a step may take. -/
def patience : Nat := 1000000

/-- Take the result of a ticket when it is there. One that does not come has no end. -/
def take (session : Session) (ticket : Nat) : Result × Session :=
  let driven := drive (some ticket) patience session
  match driven.results.get? ticket with
  | some result => (result, { driven with results := driven.results.erase ticket })
  | none => (.error (.badInput .endless), driven)

/-- Ask something of a thread, and wait for the answer. -/
def ask (session : Session) (thread : ThreadId) (errand : Errand) : Result × Session :=
  let (ticket, sent) := session.send thread errand
  sent.take ticket

def mainThread : ThreadId := ⟨1⟩

/-- The thread of a name that can run commands. -/
def runner? (session : Session) (name : String) : Option ThreadId :=
  if name = "main" then some mainThread
  else (session.threads.get? name).bind fun member =>
    if session.hasExited member.id then none else some member.id

/-- Make one step. -/
def step (session : Session) (step : Step) : Result × Session :=
  match step.action with
  | .run command =>
      match session.runner? step.thread with
      | none => (.error (.badInput .noThread), session)
      | some thread => session.ask thread (.run command)
  | .launch command =>
      match session.runner? step.thread with
      | none => (.error (.badInput .noThread), session)
      | some thread =>
          let (ticket, sent) := session.send thread (.run command)
          (.ok (.text "started"),
            { sent with launched := sent.launched.insert step.thread ticket })
  | .await =>
      match session.launched.get? step.thread with
      | none => (.error (.badInput .nothingToAwait), session)
      | some ticket =>
          { session with launched := session.launched.erase step.thread }.take ticket
  | .finish =>
      match session.threads.get? step.thread with
      | none => (.error (.badInput (.noThreadNamed step.thread)), session)
      | some member =>
          let freed := { session with threads := session.threads.erase step.thread }
          if session.hasExited member.id then (.ok .nothing, freed)
          else freed.ask member.id (.finish member.isTask)

/-- A live domain as it stands after a step. -/
structure DomainState where
  domain : DomainId
  record : Domain.Record

/-- What can be seen of a host after a step. -/
structure Snapshot where
  domains : List DomainState
  default : Option DomainId
  zombies : Nat
  queued : Nat
  tasks : Nat

def snapshot (session : Session) : Snapshot :=
  let registry := session.host.registry
  { domains := registry.live.filterMap fun domain =>
      (registry.domains.get? domain).map fun record => ⟨domain, record⟩
    default := registry.first.map Prod.fst
    zombies := registry.zombies
    queued := registry.events.size
    tasks := session.host.tasks.size }

/-- The answer of a step: its result, what the embedder was told meanwhile, and what is seen
afterwards. -/
structure Answer where
  result : Result
  notes : List Note
  seen : Snapshot

/-- Let the threads go on, and answer one step, or complain of one that could not be read. -/
def respond (session : Session) (step : Except Complaint Step) : Answer × Session :=
  let settled := drive none patience session
  let (result, session) := match step with
    | .ok step => settled.step step
    | .error complaint => (.error (.badInput complaint), settled)
  let answer := ⟨result, session.host.notes, session.snapshot⟩
  (answer, { session with host := { session.host with notes := [] } })

def run (session : Session) : List (Except Complaint Step) → List Answer
  | [] => []
  | step :: rest =>
      let (answer, session) := session.respond step
      answer :: session.run rest

/-- A session on a new host, with its main thread. -/
def create (config : Host.Config) (opened : String → Except Error Trace.Sink) :
    Except Error Session :=
  match Host.create config opened with
  | .error error => .error error
  | .ok host => .ok { host := (host.addThread {}).2 }

end Steward.Session
