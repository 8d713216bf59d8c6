import Steward.Host.Crew
import Steward.Host.RuntimeEvent
import Steward.Session.Command
import Steward.Session.Value

/-! A session: a host, the names that its objects and threads go by, and the commands that are in
progress. -/

set_option autoImplicit false

namespace Steward

namespace Session

/-- A thread of a session. Only the threads of tasks have a routine that can end. -/
structure Member where
  id : ThreadId
  isTask : Bool

/-- What a thread can be asked to do. -/
inductive Errand where
  | run (command : Command)
  /-- Its time is over. The threads of tasks have a routine that returns then. -/
  | finish (isTask : Bool)

/-- Something that a thread was asked to do, and the ticket that the answer will go by. -/
structure Request where
  ticket : Nat
  errand : Errand

/-- How a command is answered whose wait ended. -/
inductive After where
  | outcome
  | monitorOutcome
  | nothing
  | guard (serial : Nat) (early : Bool)
  | notice
  | shutdown
  /-- A thread that was never started is gone. -/
  | removed

abbrev Result := Except Fault Value

inductive Progress where
  | answered (result : Result)
  | waiting (after : After)

end Session

structure Session where
  host : Host
  threads : Assoc String Session.Member := {}
  tasks : Assoc String Nat := {}
  locks : Assoc String Nat := {}
  lastingSignals : Assoc String Nat := {}
  passingSignals : Assoc String Nat := {}
  semaphores : Assoc String Nat := {}
  heaps : Assoc String Nat := {}
  blocks : Assoc String Nat := {}
  bindings : Assoc String Completion.Binding := {}
  /-- What each thread was asked to do and has not begun, oldest first. -/
  requests : Assoc ThreadId (List Session.Request) := {}
  /-- The ticket of each command whose wait has not ended. -/
  pending : Assoc ThreadId (Nat × Session.After) := {}
  /-- The results that nobody took yet, by ticket. -/
  results : Assoc Nat Session.Result := {}
  nextTicket : Nat := 0
  /-- The ticket of the last command launched under each name and not awaited. -/
  launched : Assoc String Nat := {}
  /-- How many work items began to run. -/
  itemsEntered : Nat := 0
  /-- What the system lists of its memory. Commands tell only what is so on any system that has
  some. -/
  listing : String := "MemTotal: 1 kB\nMemFree: 1 kB"

namespace Session

def answer (session : Session) (value : Value) : Progress × Session :=
  (.answered (.ok value), session)

def refuse (session : Session) (error : Error) : Progress × Session :=
  (.answered (.error (.refused error)), session)

def complain (session : Session) (complaint : Complaint) : Progress × Session :=
  (.answered (.error (.badInput complaint)), session)

/-- Answer an attempt of the host. -/
def attempted {α : Type} (session : Session) (made : Except Error α × Host) (write : α → Value) :
    Progress × Session :=
  match made with
  | (.ok result, host) => { session with host }.answer (write result)
  | (.error error, host) => { session with host }.refuse error

/-- Answer an attempt to change the register of domains. -/
def registered {α : Type} (session : Session) (made : Except Error α × Domain.Registry)
    (write : α → Value) : Progress × Session :=
  session.attempted (made.1, session.host.adopt made.2) write

/-- Answer a question that leaves the host as it is. -/
def told {α : Type} (session : Session) (found : Except Error α) (write : α → Value) :
    Progress × Session :=
  session.attempted (found, session.host) write

/-- Answer a step of the host that cannot fail. -/
def changed (session : Session) (host : Host) : Progress × Session :=
  { session with host }.answer .nothing

/-- Begin a wait. -/
def waiting (session : Session) (host : Host) (after : After) : Progress × Session :=
  (.waiting after, { session with host })

/-- Use the object of a name, which must be there. -/
def withNamed {α : Type} (session : Session) (names : Assoc String α) (name : String)
    (use : α → Progress × Session) : Progress × Session :=
  match names.get? name with
  | some object => use object
  | none => session.complain (.noObject name)

/-- Ask something of a thread, which does it after what it was asked before. -/
def send (session : Session) (thread : ThreadId) (errand : Errand) : Nat × Session :=
  (session.nextTicket, { session with
    requests := session.requests.insert thread
      (session.requests.getD thread [] ++ [⟨session.nextTicket, errand⟩])
    nextTicket := session.nextTicket + 1 })

/-- Give a thread a name. A thread that had it before ends when it has done what it was asked. -/
def nameThread (session : Session) (name : String) (member : Member) : Session :=
  let freed := match session.threads.get? name with
    | some before => (session.send before.id (.finish before.isTask)).2
    | none => session
  { freed with threads := freed.threads.insert name member }

def signalNames (session : Session) (lasting : Bool) : Assoc String Nat :=
  if lasting then session.lastingSignals else session.passingSignals

def nameSignal (session : Session) (lasting : Bool) (name : String) (serial : Nat) : Session :=
  if lasting then
    { session with lastingSignals := session.lastingSignals.insert name serial }
  else { session with passingSignals := session.passingSignals.insert name serial }

end Session

namespace Session.Value

def report (report : Deadlock.Report) : Value :=
  record
    [("cycle", items (fun edge => list [thread edge.thread, cookie edge.cookie, thread edge.owner])
        report.cycle),
      ("participants", items thread report.participants),
      ("cookies", items (fun cookie => text cookie.text) report.cookies),
      ("text", text report.text)]

def outcome : Sync.Outcome → Value
  | .signaled => text "Signaled"
  | .abandoned => text "Abandoned"
  | .interrupted => text "Interrupted"
  | .timedOut => text "TimedOut"
  | .deadlock found => report found

def monitorOutcome (ended : Sync.Outcome) : Value :=
  list [outcome ended,
    list [flag ended.isSignaled, flag ended.isTimedOut, flag ended.report?.isSome]]

def event (event : Domain.Event) : Value :=
  list [text event.kind.label, domain event.domain, optional thread event.thread]

end Session.Value

end Steward
