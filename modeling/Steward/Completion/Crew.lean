import Steward.Assoc
import Steward.Completion.Channel

/-! The channels of a host and the crew of workers that serve them. A channel gets its first worker
when a resource is first bound to it. The crew grows by a worker when all are busy at a bind. A
worker that finds its queue empty retires if its channel keeps another worker and the crew stays at
or above its floor; the workers of a closed channel leave.

Each call and each step of a worker is taken whole. The program takes some of them in several parts,
between which other threads can come: a bind reads the counters one by one before it hires, and a
worker that checks whether to retire is off the count of its channel meanwhile. For the latter the
two parts are here as well. -/

set_option autoImplicit false

namespace Steward.Completion

/-- What a worker does. A held callback keeps its worker until it is let go. -/
inductive Duty where
  /-- The worker is new, and counts as busy until it waits for the first time. -/
  | starting
  | waiting
  | handling (packet : Packet) (held : Bool)
  deriving DecidableEq

structure Worker where
  channel : ChannelId
  duty : Duty := .starting
  deriving DecidableEq

structure Crew where
  maxChannels : Nat
  minThreads : Nat
  maxThreads : Nat
  channels : Assoc ChannelId Channel := {}
  opened : Nat := 0
  default : Option ChannelId := none
  workers : Assoc Nat Worker := {}
  hired : Nat := 0
  /-- Workers that a shutdown has to wait for. -/
  tracked : List Nat := []
  threads : Nat := 0
  busy : Nat := 0
  /-- The callback registered last, which is handed completions; without one they are dropped. -/
  callback : Option CallbackId := none
  /-- What callbacks were handed and nobody asked for yet, oldest first. -/
  seen : List (CallbackId × Packet) := []

namespace Crew

/-- A channel that is open. -/
def open? (crew : Crew) (id : ChannelId) : Option Channel :=
  (crew.channels.get? id).filter fun channel => !channel.isClosed

def openChannels (crew : Crew) : List ChannelId :=
  (crew.channels.filter fun _ channel => !channel.isClosed).keys

def openCount (crew : Crew) : Nat := crew.openChannels.length

def createChannel (crew : Crew) : Except Error (ChannelId × Crew) :=
  if crew.maxChannels ≤ crew.openCount then .error (.channelLimit crew.maxChannels)
  else
    let id : ChannelId := ⟨crew.opened + 1⟩
    .ok (id, { crew with
      channels := crew.channels.insert id {}
      opened := crew.opened + 1 })

/-- The channel for resources that name none, created when it is first needed. -/
def defaultChannel (crew : Crew) : Except Error (ChannelId × Crew) :=
  match crew.default with
  | some id => .ok (id, crew)
  | none =>
      match crew.createChannel with
      | .error error => .error error
      | .ok (id, crew) => .ok (id, { crew with default := some id })

def close (crew : Crew) (id : ChannelId) : Except Error Crew :=
  match crew.open? id with
  | none => .error (.notFound (.openChannel id))
  | some channel => .ok { crew with
      channels := crew.channels.insert id channel.close
      default := crew.default.filter fun other => other ≠ id }

/-- Add a worker to a channel. -/
def hire (crew : Crew) (id : ChannelId) : Crew :=
  { crew with
    channels := crew.channels.modify id fun channel =>
      { channel with workers := channel.workers + 1 }
    workers := crew.workers.insert crew.hired { channel := id }
    hired := crew.hired + 1
    tracked := crew.tracked ++ [crew.hired]
    threads := crew.threads + 1
    busy := crew.busy + 1 }

/-- Give a channel its first worker, or another one if every worker is busy. The counters are read
all at once. -/
def staff (crew : Crew) (id : ChannelId) (channel : Channel) : Crew :=
  if channel.workers = 0 then crew.hire id
  else if crew.busy = crew.threads ∧ crew.threads < crew.maxThreads then crew.hire id
  else crew

/-- Bind a resource to an open channel. -/
def bindTo (crew : Crew) (id : ChannelId) (resource : ResourceId) : Except Error (Binding × Crew) :=
  match crew.open? id with
  | none => .error (.notFound (.openChannel id))
  | some channel =>
      let staffed := crew.staff id channel
      .ok (⟨id, resource⟩, { staffed with
        channels := staffed.channels.modify id fun channel => channel.bind resource })

/-- Bind a resource to a channel, or to the default one. -/
def bind (crew : Crew) (id : Option ChannelId) (resource : ResourceId) :
    Except Error (Binding × Crew) :=
  match id with
  | some id => crew.bindTo id resource
  | none =>
      match crew.defaultChannel with
      | .error error => .error error
      | .ok (id, crew) => crew.bindTo id resource

def post (crew : Crew) (id : ChannelId) (packet : Packet) : Except Error Crew :=
  match (crew.channels.getD id { isClosed := true }).post id packet with
  | .error error => .error error
  | .ok channel => .ok { crew with channels := crew.channels.insert id channel }

/-- A new worker begins to wait. -/
def settleIn (crew : Crew) (serial : Nat) : Crew :=
  match crew.workers.get? serial with
  | some ⟨id, .starting⟩ => { crew with
      workers := crew.workers.insert serial ⟨id, .waiting⟩
      busy := crew.busy - 1 }
  | _ => crew

/-- Register a callback in place of the one before. -/
def register (crew : Crew) (callback : CallbackId) : Crew :=
  { crew with callback := some callback }

/-- What a callback gets when a completion is taken. -/
def handed (crew : Crew) (packet : Packet) : List (CallbackId × Packet) :=
  (crew.callback.map fun callback => (callback, packet)).toList

/-- A waiting worker takes the oldest completion of its channel, and hands it to the callback. -/
def take (crew : Crew) (serial : Nat) : Crew :=
  match crew.workers.get? serial with
  | some ⟨id, .waiting⟩ =>
      match crew.channels.get? id with
      | some channel =>
          match channel.queue with
          | packet :: rest => { crew with
              channels := crew.channels.insert id { channel with queue := rest }
              workers := crew.workers.insert serial
                ⟨id, .handling packet (crew.callback.isSome && decide (packet.conduct = .holds))⟩
              busy := crew.busy + 1
              seen := crew.seen ++ crew.handed packet }
          | [] => crew
      | none => crew
  | _ => crew

/-- A worker is gone from its channel and from the crew. -/
def discharge (crew : Crew) (serial : Nat) (id : ChannelId) : Crew :=
  { crew with
    channels := crew.channels.modify id fun channel =>
      { channel with workers := channel.workers - 1 }
    workers := crew.workers.erase serial
    threads := crew.threads - 1 }

/-- A worker whose queue is empty is spare if its channel and the crew can do without it. -/
def isSpare (crew : Crew) (channel : Channel) : Bool :=
  channel.queue.isEmpty && 1 < channel.workers && crew.minThreads < crew.threads

/-- A worker is done with its completion: it retires or waits for the next. The check is one
step. -/
def finish (crew : Crew) (serial : Nat) : Crew :=
  match crew.workers.get? serial with
  | some ⟨id, .handling _ _⟩ =>
      let idle := { crew with busy := crew.busy - 1 }
      match crew.channels.get? id with
      | some channel =>
          if crew.isSpare channel then idle.discharge serial id
          else { idle with workers := crew.workers.insert serial ⟨id, .waiting⟩ }
      | none => crew
  | _ => crew

/-- A worker waited for as long as it may, in vain: it retires or goes on waiting. The check is one
step. -/
def lapse (crew : Crew) (serial : Nat) : Crew :=
  match crew.workers.get? serial with
  | some ⟨id, .waiting⟩ =>
      match crew.channels.get? id with
      | some channel => if crew.isSpare channel then crew.discharge serial id else crew
      | none => crew
  | _ => crew

/-- The first part of a check whether to retire. A worker that finds its queue empty takes itself
off its channel, and learns how many workers it had. One that waited in vain counts as busy until
the check is over. -/
def stepOff (crew : Crew) (serial : Nat) : Option (Nat × Crew) :=
  match crew.workers.get? serial with
  | some worker =>
      match crew.channels.get? worker.channel with
      | some channel =>
          if worker.duty ≠ .starting ∧ channel.queue = [] then
            some (channel.workers, { crew with
              channels := crew.channels.modify worker.channel fun channel =>
                { channel with workers := channel.workers - 1 }
              busy := if worker.duty = .waiting then crew.busy + 1 else crew.busy })
          else none
      | none => none
  | none => none

/-- The second part of a check. By what it learned, a worker is gone or goes back to its channel. -/
def stepBack (crew : Crew) (serial learned : Nat) : Crew :=
  match crew.workers.get? serial with
  | some worker =>
      if 1 < learned ∧ crew.minThreads < crew.threads then
        { crew with
          workers := crew.workers.erase serial
          threads := crew.threads - 1
          busy := crew.busy - 1 }
      else { crew with
        channels := crew.channels.modify worker.channel fun channel =>
          { channel with workers := channel.workers + 1 }
        workers := crew.workers.insert serial { worker with duty := .waiting }
        busy := crew.busy - 1 }
  | none => crew

/-- A waiting worker of a closed channel leaves. -/
def leave (crew : Crew) (serial : Nat) : Crew :=
  match crew.workers.get? serial with
  | some ⟨id, .waiting⟩ =>
      if (crew.channels.get? id).any Channel.isClosed then crew.discharge serial id else crew
  | _ => crew

/-- One step of a worker that can make one; a held callback and an empty queue allow none. -/
def work (crew : Crew) (serial : Nat) : Crew :=
  match crew.workers.get? serial with
  | some ⟨_, .handling _ held⟩ => if held then crew else crew.finish serial
  | some ⟨_, .waiting⟩ => (crew.leave serial).take serial
  | some ⟨_, .starting⟩ => crew.settleIn serial
  | none => crew

/-- The worker whose callback is held on a context. -/
def holder? (crew : Crew) (context : Nat) : Option Nat :=
  (crew.workers.entries.find? fun entry =>
    match entry.2.duty with
    | .handling packet held => held && packet.context = context
    | .starting | .waiting => false).map Prod.fst

/-- How many completions are queued. -/
def backlog (crew : Crew) : Nat :=
  crew.channels.values.foldr (fun channel rest => channel.queue.length + rest) 0

/-- Let every worker step in turn, for a number of rounds. -/
def rounds : Nat → Crew → Crew
  | 0, crew => crew
  | count + 1, crew => rounds count (crew.workers.keys.foldl work crew)

/-- Let the workers work until they rest. A queued completion takes two rounds of a worker; before
that, one round makes the worker free, and after it one lets it leave. -/
def rest (crew : Crew) : Crew := rounds (2 * crew.backlog + 2) crew

/-- Close every channel and hand over the workers to wait for. -/
def shutdown (crew : Crew) : List Nat × Crew :=
  (crew.tracked.filter fun serial => crew.workers.contains serial, { crew with
    channels := crew.channels.mapValues fun _ channel => channel.close
    default := none
    tracked := [] })

def available (crew : Crew) : Nat := crew.maxThreads - crew.threads

def workersOf (crew : Crew) (id : ChannelId) : Option Nat := (crew.open? id).map Channel.workers

/-- Take what callbacks were handed since it was last asked for. -/
def takeSeen (crew : Crew) : List (CallbackId × Packet) × Crew :=
  (crew.seen, { crew with seen := [] })

def debug (crew : Crew) : String :=
  Text.record "IoCompletionManager"
    [("ports", toString crew.openCount), ("threads", toString crew.threads),
      ("busy", toString crew.busy), ("min_threads", toString crew.minThreads),
      ("max_threads", toString crew.maxThreads)]

end Crew

end Steward.Completion
