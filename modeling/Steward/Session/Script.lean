import Steward.Session.Command
import Steward.Session.Value

/-! The script of a session, and how its steps are read. A step is a record; its verb tells the
command, and its other fields are what the command is given. A field that holds nothing is as good
as absent; an absent number is zero, and an absent text is empty. -/

set_option autoImplicit false

namespace Steward.Session.Script

abbrev Fields := List (String × Value)

abbrev Reading := Except Complaint

namespace Fields

def get? (fields : Fields) (name : String) : Option Value :=
  match fields.find? fun field => field.1 = name with
  | some (_, .nothing) => none
  | some (_, value) => some value
  | none => none

/-- A field is written, even if it holds nothing. -/
def isWritten (fields : Fields) (name : String) : Bool := fields.any fun field => field.1 = name

def need {α : Type} (name : String) : Option α → Reading α
  | some value => .ok value
  | none => .error (.unreadable name)

def natural? (fields : Fields) (name : String) : Reading (Option Nat) :=
  match fields.get? name with
  | none => .ok none
  | some (.number (.ofNat value)) => .ok (some value)
  | some _ => .error (.unreadable name)

def text? (fields : Fields) (name : String) : Reading (Option String) :=
  match fields.get? name with
  | none => .ok none
  | some (.text value) => .ok (some value)
  | some _ => .error (.unreadable name)

def flag (fields : Fields) (name : String) : Reading Bool :=
  match fields.get? name with
  | none => .ok false
  | some (.flag value) => .ok value
  | some _ => .error (.unreadable name)

def integer (fields : Fields) (name : String) : Reading Int :=
  match fields.get? name with
  | none => .ok 0
  | some (.number value) => .ok value
  | some _ => .error (.unreadable name)

def list (fields : Fields) (name : String) : Reading (List Value) :=
  match fields.get? name with
  | none => .ok []
  | some (.list items) => .ok items
  | some _ => .error (.unreadable name)

def natural (fields : Fields) (name : String) : Reading Nat :=
  (Option.getD · 0) <$> fields.natural? name

def text (fields : Fields) (name : String) : Reading String :=
  (Option.getD · "") <$> fields.text? name

def thread (fields : Fields) (name : String) : Reading ThreadId :=
  ThreadId.mk <$> fields.natural name

def domain (fields : Fields) : Reading DomainId := DomainId.mk <$> fields.natural "domain"

def cookie (fields : Fields) : Reading Cookie := Cookie.mk <$> fields.natural "cookie"

def bytes (fields : Fields) (name : String) : Reading (List UInt8) := do
  need name (Text.bytesOfHex? (← fields.text name).toList)

def timeout (fields : Fields) : Reading (Option Nat) := fields.natural? "timeout_ns"

def options (fields : Fields) : Reading Sync.WaitOptions :=
  FlagSet.ofBits <$> fields.natural "options"

/-- One of several values, by its name. -/
def oneOf {α : Type} (fields : Fields) (name : String) (all : List α) (label : α → String) :
    Reading α := do
  let written ← fields.text name
  need name (all.find? fun value => label value = written)

def texts (fields : Fields) (name : String) : Reading (List String) := do
  (← fields.list name).mapM fun
    | .text value => .ok value
    | _ => .error (.unreadable name)

end Fields

def unknownVerb {α : Type} (verb : String) : Reading α := .error (.unreadable verb)

def readTask (verb : String) (fields : Fields) : Reading Command := do
  let name ← fields.text "name"
  Command.task <$> match verb with
    | "create" => return .create name
    | "start" => return .start name
    | "alert" => return .alert name
    | "join" => return .join name (← fields.timeout) (← fields.options)
    | "state" => return .state name
    | "set_priority" => return .setPriority name (← fields.integer "priority")
    | "set_clr_task" => return .setLogical name (← fields.natural "managed")
    | "add_managed" => return .addManaged name (← fields.natural "managed")
    | _ => unknownVerb verb

def readTasks (verb : String) (fields : Fields) : Reading Command :=
  Command.task <$> match verb with
    | "current" => do return .current (← fields.text? "name")
    | "current_id" => return .currentId
    | "lookup" => do return .lookup (← fields.thread "thread")
    | "remove" => do return .remove (← fields.thread "thread")
    | "count" => return .count
    | "logical" => do return .logical (← fields.thread "thread")
    | "sleep" => do return .sleep (← fields.natural "timeout_ns") (← fields.options)
    | "switch" => return .yield
    | _ => unknownVerb verb

def readDomain (verb : String) (fields : Fields) : Reading Command :=
  Command.domain <$> match verb with
    | "create" => do
        return .create (← fields.domain) (← fields.thread "thread") (← fields.text "tag")
    | "admit" => do return .admitThread (← fields.thread "thread")
    | "acquiring" => do return .mayAcquire (← fields.thread "thread")
    | "acquire" => do return .acquire (← fields.thread "thread") (← fields.thread "child")
    | "reserve" => do return .reserve (← fields.thread "thread") (← fields.thread "child")
    | "release" => do return .release (← fields.thread "thread")
    | "unload" => do return .unload (← fields.domain)
    | "rude_unload" => return .rudeUnload
    | "is_snippet" => do return .isSnippet (← fields.thread "thread")
    | "default" => return .first
    | "of" => do return .domainOf (← fields.thread "thread")
    | "main_thread" => do return .mainThread (← fields.domain)
    | "thread_count" => do return .threadCount (← fields.domain)
    | "memory_usage" => do return .memoryUsage (← fields.domain)
    | "thread_memory" => do return .threadMemory (← fields.thread "thread")
    | "reset_counters" => do return .resetCounters (← fields.domain)
    | "list" => return .list
    | "memory_acquiring" => do
        return .mayAcquireBytes (← fields.thread "thread") (← fields.natural "bytes")
    | "memory_acquire" => do
        return .acquireBytes (← fields.thread "thread") (← fields.natural "bytes")
          (← fields.natural "address")
    | "memory_release" => do return .releaseBytes (← fields.natural "address")
    | "memory_release_partial" => do
        return .releasePartial (← fields.natural "address") (← fields.natural "bytes")
    | _ => unknownVerb verb

def readHost (verb : String) (fields : Fields) : Reading Command :=
  match verb with
  | "set_domain_manager" => do
      return .domain (.createHere (← fields.domain) (← fields.text "tag"))
  | "manager" => do
      return .host (.manager
        (← fields.oneOf "kind" Host.ManagerKind.all Host.ManagerKind.label))
  | "thread_count" => do return .domain (.threadCount (← fields.domain))
  | "memory_usage" => do return .domain (.memoryUsage (← fields.domain))
  | "reset_counters" => do return .domain (.resetCounters (← fields.domain))
  | "zombie_count" => return .domain .zombies
  | "unload_domain" => do return .host (.requestUnload (← fields.domain))
  | "poll_event" => do return .host (.poll (← fields.timeout))
  | "config" => return .host .config
  | "apply_policy" => do return .host (.applyPolicy (← fields.texts "reject"))
  | "shutdown" => do return .host (.shutdown (← fields.natural "timeout_ns"))
  | _ => unknownVerb verb

def readEvent (verb : String) (fields : Fields) : Reading Command :=
  Command.host <$> match verb with
    | "post" => do
        let kind ← fields.oneOf "kind" Domain.EventKind.all Domain.EventKind.label
        return .post ⟨kind, ← fields.domain, (← fields.natural? "thread").map ThreadId.mk⟩
    | "poll" => do return .poll (← fields.timeout)
    | "purge" => do return .purge (← fields.domain)
    | "len" => return .queueLength
    | _ => unknownVerb verb

def readRuntime (fields : Fields) : Reading Command := do
  Command.host <$> HostCommand.runtimeEvent <$> match ← fields.text "kind" with
    | "DomainUnload" => do return .domainUnloaded (← fields.domain)
    | "ClrDisabled" => return .disabled
    | "MdaFired" => return .assistantFired
    | "StackOverflow" => return .stackOverflow
    | kind => unknownVerb kind

def readCollection (verb : String) (fields : Fields) : Reading Command :=
  Command.host <$> match verb with
    | "blocking" => return .blocking
    | "starting" => return .suspending
    | "ending" => do return .resumed (← fields.natural "generation")
    | "state" => return .collection
    | _ => unknownVerb verb

def readLevel (fields : Fields) : Reading Memory.CriticalLevel :=
  if (fields.get? "level").isNone then .ok .task
  else fields.oneOf "level" Memory.CriticalLevel.all Memory.CriticalLevel.label

def readHeap (verb : String) (fields : Fields) : Reading Command := do
  let name ← fields.text "name"
  Command.memory <$> match verb with
    | "create" => return .createHeap name (FlagSet.ofBits (← fields.natural "flags"))
    | "alloc" =>
        return .alloc (← fields.text "heap") name (← fields.natural "size") (← readLevel fields)
    | "free" => return .free name (← fields.text? "heap")
    | "write" => return .writeBlock name (← fields.natural "offset") (← fields.bytes "hex")
    | "release_charge" => return .releaseCharge name
    | "state" => return .heapState name
    | _ => unknownVerb verb

/-- Bytes to be written: a pattern, repeated so many times. -/
def readPattern (fields : Fields) : Reading (List UInt8) := do
  return (List.replicate ((← fields.natural? "repeat").getD 1) (← fields.bytes "hex")).flatten

def readFreeKind (fields : Fields) : Reading Memory.FreeKind := do
  match ← fields.text "kind" with
  | "decommit" => return .decommit
  | "release" => return .release
  | kind => unknownVerb kind

def readProtection (fields : Fields) : Reading Memory.Protection := do
  match ← fields.natural? "protection" with
  | some bits => return FlagSet.ofBits bits
  | none => return .readWrite

def readVirtual (verb : String) (fields : Fields) : Reading Command :=
  Command.memory <$> match verb with
    | "alloc" => do
        return .virtualAlloc (← fields.natural? "address") (← fields.natural "size")
          (FlagSet.ofBits (← fields.natural "kind")) (← readProtection fields) (← readLevel fields)
    | "free" => do
        return .virtualFree (← fields.natural "address") (← fields.natural "size")
          (← readFreeKind fields)
    | "query" => do return .query (← fields.natural "address")
    | "protect" => do
        return .protect (← fields.natural "address") (← fields.natural "size")
          (← readProtection fields)
    | "read" => do return .read (← fields.natural "address") (← fields.natural "size")
    | "write" => do return .write (← fields.natural "address") (← readPattern fields)
    | "totals" => return .totals
    | _ => unknownVerb verb

def readMemory (verb : String) (fields : Fields) : Reading Command :=
  Command.memory <$> match verb with
    | "acquired" => do return .mapped (← fields.natural "address") (← fields.natural "size")
    | "released" => do return .unmapped (← fields.natural "address")
    | "needs_address_space" => return .needsAddressSpace
    | "register_callback" => return .watch
    | "load" => return .load
    | _ => unknownVerb verb

def readLock (verb : String) (fields : Fields) : Reading Command := do
  Command.lock (← fields.text "name") <$> match verb with
    | "create" => return .create (← fields.natural "spin")
    | "enter" => return .enter
    | "try_enter" => return .tryEnter
    | "leave" => return .leave
    | "guard" => return .guard (← fields.flag "leave_inside")
    | "set_spin" => return .setSpins (← fields.natural "spin")
    | "state" => return .state
    | _ => unknownVerb verb

/-- The signal that the writers of a lock wait for is never set at first. -/
def readSignal (lasting : Bool) (verb : String) (fields : Fields) : Reading Command := do
  Command.signal lasting (← fields.text "name") <$> match verb with
    | "create" =>
        let ofWriters := !lasting && (fields.get? "rw_cookie").isSome
        return .create ((← fields.flag "initial") && !ofWriters)
    | "set" => return .set
    | "reset" => return .reset
    | "is_set" => return .isSet
    | "wait" => return .wait (← fields.timeout) (← fields.options)
    | _ => unknownVerb verb

def readSemaphore (verb : String) (fields : Fields) : Reading Command := do
  Command.semaphore (← fields.text "name") <$> match verb with
    | "create" => return .create (← fields.natural "initial") (← fields.natural "max")
    | "wait" => return .wait (← fields.timeout) (← fields.options)
    | "release" => return .release (← fields.natural "count")
    | "count" => return .count
    | _ => unknownVerb verb

def readMonitor (verb : String) (fields : Fields) : Reading Command := do
  Command.monitor (← fields.text "name") <$> match verb with
    | "create" => return .create (← fields.cookie)
    | "set" => return .set
    | "reset" => return .reset
    | "cookie" => return .cookie
    | "wait" => return .wait (← fields.timeout) (← fields.options)
    | _ => unknownVerb verb

def readAnswer : Value → Reading Deadlock.Prepared
  | .record fields => do
      let fields : Fields := fields
      let owner := (← fields.natural? "owner").map ThreadId.mk
      return ⟨(← fields.natural? "end_enter").map ThreadId.mk, ← fields.text? "set",
        if fields.isWritten "owner" then some owner else none⟩
  | _ => .error (.unreadable "answers")

def readOracle (verb : String) (fields : Fields) : Reading Command :=
  Command.deadlock <$> match verb with
    | "install" => return .install
    | "own" => do return .own (← fields.cookie) (← fields.thread "thread")
    | "release" => do return .disown (← fields.cookie)
    | "script" => do
        return .script (← fields.cookie) (← (← fields.list "answers").mapM readAnswer)
    | "asked" => return .asked
    | _ => unknownVerb verb

def readDetector (verb : String) (fields : Fields) : Reading Command :=
  Command.deadlock <$> match verb with
    | "try_enter" => do return .tryEnter (← fields.thread "thread") (← fields.cookie)
    | "detect" => do return .detect (← fields.thread "thread") (← fields.cookie)
    | "end_enter" => do return .endEnter (← fields.thread "thread")
    | "state" => return .state
    | _ => unknownVerb verb

def readEdge : Value → Reading Deadlock.Edge
  | .list [.number (.ofNat thread), .number (.ofNat cookie), .number (.ofNat owner)] =>
      .ok ⟨⟨thread⟩, ⟨cookie⟩, ⟨owner⟩⟩
  | _ => .error (.unreadable "cycle")

def readTrace (verb : String) (fields : Fields) : Reading Command :=
  Command.trace <$> match verb with
    | "acquired" => do return .acquired (← fields.thread "thread") (← fields.cookie)
    | "released" => do return .released (← fields.thread "thread") (← fields.cookie)
    | "deadlock" => do return .deadlock ⟨← (← fields.list "cycle").mapM readEdge⟩
    | "enable" => do return .enable (← fields.flag "enabled")
    | "held" => do return .held (← fields.thread "thread")
    | "order" => return .order
    | "state" => return .state
    | "flush" => return .flush
    | "take" => return .take
    | "read_file" => return .readFile
    | _ => unknownVerb verb

def readPacket (fields : Fields) : Reading Completion.Packet := do
  let conduct ← match ← fields.text? "mode" with
    | none | some "ok" => pure Completion.Conduct.returns
    | some "panic" => pure .panics
    | some "hold" => pure .holds
    | some mode => unknownVerb mode
  return ⟨← fields.natural "error", ← fields.natural "bytes", ← fields.natural "context",
    conduct⟩

def readCompletion (verb : String) (fields : Fields) : Reading Command :=
  Command.completion <$> match verb with
    | "set_callback" => return .setCallback
    | "create_port" => return .createChannel
    | "default_port" => return .defaultChannel
    | "close_port" => do return .close ⟨← fields.natural "port"⟩
    | "bind" => do
        return .bind (← fields.text "name") ((← fields.natural? "port").map ChannelId.mk)
          ⟨← fields.natural "resource"⟩
    | "post" => do return .post (← fields.text "name") (← readPacket fields)
    | "release" => do return .release (← fields.natural "context")
    | "seen" => return .seen
    | "set_min" => do return .setMin (← fields.natural "threads")
    | "set_max" => do return .setMax (← fields.natural "threads")
    | "workers" => do return .workers ⟨← fields.natural "port"⟩
    | "state" => return .state
    | _ => unknownVerb verb

def readPool (verb : String) (fields : Fields) : Reading Command :=
  Command.completion <$> match verb with
    | "queue" => do return .queueItems (← fields.natural "count") (← fields.flag "panic")
    | "set_max" => do return .setPoolMax (← fields.natural "threads")
    | "set_min" => do return .setPoolMin (← fields.natural "threads")
    | "min" => return .poolMin
    | "available" => return .poolAvailable
    | "state" => return .poolState
    | _ => unknownVerb verb

/-- A subject that needs no name. -/
def hostSubject? : String → Option Subject
  | "host" => some .host
  | "domains" => some .domains
  | "tasks" => some .tasks
  | "sync" => some .sync
  | "detector" => some .detector
  | "trace" => some .trace
  | "io" => some .channels
  | "pool" => some .pool
  | "gc" => some .collection
  | "thread" => some .runningThread
  | _ => none

def namedSubject? (name : String) : String → Option Subject
  | "crst" => some (.lock name)
  | "auto" => some (.autoSignal name)
  | "manual" => some (.manualSignal name)
  | "monitor" => some (.monitor name)
  | "semaphore" => some (.semaphore name)
  | "heap" => some (.heap name)
  | "sink" => some (.binding name)
  | "task" => some (.task name)
  | _ => none

def readSubject (fields : Fields) : Reading Command := do
  let subject ← fields.text "of"
  match hostSubject? subject with
  | some found => return .debug found
  | none => Command.debug <$> Fields.need "of" (namedSubject? (← fields.text "name") subject)

/-- Read a command whose verb has two parts: what it is about, and what to do. -/
def readCommand (topic verb : String) (fields : Fields) : Reading Command :=
  match topic with
  | "thread" => if verb = "spawn" then .spawn <$> fields.text "name" else unknownVerb verb
  | "task" => readTask verb fields
  | "tasks" => readTasks verb fields
  | "domain" => readDomain verb fields
  | "host" => readHost verb fields
  | "event" => readEvent verb fields
  | "policy" => do
      return .host (.escalated
        (← fields.oneOf "action" Policy.Action.all Policy.Action.label))
  | "runtime" => readRuntime fields
  | "gc" => readCollection verb fields
  | "heap" => readHeap verb fields
  | "virtual" => readVirtual verb fields
  | "memory" => readMemory verb fields
  | "crst" => readLock verb fields
  | "auto" => readSignal false verb fields
  | "manual" => readSignal true verb fields
  | "semaphore" => readSemaphore verb fields
  | "monitor" => readMonitor verb fields
  | "oracle" => readOracle verb fields
  | "detector" => readDetector verb fields
  | "trace" => readTrace verb fields
  | "io" => readCompletion verb fields
  | "pool" => readPool verb fields
  | "debug" => readSubject fields
  | _ => unknownVerb topic

/-- The parts of a verb before and behind its first point. -/
def splitVerb (verb : String) : String × String :=
  let letters := verb.toList
  (String.ofList (letters.takeWhile fun c => c ≠ '.'),
    String.ofList ((letters.dropWhile fun c => c ≠ '.').drop 1))

def readStep : Value → Reading Step
  | .record fields => do
      let fields : Fields := fields
      let verb ← fields.text "do"
      let thread := (← fields.text? "on").getD "main"
      if verb = "await" then return ⟨thread, .await⟩
      else if verb = "thread.end" ∨ verb = "task.panic" then return ⟨thread, .finish⟩
      else
        let (topic, rest) := splitVerb verb
        let command ← readCommand topic rest fields
        return ⟨thread, if ← fields.flag "async" then .launch command else .run command⟩
  | _ => .error (.unreadable "step")

end Steward.Session.Script
