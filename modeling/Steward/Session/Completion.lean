import Steward.Session.State

/-! The commands on completion channels and on the pool of work items. -/

set_option autoImplicit false

namespace Steward.Session

open Completion

def withCrew (session : Session) (crew : Crew) : Session :=
  { session with host := { session.host with crew } }

def withItems (session : Session) (workItems : WorkItems) : Session :=
  { session with host := { session.host with workItems } }

/-- Tell a channel that was opened. -/
def opened (session : Session) (made : Except Error (ChannelId × Crew)) : Progress × Session :=
  match made with
  | .error error => session.refuse error
  | .ok (id, crew) => (session.withCrew crew).answer (.text id.text)

/-- Put a changed crew in place, if the change succeeded. -/
def crewChanged (session : Session) (changed : Except Error Crew) : Progress × Session :=
  match changed with
  | .error error => session.refuse error
  | .ok crew => (session.withCrew crew).answer .nothing

/-- Bind a resource, and name the binding. -/
def bindResource (session : Session) (name : String) (channel : Option ChannelId)
    (resource : ResourceId) : Progress × Session :=
  match session.host.crew.bind channel resource with
  | .error error => session.refuse error
  | .ok (binding, crew) =>
      let bound := session.withCrew crew
      { bound with bindings := bound.bindings.insert name binding }.answer
        (.list [.text binding.channel.text, .natural binding.resource.value])

def crewState (crew : Crew) : Value :=
  .record [("ports", .natural crew.openCount), ("threads", .natural crew.threads),
    ("busy", .natural crew.busy), ("available", .natural crew.available),
    ("min", .natural crew.minThreads), ("max", .natural crew.maxThreads),
    ("overlapped", .natural 0)]

def packet (packet : Packet) : Value :=
  .list [.natural packet.error, .natural packet.bytes, .natural packet.context]

def performItems (session : Session) (items : WorkItems) : CompletionCommand → Progress × Session
  | .queueItems count panics =>
      let queued := items.queue count panics
      let entered := session.itemsEntered + count
      { session.withItems queued with itemsEntered := entered }.answer
        (.list [.natural queued.queued, .natural queued.completed, .natural entered])
  | .setPoolMax threads =>
      match items.setMaxThreads threads with
      | .error error => session.refuse error
      | .ok items => (session.withItems items).answer (.natural items.maxThreads)
  | .setPoolMin threads =>
      match items.setMinThreads threads with
      | .error error => session.refuse error
      | .ok items => (session.withItems items).answer .nothing
  | .poolMin => session.told items.minThreads .natural
  | .poolAvailable => session.told items.available .natural
  | _ =>
      session.answer (.list [.natural items.queued, .natural items.completed,
        .natural items.maxThreads])

/-- The one callback of a session, which records what it is handed. -/
def recorder : CallbackId := ⟨0⟩

def performCompletion (session : Session) (command : CompletionCommand) : Progress × Session :=
  let crew := session.host.crew
  match command with
  | .setCallback => session.crewChanged (.ok (crew.register recorder))
  | .createChannel => session.opened crew.createChannel
  | .defaultChannel => session.opened crew.defaultChannel
  | .close channel => session.crewChanged (crew.close channel)
  | .bind name channel resource => session.bindResource name channel resource
  | .post name packet =>
      session.withNamed session.bindings name fun binding =>
        session.crewChanged (crew.post binding.channel packet)
  | .release context =>
      match crew.holder? context with
      | none => session.complain .notHeld
      | some serial => session.crewChanged (.ok (crew.finish serial))
  | .seen =>
      let (seen, crew) := crew.takeSeen
      (session.withCrew crew).answer (.items (fun entry => packet entry.2) seen)
  | .setMin threads =>
      (session.withCrew { crew with minThreads := threads }).answer (.natural threads)
  | .setMax threads =>
      (session.withCrew { crew with maxThreads := threads }).answer (.natural threads)
  | .workers channel => session.answer (.optional .natural (crew.workersOf channel))
  | .state => session.answer (crewState crew)
  | command => session.performItems session.host.workItems command

end Steward.Session
