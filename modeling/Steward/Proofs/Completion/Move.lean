import Steward.Completion.Crew
import Steward.Proofs.Total

/-! Runs of calls on the channels of a host and on the steps of their workers, in any order. What a
call can do is said once, as moves of the crew, and what holds in every state of a run is shown move
by move. -/

set_option autoImplicit false

namespace Steward.Completion.Channel

@[simp] theorem queue_bind (channel : Channel) (resource : ResourceId) :
    (channel.bind resource).queue = channel.queue := by
  unfold bind
  split <;> rfl

@[simp] theorem isClosed_bind (channel : Channel) (resource : ResourceId) :
    (channel.bind resource).isClosed = channel.isClosed := by
  unfold bind
  split <;> rfl

@[simp] theorem workers_bind (channel : Channel) (resource : ResourceId) :
    (channel.bind resource).workers = channel.workers := by
  unfold bind
  split <;> rfl

theorem isClosed_close (channel : Channel) : channel.close.isClosed = true := rfl

end Steward.Completion.Channel

namespace Steward.Completion.Crew

theorem channels_hire (crew : Crew) (id : ChannelId) :
    (crew.hire id).channels = crew.channels.modify id fun channel =>
      { channel with workers := channel.workers + 1 } := rfl

theorem channels_discharge (crew : Crew) (serial : Nat) (id : ChannelId) :
    (crew.discharge serial id).channels = crew.channels.modify id fun channel =>
      { channel with workers := channel.workers - 1 } := rfl

/-- What is asked of the crew, and the steps that its workers make. -/
inductive Call where
  | createChannel
  | defaultChannel
  | close (id : ChannelId)
  | bind (id : Option ChannelId) (resource : ResourceId)
  | post (id : ChannelId) (packet : Packet)
  | work (serial : Nat)
  | lapse (serial : Nat)
  /-- A callback that is held on a context returns. -/
  | letGo (context : Nat)
  | register (callback : CallbackId)
  | setMin (threads : Nat)
  | setMax (threads : Nat)
  | shutdown
  | takeSeen

/-- The outcome of a change, or the crew as it was when the change is refused. -/
def orElse (crew : Crew) (made : Except Error Crew) : Crew :=
  match made with
  | .ok changed => changed
  | .error _ => crew

def heed (crew : Crew) : Call → Crew
  | .createChannel => crew.orElse (crew.createChannel.map Prod.snd)
  | .defaultChannel => crew.orElse (crew.defaultChannel.map Prod.snd)
  | .close id => crew.orElse (crew.close id)
  | .bind id resource => crew.orElse ((crew.bind id resource).map Prod.snd)
  | .post id packet => crew.orElse (crew.post id packet)
  | .work serial => crew.work serial
  | .lapse serial => crew.lapse serial
  | .letGo context =>
      match crew.holder? context with
      | some serial => crew.finish serial
      | none => crew
  | .register callback => crew.register callback
  | .setMin threads => { crew with minThreads := threads }
  | .setMax threads => { crew with maxThreads := threads }
  | .shutdown => crew.shutdown.2
  | .takeSeen => crew.takeSeen.2

def heedAll (crew : Crew) (calls : List Call) : Crew := calls.foldl heed crew

/-- What calls came to. -/
inductive Deed where
  | posted (id : ChannelId) (packet : Packet)
  | registered (callback : CallbackId)
  /-- A worker took a completion off a channel, and handed it to the callback if there was one. -/
  | took (id : ChannelId) (packet : Packet) (callback : Option CallbackId)
  /-- A channel was closed with these completions in its queue; a second time it has none. -/
  | closed (id : ChannelId) (dropped : List Packet)
  | bound (id : ChannelId)
  /-- Somebody asked what callbacks were handed since the last time. -/
  | asked (handed : List (CallbackId × Packet))
  deriving DecidableEq

/-- What a worker takes in its next step. -/
def taken (crew : Crew) (serial : Nat) : List Deed :=
  match crew.workers.get? serial, (crew.work serial).workers.get? serial with
  | some ⟨id, .waiting⟩, some ⟨_, .handling packet _⟩ => [.took id packet crew.callback]
  | _, _ => []

def deeds (crew : Crew) : Call → List Deed
  | .close id =>
      match crew.open? id with
      | some channel => [.closed id channel.queue]
      | none => []
  | .bind id resource =>
      match crew.bind id resource with
      | .ok (binding, _) => [.bound binding.channel]
      | .error _ => []
  | .post id packet =>
      match crew.post id packet with
      | .ok _ => [.posted id packet]
      | .error _ => []
  | .work serial => crew.taken serial
  | .shutdown => crew.channels.entries.map fun entry => .closed entry.1 entry.2.queue
  | .register callback => [.registered callback]
  | .takeSeen => [.asked crew.takeSeen.1]
  | _ => []

def deedsIn (crew : Crew) : List Call → List Deed
  | [] => []
  | call :: rest => crew.deeds call ++ (crew.heed call).deedsIn rest

/-- What the crew can do at once. -/
inductive Move (crew : Crew) : List Deed → Crew → Prop where
  | set (minThreads maxThreads : Nat) (default : Option ChannelId) (tracked : List Nat) :
      Move crew [] { crew with minThreads, maxThreads, default, tracked }
  | registered (callback : CallbackId) : Move crew [.registered callback] (crew.register callback)
  | opened :
      Move crew [] { crew with
        channels := crew.channels.insert ⟨crew.opened + 1⟩ {}
        opened := crew.opened + 1 }
  | closed {id : ChannelId} {channel : Channel} (found : crew.channels.get? id = some channel) :
      Move crew [.closed id channel.queue]
        { crew with channels := crew.channels.insert id channel.close }
  | closedAll :
      Move crew (crew.channels.entries.map fun entry => .closed entry.1 entry.2.queue)
        { crew with channels := crew.channels.mapValues fun _ channel => channel.close }
  | hired {id : ChannelId} {channel : Channel} (found : crew.channels.get? id = some channel) :
      Move crew [] (crew.hire id)
  | bound {id : ChannelId} {channel : Channel} (found : crew.channels.get? id = some channel)
      (served : 1 ≤ channel.workers) (resource : ResourceId) :
      Move crew [.bound id]
        { crew with channels := crew.channels.modify id fun channel => channel.bind resource }
  | posted {id : ChannelId} {channel : Channel} (found : crew.channels.get? id = some channel)
      (opens : channel.isClosed = false) (packet : Packet) :
      Move crew [.posted id packet] { crew with
        channels := crew.channels.insert id { channel with queue := channel.queue ++ [packet] } }
  | settled {serial : Nat} {id : ChannelId}
      (found : crew.workers.get? serial = some ⟨id, .starting⟩) :
      Move crew [] { crew with
        workers := crew.workers.insert serial ⟨id, .waiting⟩
        busy := crew.busy - 1 }
  | took {serial : Nat} {id : ChannelId} {channel : Channel} {packet : Packet} {rest : List Packet}
      (found : crew.workers.get? serial = some ⟨id, .waiting⟩)
      (there : crew.channels.get? id = some channel) (next : channel.queue = packet :: rest)
      (held : Bool) :
      Move crew [.took id packet crew.callback] { crew with
        channels := crew.channels.insert id { channel with queue := rest }
        workers := crew.workers.insert serial ⟨id, .handling packet held⟩
        busy := crew.busy + 1
        seen := crew.seen ++ crew.handed packet }
  | freed {serial : Nat} {id : ChannelId} {packet : Packet} {held : Bool}
      (found : crew.workers.get? serial = some ⟨id, .handling packet held⟩) :
      Move crew [] { crew with
        workers := crew.workers.insert serial ⟨id, .waiting⟩
        busy := crew.busy - 1 }
  /-- A waiting worker goes: its channel is closed, or it is spare. -/
  | gone {serial : Nat} {id : ChannelId} {channel : Channel}
      (found : crew.workers.get? serial = some ⟨id, .waiting⟩)
      (there : crew.channels.get? id = some channel)
      (may : channel.isClosed = true ∨ crew.isSpare channel = true) :
      Move crew [] (crew.discharge serial id)
  | asked : Move crew [.asked crew.seen] { crew with seen := [] }

/-- Moves one after the other. -/
inductive Moves : Crew → List Deed → Crew → Prop where
  | none (crew : Crew) : Moves crew [] crew
  | more {crew middle after : Crew} {deeds later : List Deed} (before : Moves crew deeds middle)
      (move : Move middle later after) : Moves crew (deeds ++ later) after

namespace Moves

variable {crew middle after : Crew}

theorem one {deeds : List Deed} (move : Move crew deeds after) : Moves crew deeds after :=
  .more (.none crew) move

theorem trans {deeds later : List Deed} (first : Moves crew deeds middle)
    (second : Moves middle later after) : Moves crew (deeds ++ later) after := by
  induction second with
  | none => simpa using first
  | more _ last ih =>
    rw [← List.append_assoc]
    exact .more ih last

theorem quietly {deeds : List Deed} (moves : Moves crew deeds middle)
    (move : Move middle [] after) : Moves crew deeds after := by
  simpa using Moves.more moves move

/-- What is kept by every move is kept by moves. -/
theorem induction {holds : List Deed → Crew → Prop}
    (keeps : ∀ before crew deeds after, Move crew deeds after → holds before crew →
      holds (before ++ deeds) after)
    {before deeds : List Deed} (moves : Moves crew deeds after) (initial : holds before crew) :
    holds (before ++ deeds) after := by
  induction moves with
  | none => simpa using initial
  | more _ move ih =>
    rw [← List.append_assoc]
    exact keeps _ _ _ _ move ih

end Moves

/-! ### The steps of workers -/

/-- A worker that can make no step. -/
def Stuck (crew : Crew) (worker : Worker) : Prop :=
  match worker.duty with
  | .starting => False
  | .handling _ held => held = true ∨ crew.channels.get? worker.channel = none
  | .waiting => ∀ channel, crew.channels.get? worker.channel = some channel →
      channel.isClosed = false ∧ channel.queue = []

/-- What a worker can do when its turn comes. -/
inductive Step (crew : Crew) (serial : Nat) : List Deed → Crew → Prop where
  | stays (stuck : ∀ worker, crew.workers.get? serial = some worker → crew.Stuck worker) :
      Step crew serial [] crew
  | settled {id : ChannelId} (found : crew.workers.get? serial = some ⟨id, .starting⟩) :
      Step crew serial [] { crew with
        workers := crew.workers.insert serial ⟨id, .waiting⟩
        busy := crew.busy - 1 }
  | freed {id : ChannelId} {packet : Packet}
      (found : crew.workers.get? serial = some ⟨id, .handling packet false⟩) :
      Step crew serial [] { crew with
        workers := crew.workers.insert serial ⟨id, .waiting⟩
        busy := crew.busy - 1 }
  | retired {id : ChannelId} {packet : Packet} {channel : Channel}
      (found : crew.workers.get? serial = some ⟨id, .handling packet false⟩)
      (there : crew.channels.get? id = some channel) (spare : crew.isSpare channel = true) :
      Step crew serial [] ({ crew with busy := crew.busy - 1 }.discharge serial id)
  | left {id : ChannelId} {channel : Channel}
      (found : crew.workers.get? serial = some ⟨id, .waiting⟩)
      (there : crew.channels.get? id = some channel) (closed : channel.isClosed = true) :
      Step crew serial [] (crew.discharge serial id)
  | took {id : ChannelId} {channel : Channel} {packet : Packet} {rest : List Packet}
      (found : crew.workers.get? serial = some ⟨id, .waiting⟩)
      (there : crew.channels.get? id = some channel) (opens : channel.isClosed = false)
      (next : channel.queue = packet :: rest) (held : Bool) :
      Step crew serial [.took id packet crew.callback] { crew with
        channels := crew.channels.insert id { channel with queue := rest }
        workers := crew.workers.insert serial ⟨id, .handling packet held⟩
        busy := crew.busy + 1
        seen := crew.seen ++ crew.handed packet }

/-- A worker that retires waits for a moment before it goes. -/
theorem moves_retired {crew : Crew} {serial : Nat} {id : ChannelId} {packet : Packet} {held : Bool}
    {channel : Channel} (found : crew.workers.get? serial = some ⟨id, .handling packet held⟩)
    (there : crew.channels.get? id = some channel) (spare : crew.isSpare channel = true) :
    Moves crew [] ({ crew with busy := crew.busy - 1 }.discharge serial id) := by
  let freed := { crew with
    workers := crew.workers.insert serial ⟨id, .waiting⟩
    busy := crew.busy - 1 }
  have gone : Move freed [] (freed.discharge serial id) :=
    .gone (Assoc.get?_insert_self _ _ _) there (.inr spare)
  have same : { crew with busy := crew.busy - 1 }.discharge serial id =
      freed.discharge serial id := by
    simp only [discharge, freed, Assoc.erase_insert]
  rw [same]
  exact (Moves.one (.freed found)).quietly gone

theorem moves_step {crew after : Crew} {serial : Nat} {deeds : List Deed}
    (step : Step crew serial deeds after) : Moves crew deeds after := by
  cases step with
  | stays _ => exact .none crew
  | settled found => exact .one (.settled found)
  | freed found => exact .one (.freed found)
  | retired found there spare => exact moves_retired found there spare
  | left found there closed => exact .one (.gone found there (.inl closed))
  | took found there _ next held => exact .one (.took found there next held)

theorem moves_finish (crew : Crew) (serial : Nat) : Moves crew [] (crew.finish serial) := by
  unfold finish
  split
  · next id packet held found =>
    simp only
    split
    · next channel there =>
      split
      · next spare => exact moves_retired found there spare
      · exact .one (.freed found)
    · exact .none crew
  · exact .none crew

theorem moves_lapse (crew : Crew) (serial : Nat) : Moves crew [] (crew.lapse serial) := by
  unfold lapse
  split
  · next id found =>
    split
    · next channel there =>
      split
      · next spare => exact .one (.gone found there (.inr spare))
      · exact .none crew
    · exact .none crew
  · exact .none crew

/-- A worker that is gone takes nothing. -/
theorem take_discharge (crew : Crew) (serial : Nat) (id : ChannelId) :
    (crew.discharge serial id).take serial = crew.discharge serial id := by
  have absent : (crew.discharge serial id).workers.get? serial = none :=
    Assoc.get?_erase_self _ _
  unfold take
  rw [absent]

theorem work_of_closed {crew : Crew} {serial : Nat} {id : ChannelId} {channel : Channel}
    (found : crew.workers.get? serial = some ⟨id, .waiting⟩)
    (there : crew.channels.get? id = some channel) (closed : channel.isClosed = true) :
    crew.work serial = crew.discharge serial id := by
  have left : crew.leave serial = crew.discharge serial id := by
    simp [leave, found, there, closed]
  simp only [work, found, left, take_discharge]

theorem work_of_open {crew : Crew} {serial : Nat} {id : ChannelId} {channel : Channel}
    (found : crew.workers.get? serial = some ⟨id, .waiting⟩)
    (there : crew.channels.get? id = some channel) (opens : channel.isClosed = false) :
    crew.work serial = crew.take serial := by
  have stays : crew.leave serial = crew := by simp [leave, found, there, opens]
  simp only [work, found, stays]

theorem work_of_absent {crew : Crew} {serial : Nat} {id : ChannelId}
    (found : crew.workers.get? serial = some ⟨id, .waiting⟩)
    (absent : crew.channels.get? id = none) : crew.work serial = crew := by
  have stays : crew.leave serial = crew := by simp [leave, found, absent]
  simp only [work, found, stays]
  simp only [take, found, absent]

theorem step_finish {crew : Crew} {serial : Nat} {id : ChannelId} {packet : Packet}
    (found : crew.workers.get? serial = some ⟨id, .handling packet false⟩) :
    Step crew serial [] (crew.finish serial) := by
  simp only [finish, found]
  split
  · next channel there =>
    split
    · next spare => exact .retired found there spare
    · exact .freed found
  · next absent =>
    refine .stays fun worker same => ?_
    rw [found] at same
    cases same
    exact .inr absent

theorem step_work (crew : Crew) (serial : Nat) :
    Step crew serial (crew.taken serial) (crew.work serial) := by
  rcases found : crew.workers.get? serial with _ | ⟨id, duty⟩
  · have stays : Step crew serial [] crew := .stays (by simp [found])
    simpa [taken, work, found] using stays
  · cases duty with
    | starting => simpa [taken, work, settleIn, found] using Step.settled found
    | handling packet held =>
      cases held with
      | true =>
        have stays : Step crew serial [] crew := .stays (by simp [found, Stuck])
        simpa [taken, work, found] using stays
      | false => simpa [taken, work, found] using step_finish found
    | waiting =>
      cases there : crew.channels.get? id with
      | none =>
        have stays : Step crew serial [] crew := .stays (by simp [found, Stuck, there])
        simpa [taken, work_of_absent found there, found] using stays
      | some channel =>
        cases closed : channel.isClosed with
        | true =>
          have left : taken crew serial = [] := by
            simp [taken, work_of_closed found there closed, found, discharge]
          rw [left, work_of_closed found there closed]
          exact .left found there closed
        | false =>
          have step := work_of_open found there closed
          cases next : channel.queue with
          | nil =>
            have stays : Step crew serial [] crew :=
              .stays (by simp [found, Stuck, there, closed, next])
            have same : crew.work serial = crew := by simp [step, take, found, there, next]
            simpa [taken, same, found] using stays
          | cons packet rest =>
            simpa [taken, step, take, found, there, next] using
              Step.took found there closed next _

theorem moves_work (crew : Crew) (serial : Nat) :
    Moves crew (crew.taken serial) (crew.work serial) := moves_step (crew.step_work serial)

/-! ### What a call can do -/

theorem moves_createChannel {crew after : Crew} {id : ChannelId}
    (made : crew.createChannel = .ok (id, after)) : Moves crew [] after := by
  unfold createChannel at made
  split at made
  · cases made
  · cases made
    exact .one .opened

theorem moves_defaultChannel {crew after : Crew} {id : ChannelId}
    (made : crew.defaultChannel = .ok (id, after)) : Moves crew [] after := by
  unfold defaultChannel at made
  split at made
  · cases made
    exact .none crew
  · split at made
    · cases made
    · next opened _ created =>
      cases made
      exact (moves_createChannel created).quietly (.set _ _ (some id) _)

theorem open?_eq_some_iff {crew : Crew} {id : ChannelId} {channel : Channel} :
    crew.open? id = some channel ↔
      crew.channels.get? id = some channel ∧ channel.isClosed = false := by
  simp [open?, Option.filter_eq_some_iff]

theorem moves_close {crew after : Crew} {id : ChannelId} (made : crew.close id = .ok after) :
    ∃ channel, crew.open? id = some channel ∧ Moves crew [.closed id channel.queue] after := by
  unfold close at made
  split at made
  · cases made
  · next channel opens =>
    cases made
    have found := (open?_eq_some_iff.1 opens).1
    exact ⟨channel, opens, (Moves.one (.closed found)).quietly (.set _ _ _ _)⟩

/-- A channel that is staffed has a worker. -/
theorem moves_staff {crew : Crew} {id : ChannelId} {channel : Channel}
    (there : crew.channels.get? id = some channel) :
    Moves crew [] (crew.staff id channel) ∧
      ∃ served, (crew.staff id channel).channels.get? id = some served ∧ 1 ≤ served.workers := by
  have hired : (crew.hire id).channels.get? id =
      some { channel with workers := channel.workers + 1 } := by
    simp [channels_hire, there]
  unfold staff
  split
  · exact ⟨.one (.hired there), _, hired, Nat.le_add_left 1 _⟩
  · next some_ =>
    split
    · exact ⟨.one (.hired there), _, hired, Nat.le_add_left 1 _⟩
    · exact ⟨.none crew, channel, there, Nat.one_le_iff_ne_zero.2 some_⟩

theorem moves_bindTo {crew after : Crew} {id : ChannelId} {resource : ResourceId}
    {binding : Binding} (made : crew.bindTo id resource = .ok (binding, after)) :
    Moves crew [.bound binding.channel] after := by
  unfold bindTo at made
  split at made
  · cases made
  · next channel opens =>
    cases made
    obtain ⟨staffed, served, there, some_⟩ := moves_staff (open?_eq_some_iff.1 opens).1
    exact .more staffed (.bound there some_ resource)

theorem moves_bind {crew after : Crew} {id : Option ChannelId} {resource : ResourceId}
    {binding : Binding} (made : crew.bind id resource = .ok (binding, after)) :
    Moves crew [.bound binding.channel] after := by
  unfold bind at made
  split at made
  · exact moves_bindTo made
  · split at made
    · cases made
    · next opened found => exact (moves_defaultChannel found).trans (moves_bindTo made)

theorem moves_post {crew after : Crew} {id : ChannelId} {packet : Packet}
    (made : crew.post id packet = .ok after) : Moves crew [.posted id packet] after := by
  unfold post Channel.post Assoc.getD at made
  cases there : crew.channels.get? id with
  | none => simp [there] at made
  | some channel =>
    simp only [there, Option.getD_some] at made
    by_cases closed : channel.isClosed = true
    · simp only [closed, if_true] at made
      cases made
    · rw [if_neg closed] at made
      cases made
      exact .one (.posted there (by simpa using closed) packet)

/-- A change that may be refused, when it makes something besides. -/
theorem moves_made {α : Type} {crew : Crew} {made : Except Error (α × Crew)}
    (moves : ∀ result after, made = .ok (result, after) → Moves crew [] after) :
    Moves crew [] (crew.orElse (made.map Prod.snd)) := by
  cases made with
  | error error => exact .none crew
  | ok pair => exact moves pair.1 pair.2 rfl

theorem moves_heed (crew : Crew) (call : Call) :
    Moves crew (crew.deeds call) (crew.heed call) := by
  cases call with
  | createChannel => exact moves_made fun _ _ made => moves_createChannel made
  | defaultChannel => exact moves_made fun _ _ made => moves_defaultChannel made
  | close id =>
    simp only [heed, deeds]
    cases made : crew.close id with
    | ok after =>
      obtain ⟨channel, opens, moves⟩ := moves_close made
      rw [opens]
      exact moves
    | error error =>
      have absent : crew.open? id = none := by
        unfold close at made
        split at made
        · next absent => exact absent
        · cases made
      rw [absent]
      exact .none crew
  | bind id resource =>
    simp only [heed, deeds]
    cases made : crew.bind id resource with
    | ok pair => exact moves_bind made
    | error error => exact .none crew
  | post id packet =>
    simp only [heed, deeds]
    cases made : crew.post id packet with
    | ok after => exact moves_post made
    | error error => exact .none crew
  | work serial => exact crew.moves_work serial
  | lapse serial => exact crew.moves_lapse serial
  | letGo context =>
    simp only [heed, deeds]
    split
    · exact crew.moves_finish _
    · exact .none crew
  | register callback => exact .one (.registered callback)
  | setMin threads => exact .one (.set threads _ _ _)
  | setMax threads => exact .one (.set _ threads _ _)
  | shutdown => exact (Moves.one (@Move.closedAll crew)).quietly (.set _ _ none [])
  | takeSeen => exact .one .asked

theorem moves_heedAll (crew : Crew) (calls : List Call) :
    Moves crew (crew.deedsIn calls) (crew.heedAll calls) := by
  induction calls generalizing crew with
  | nil => exact .none crew
  | cons call rest ih => exact (crew.moves_heed call).trans (ih (crew.heed call))

/-! ### Channels and workers -/

def queueAt (crew : Crew) (id : ChannelId) : List Packet :=
  (crew.channels.get? id).elim [] Channel.queue

/-- A channel that was opened and closed again. -/
def shutAt (crew : Crew) (id : ChannelId) : Bool :=
  (crew.channels.get? id).elim false Channel.isClosed

/-- A change at a channel that leaves alone what is read off it. -/
theorem elim_modify {α : Type} (channels : Assoc ChannelId Channel) (id other : ChannelId)
    {change : Channel → Channel} (default : α) (read : Channel → α)
    (same : ∀ channel, read (change channel) = read channel) :
    ((channels.modify id change).get? other).elim default read =
      (channels.get? other).elim default read := by
  rw [Assoc.get?_modify]
  cases channels.get? other with
  | none => rfl
  | some channel =>
    by_cases here : other = id
    · simp [here, same]
    · simp [here]

theorem elim_insert {α : Type} (channels : Assoc ChannelId Channel) (id other : ChannelId)
    (channel : Channel) (default : α) (read : Channel → α) :
    ((channels.insert id channel).get? other).elim default read =
      if other = id then read channel else (channels.get? other).elim default read := by
  rw [Assoc.get?_insert]
  split <;> rfl

/-- Channels are there for good, and a closed one stays closed. -/
def Lasts (crew after : Crew) : Prop :=
  ∀ id channel, crew.channels.get? id = some channel →
    ∃ later, after.channels.get? id = some later ∧
      (channel.isClosed = true → later.isClosed = true)

/-- The numbers of channels are given out in order, and a worker is on a channel that exists. -/
structure Sound (crew : Crew) : Prop where
  fresh : ∀ id : ChannelId, crew.opened < id.value → crew.channels.get? id = none
  housed : ∀ serial worker, crew.workers.get? serial = some worker →
    ∃ channel, crew.channels.get? worker.channel = some channel

section Channels

variable {crew after : Crew}

theorem lasts_same (channels : after.channels = crew.channels) : Lasts crew after :=
  fun _ channel found => ⟨channel, channels ▸ found, id⟩

theorem lasts_insert {id : ChannelId} {old channel : Channel}
    (found : crew.channels.get? id = some old)
    (channels : after.channels = crew.channels.insert id channel)
    (closed : old.isClosed = true → channel.isClosed = true) : Lasts crew after := by
  intro other before there
  rw [channels, Assoc.get?_insert]
  split
  · next here =>
    subst here
    rw [found] at there
    cases there
    exact ⟨channel, rfl, closed⟩
  · exact ⟨before, there, fun shut => shut⟩

theorem lasts_mapValues (change : ChannelId → Channel → Channel)
    (channels : after.channels = crew.channels.mapValues change)
    (closed : ∀ id channel, channel.isClosed = true → (change id channel).isClosed = true) :
    Lasts crew after := by
  intro id channel there
  rw [channels, Assoc.get?_mapValues, there]
  exact ⟨_, rfl, closed id channel⟩

theorem lasts_modify {id : ChannelId} {change : Channel → Channel}
    (channels : after.channels = crew.channels.modify id change)
    (closed : ∀ channel, (change channel).isClosed = channel.isClosed) : Lasts crew after := by
  refine lasts_mapValues _ channels fun other channel shut => ?_
  split
  · rw [closed, shut]
  · exact shut

theorem none_insert {channels : Assoc ChannelId Channel} {id other : ChannelId}
    {old channel : Channel} (found : channels.get? id = some old)
    (absent : channels.get? other = none) : (channels.insert id channel).get? other = none := by
  have apart : other ≠ id := by
    rintro rfl
    exact Option.some_ne_none old (found.symm.trans absent)
  rw [Assoc.get?_insert_of_ne _ apart, absent]

/-- The number of the next channel is free. -/
theorem Sound.unopened (sound : Sound crew) : crew.channels.get? ⟨crew.opened + 1⟩ = none :=
  sound.fresh _ (Nat.lt_succ_self _)

/-- A channel that is new reads like one that is not there. -/
theorem Sound.elim_opened {α : Type} (sound : Sound crew) {default : α} {read : Channel → α}
    (blank : read {} = default) (id : ChannelId) :
    ((crew.channels.insert ⟨crew.opened + 1⟩ {}).get? id).elim default read =
      (crew.channels.get? id).elim default read := by
  rw [elim_insert]
  split
  · next here => rw [here, sound.unopened, Option.elim_none, blank]
  · rfl

theorem lasts_move {deeds : List Deed} (move : Move crew deeds after) (sound : Sound crew) :
    Lasts crew after := by
  cases move with
  | set | registered _ | settled _ | freed _ | asked => exact lasts_same rfl
  | opened =>
    intro id channel found
    have apart : id ≠ ⟨crew.opened + 1⟩ := by
      rintro rfl
      exact Option.some_ne_none channel (found.symm.trans sound.unopened)
    exact ⟨channel, (Assoc.get?_insert_of_ne _ apart _).trans found, fun shut => shut⟩
  | closed found => exact lasts_insert found rfl fun _ => rfl
  | closedAll =>
    exact lasts_mapValues (fun _ channel => channel.close) rfl fun _ channel _ =>
      channel.isClosed_close
  | hired _ => exact lasts_modify (channels_hire _ _) fun _ => rfl
  | bound _ _ resource => exact lasts_modify rfl fun _ => Channel.isClosed_bind _ _
  | posted found opens _ => exact lasts_insert found rfl fun shut => shut
  | took _ there _ _ => exact lasts_insert there rfl fun shut => shut
  | gone _ _ _ => exact lasts_modify (channels_discharge _ _ _) fun _ => rfl

theorem shutAt_of_lasts (lasts : Lasts crew after) {id : ChannelId} (shut : crew.shutAt id = true) :
    after.shutAt id = true := by
  cases there : crew.channels.get? id with
  | none => simp [shutAt, there] at shut
  | some channel =>
    obtain ⟨later, still, closed⟩ := lasts id channel there
    rw [shutAt, there, Option.elim_some] at shut
    rw [shutAt, still, Option.elim_some, closed shut]

end Channels

namespace Sound

variable {crew after : Crew}

theorem start (maxChannels minThreads maxThreads : Nat) :
    Sound { maxChannels, minThreads, maxThreads } := ⟨fun _ _ => rfl, nofun⟩

/-- The channels are the same, apart from what is in them, and every worker is on one of them. -/
theorem keep (sound : Sound crew) (opened : after.opened = crew.opened)
    (none : ∀ id, crew.channels.get? id = none → after.channels.get? id = none)
    (lasts : Lasts crew after)
    (workers : ∀ serial worker, after.workers.get? serial = some worker →
      ∃ channel, crew.channels.get? worker.channel = some channel) : Sound after := by
  refine ⟨fun id high => none id (sound.fresh id (opened ▸ high)), fun serial worker found => ?_⟩
  obtain ⟨channel, there⟩ := workers serial worker found
  obtain ⟨later, still, -⟩ := lasts _ _ there
  exact ⟨later, still⟩

/-- Whoever is on a channel after a worker's duty changed was on it before. -/
theorem insert (sound : Sound crew) {serial : Nat} {id : ChannelId} {old duty : Duty}
    (found : crew.workers.get? serial = some ⟨id, old⟩) (other : Nat) (worker : Worker)
    (inside : (crew.workers.insert serial ⟨id, duty⟩).get? other = some worker) :
    ∃ channel, crew.channels.get? worker.channel = some channel := by
  rw [Assoc.get?_insert] at inside
  split at inside
  · cases inside
    obtain ⟨channel, there⟩ := sound.housed serial _ found
    exact ⟨channel, there⟩
  · exact sound.housed other worker inside

theorem move {deeds : List Deed} (sound : Sound crew) (move : Move crew deeds after) :
    Sound after := by
  have lasts := lasts_move move sound
  cases move with
  | set | registered _ | asked => exact sound.keep rfl (fun _ absent => absent) lasts sound.housed
  | settled found | freed found =>
    exact sound.keep rfl (fun _ absent => absent) lasts (sound.insert found)
  | opened =>
    refine ⟨fun id high => ?_, fun serial worker found => ?_⟩
    · have apart : id ≠ ⟨crew.opened + 1⟩ := by
        rintro rfl
        exact absurd high (Nat.lt_irrefl _)
      exact (Assoc.get?_insert_of_ne _ apart _).trans (sound.fresh id (Nat.lt_of_succ_lt high))
    · obtain ⟨channel, there⟩ := sound.housed serial worker found
      obtain ⟨later, still, -⟩ := lasts _ _ there
      exact ⟨later, still⟩
  | closed found | posted found _ _ =>
    exact sound.keep rfl (fun _ => none_insert found) lasts sound.housed
  | closedAll => exact sound.keep rfl (by simp [Assoc.get?_mapValues]) lasts sound.housed
  | hired there =>
    refine sound.keep rfl (by simp [hire, Assoc.get?_modify]) lasts fun serial worker found => ?_
    rw [hire, Assoc.get?_insert] at found
    split at found
    · cases found
      exact ⟨_, there⟩
    · exact sound.housed serial worker found
  | bound _ _ resource => exact sound.keep rfl (by simp [Assoc.get?_modify]) lasts sound.housed
  | took found there _ held =>
    exact sound.keep rfl (fun _ => none_insert there) lasts (sound.insert found)
  | gone found _ _ =>
    refine sound.keep rfl (by simp [discharge, Assoc.get?_modify]) lasts fun serial worker inside =>
      ?_
    rw [discharge, Assoc.get?_erase] at inside
    split at inside
    · cases inside
    · exact sound.housed serial worker inside

theorem moves {deeds : List Deed} (moves : Moves crew deeds after) (sound : Sound crew) :
    Sound after := by
  induction moves with
  | none => exact sound
  | more _ last ih => exact Sound.move ih last

end Sound

theorem lasts_moves {crew after : Crew} {deeds : List Deed} (moves : Moves crew deeds after)
    (sound : Sound crew) : Lasts crew after := by
  induction moves with
  | none => exact lasts_same rfl
  | more earlier last ih =>
    intro id channel found
    obtain ⟨middle, there, closed⟩ := ih id channel found
    obtain ⟨later, still, shut⟩ := lasts_move last (sound.moves earlier) id middle there
    exact ⟨later, still, fun before => shut (closed before)⟩

end Steward.Completion.Crew
