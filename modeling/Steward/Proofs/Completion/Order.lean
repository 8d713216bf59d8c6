import Steward.Proofs.Completion.Rest

/-! What becomes of the completions of a channel. They are taken in the order in which they were
accepted, each at most once; those that are left when the channel closes are dropped, and none is
accepted after that. -/

set_option autoImplicit false

namespace Steward.Completion.Crew

/-- The completions that a deed adds to the queue of a channel. -/
def Deed.posts (id : ChannelId) : Deed → List Packet
  | posted other packet => if other = id then [packet] else []
  | _ => []

/-- The completions that a deed takes off a channel. -/
def Deed.takes (id : ChannelId) : Deed → List Packet
  | took other packet _ => if other = id then [packet] else []
  | _ => []

/-- The completions that a deed drops with their channel. -/
def Deed.drops (id : ChannelId) : Deed → List Packet
  | closed other dropped => if other = id then dropped else []
  | _ => []

/-- The channel whose queue a deed changes. -/
def Deed.place : Deed → Option ChannelId
  | posted id _ | took id _ _ | closed id _ => some id
  | bound _ | registered _ | asked _ => none

theorem Deed.nothing_at {deed : Deed} {id : ChannelId} (apart : deed.place ≠ some id) :
    deed.posts id = [] ∧ deed.takes id = [] ∧ deed.drops id = [] := by
  cases deed <;> simp_all [Deed.place, Deed.posts, Deed.takes, Deed.drops]

/-- Of the closing of every channel, only what is dropped tells. -/
theorem flatMap_closings (crew : Crew) {read : Deed → List Packet}
    (silent : ∀ id packets, read (.closed id packets) = []) :
    (crew.channels.entries.map fun entry =>
      Deed.closed entry.1 entry.2.queue).flatMap read = [] := by
  rw [List.flatMap_map, List.flatMap_eq_nil_iff]
  exact fun entry _ => silent _ _

/-- What went through one channel, whose queue is as given. -/
structure Flow (id : ChannelId) (deeds : List Deed) (queue : List Packet) (shut : Bool) : Prop where
  order : deeds.flatMap (Deed.posts id) =
    deeds.flatMap (Deed.takes id) ++ deeds.flatMap (Deed.drops id) ++ queue
  kept : shut = false → deeds.flatMap (Deed.drops id) = []
  emptied : shut = true → queue = []
  closed : ∀ dropped, .closed id dropped ∈ deeds → shut = true

namespace Flow

variable {id : ChannelId} {deeds : List Deed} {queue : List Packet} {shut : Bool}

theorem start (id : ChannelId) : Flow id [] [] false :=
  ⟨rfl, fun _ => rfl, fun _ => rfl, nofun⟩

/-- A deed that leaves the queue of the channel alone. -/
theorem beside (flow : Flow id deeds queue shut) {deed : Deed} (apart : deed.place ≠ some id) :
    Flow id (deeds ++ [deed]) queue shut := by
  obtain ⟨posts, takes, drops⟩ := Deed.nothing_at apart
  refine ⟨?_, fun opens => ?_, flow.emptied, fun dropped inside => ?_⟩
  · simpa [posts, takes, drops] using flow.order
  · simpa [drops] using flow.kept opens
  · rcases List.mem_append.1 inside with before | last
    · exact flow.closed dropped before
    · exact absurd (congrArg Deed.place (List.mem_singleton.1 last).symm) apart

theorem post (flow : Flow id deeds queue false) (packet : Packet) :
    Flow id (deeds ++ [.posted id packet]) (queue ++ [packet]) false := by
  refine ⟨?_, fun opens => ?_, nofun, fun dropped inside => ?_⟩
  · simp [Deed.posts, Deed.takes, Deed.drops, flow.order]
  · simpa [Deed.drops] using flow.kept opens
  · exact flow.closed dropped (by simpa using inside)

/-- The oldest completion is taken. Nothing was dropped yet, as there is one. -/
theorem take {packet : Packet} {rest : List Packet} (flow : Flow id deeds (packet :: rest) shut)
    (callback : Option CallbackId) : Flow id (deeds ++ [.took id packet callback]) rest shut := by
  have opens : shut = false := by
    rw [Bool.eq_false_iff]
    exact fun closed => absurd (flow.emptied closed) (List.cons_ne_nil _ _)
  refine ⟨?_, fun _ => ?_, fun closed => ?_, fun dropped inside => ?_⟩
  · simp [Deed.posts, Deed.takes, Deed.drops, flow.order, flow.kept opens]
  · simpa [Deed.drops] using flow.kept opens
  · exact absurd (flow.emptied closed) (List.cons_ne_nil _ _)
  · exact flow.closed dropped (by simpa using inside)

theorem close (flow : Flow id deeds queue shut) :
    Flow id (deeds ++ [.closed id queue]) [] true := by
  refine ⟨?_, nofun, fun _ => rfl, fun _ _ => rfl⟩
  simp [Deed.posts, Deed.takes, Deed.drops, flow.order]

/-- Every channel that there is closes. -/
theorem closeAll {crew : Crew} (flow : Flow id deeds (crew.queueAt id) (crew.shutAt id)) :
    Flow id (deeds ++ crew.channels.entries.map fun entry => .closed entry.1 entry.2.queue) []
      (crew.channels.get? id).isSome := by
  have dropped : (crew.channels.entries.map fun entry =>
      Deed.closed entry.1 entry.2.queue).flatMap (Deed.drops id) = crew.queueAt id := by
    simp only [List.flatMap_map, Deed.drops]
    exact crew.channels.flatMap_entries id Channel.queue
  refine ⟨?_, fun absent => ?_, fun _ => rfl, fun packets inside => ?_⟩
  · have posts := @flatMap_closings crew (Deed.posts id) fun _ _ => rfl
    have takes := @flatMap_closings crew (Deed.takes id) fun _ _ => rfl
    simp only [List.flatMap_append, posts, takes, dropped, flow.order, List.append_nil,
      List.append_assoc]
  · -- Where there is no channel, nothing was queued.
    have none : crew.channels.get? id = none := by simpa using absent
    simp [dropped, flow.kept (by simp [shutAt, none]), queueAt, none]
  · rcases List.mem_append.1 inside with before | now
    · have shut := flow.closed packets before
      cases there : crew.channels.get? id with
      | none => simp [shutAt, there] at shut
      | some channel => rfl
    · obtain ⟨⟨other, channel⟩, entry, same⟩ := List.mem_map.1 now
      cases same
      simp [Assoc.get?_of_mem entry]

end Flow

/-- What happened so far agrees with the queues. -/
def Accounted (deeds : List Deed) (crew : Crew) : Prop :=
  ∀ id, Flow id deeds (crew.queueAt id) (crew.shutAt id)

namespace Accounted

variable {before deeds : List Deed} {crew after : Crew}

/-- A move that leaves the channels as they are to those who post and take. -/
theorem quiet (accounted : Accounted before crew)
    (queues : ∀ id, after.queueAt id = crew.queueAt id)
    (shuts : ∀ id, after.shutAt id = crew.shutAt id) : Accounted before after := by
  intro id
  rw [queues, shuts]
  exact accounted id

theorem modify (accounted : Accounted before crew) {id : ChannelId} {change : Channel → Channel}
    (channels : after.channels = crew.channels.modify id change)
    (queue : ∀ channel, (change channel).queue = channel.queue)
    (closed : ∀ channel, (change channel).isClosed = channel.isClosed) :
    Accounted before after := by
  refine accounted.quiet (fun other => ?_) (fun other => ?_)
  · rw [queueAt, channels]
    exact elim_modify _ _ _ _ _ queue
  · rw [shutAt, channels]
    exact elim_modify _ _ _ _ _ closed

/-- One channel changes as its deed says. -/
theorem insert (accounted : Accounted before crew) {deed : Deed} {id : ChannelId}
    {old channel : Channel} (found : crew.channels.get? id = some old)
    (channels : after.channels = crew.channels.insert id channel) (place : deed.place = some id)
    (flow : Flow id before old.queue old.isClosed →
      Flow id (before ++ [deed]) channel.queue channel.isClosed) :
    Accounted (before ++ [deed]) after := by
  intro other
  rw [queueAt, shutAt, channels, elim_insert, elim_insert]
  split
  · next here =>
    subst here
    refine flow ?_
    simpa [queueAt, shutAt, found] using accounted other
  · next apart =>
    exact (accounted other).beside fun same => apart (Option.some.inj (same.symm.trans place))

theorem beside (accounted : Accounted before crew) {deed : Deed} (nowhere : deed.place = none)
    (channels : after.channels = crew.channels) : Accounted (before ++ [deed]) after := by
  intro id
  rw [queueAt, shutAt, channels]
  exact (accounted id).beside (by simp [nowhere])

theorem closedAll (accounted : Accounted before crew) :
    Accounted (before ++ crew.channels.entries.map fun entry => .closed entry.1 entry.2.queue)
      { crew with channels := crew.channels.mapValues fun _ channel => channel.close } := by
  intro id
  have flow := (accounted id).closeAll
  rw [queueAt, shutAt, Assoc.get?_mapValues]
  cases there : crew.channels.get? id with
  | none => simpa [there] using flow
  | some channel => simpa [there, Channel.close] using flow

theorem move (move : Move crew deeds after) (sound : Sound crew)
    (accounted : Accounted before crew) : Accounted (before ++ deeds) after := by
  cases move with
  | set =>
    rw [List.append_nil]
    exact accounted.quiet (fun _ => rfl) (fun _ => rfl)
  | settled _ | freed _ =>
    rw [List.append_nil]
    exact accounted.quiet (fun _ => rfl) (fun _ => rfl)
  | hired _ =>
    rw [List.append_nil]
    exact accounted.modify (channels_hire _ _) (fun _ => rfl) (fun _ => rfl)
  | gone _ _ _ =>
    rw [List.append_nil]
    exact accounted.modify (channels_discharge _ _ _) (fun _ => rfl) (fun _ => rfl)
  | opened =>
    rw [List.append_nil]
    exact accounted.quiet (sound.elim_opened rfl) (sound.elim_opened rfl)
  | closed found => exact accounted.insert found rfl rfl Flow.close
  | closedAll => exact accounted.closedAll
  | @bound id channel found served resource =>
    have changed : Accounted before { crew with
        channels := crew.channels.modify id fun channel => channel.bind resource } :=
      accounted.modify rfl (fun _ => Channel.queue_bind _ _) (fun _ => Channel.isClosed_bind _ _)
    exact changed.beside rfl rfl
  | posted found opens packet =>
    refine accounted.insert found rfl rfl fun flow => ?_
    rw [opens] at flow
    rw [opens]
    exact flow.post packet
  | took found there next held =>
    refine accounted.insert there rfl rfl fun flow => ?_
    rw [next] at flow
    exact flow.take crew.callback
  | registered callback => exact accounted.beside rfl rfl
  | asked => exact accounted.beside rfl rfl

end Accounted

/-! ### Callbacks -/

/-- The completions that a deed hands to a callback. -/
def Deed.hands : Deed → List (CallbackId × Packet)
  | took _ packet (some callback) => [(callback, packet)]
  | _ => []

/-- What a deed tells somebody who asked. -/
def Deed.tells : Deed → List (CallbackId × Packet)
  | asked handed => handed
  | _ => []

def Deed.registers : Deed → Option CallbackId
  | registered callback => some callback
  | _ => none

/-- The callback that was registered last. -/
def receiver (deeds : List Deed) : Option CallbackId := (deeds.filterMap Deed.registers).getLast?

/-- A deed that no callback hears of. -/
def Deed.isSilent : Deed → Bool
  | posted _ _ | closed _ _ | bound _ => true
  | took _ _ _ | registered _ | asked _ => false

theorem Deed.nothing_told {deed : Deed} (silent : deed.isSilent = true) :
    deed.registers = none ∧ deed.hands = [] ∧ deed.tells = [] := by
  cases deed <;> first | exact ⟨rfl, rfl, rfl⟩ | cases silent

/-- What was taken went to the callback that was registered at the time. -/
def Prompt (deeds : List Deed) : Prop :=
  ∀ earlier later id packet callback,
    deeds = earlier ++ .took id packet callback :: later → callback = receiver earlier

theorem Prompt.start : Prompt [] := by
  intro earlier later id packet callback same
  simp at same

theorem Prompt.more {before deeds : List Deed} (prompt : Prompt before)
    (last : ∀ earlier later id packet callback,
      deeds = earlier ++ .took id packet callback :: later →
        callback = receiver (before ++ earlier)) : Prompt (before ++ deeds) := by
  intro earlier later id packet callback same
  -- The completion was taken now, or earlier, or it was the first thing to happen now.
  rcases List.append_eq_append_iff.1 same with ⟨rest, rfl, now⟩ | ⟨rest, rfl, past⟩
  · exact last rest later id packet callback now
  · cases rest with
    | nil => simpa using last [] later id packet callback past.symm
    | cons head tail =>
      rw [List.cons_append, List.cons.injEq] at past
      obtain ⟨rfl, -⟩ := past
      exact prompt earlier tail id packet callback rfl

/-- What happened so far agrees with the callback that is registered, and with what callbacks were
handed. -/
structure Delivered (deeds : List Deed) (crew : Crew) : Prop where
  current : crew.callback = receiver deeds
  prompt : Prompt deeds
  told : deeds.flatMap Deed.hands = deeds.flatMap Deed.tells ++ crew.seen

namespace Delivered

variable {before deeds : List Deed} {crew after : Crew}

theorem silent (delivered : Delivered before crew)
    (silent : ∀ deed ∈ deeds, deed.isSilent = true) (callback : after.callback = crew.callback)
    (seen : after.seen = crew.seen) : Delivered (before ++ deeds) after := by
  have registers : deeds.filterMap Deed.registers = [] :=
    List.filterMap_eq_nil_iff.2 fun deed inside => (Deed.nothing_told (silent deed inside)).1
  have hands : deeds.flatMap Deed.hands = [] :=
    List.flatMap_eq_nil_iff.2 fun deed inside => (Deed.nothing_told (silent deed inside)).2.1
  have tells : deeds.flatMap Deed.tells = [] :=
    List.flatMap_eq_nil_iff.2 fun deed inside => (Deed.nothing_told (silent deed inside)).2.2
  refine ⟨?_, delivered.prompt.more fun earlier later id packet callback same => ?_, ?_⟩
  · rw [callback, delivered.current, receiver, receiver, List.filterMap_append, registers,
      List.append_nil]
  · have quiet := silent (.took id packet callback) (by simp [same])
    cases quiet
  · simp only [List.flatMap_append, hands, tells, List.append_nil, seen, delivered.told]

theorem registered (delivered : Delivered before crew) (callback : CallbackId) :
    Delivered (before ++ [.registered callback]) (crew.register callback) := by
  refine ⟨?_, delivered.prompt.more fun earlier later id packet other same => ?_, ?_⟩
  · simp [register, receiver, Deed.registers]
  · have inside : Deed.took id packet other ∈ [Deed.registered callback] := by simp [same]
    simp at inside
  · simp [register, Deed.hands, Deed.tells, delivered.told]

theorem took (delivered : Delivered before crew) (id : ChannelId) (packet : Packet)
    (callback : after.callback = crew.callback)
    (seen : after.seen = crew.seen ++ crew.handed packet) :
    Delivered (before ++ [.took id packet crew.callback]) after := by
  refine ⟨?_, delivered.prompt.more fun earlier later other taken receives same => ?_, ?_⟩
  · simp [callback, delivered.current, receiver, Deed.registers]
  · cases earlier with
    | nil =>
      cases same
      simpa using delivered.current
    | cons head tail => simp at same
  · have hands : (Deed.took id packet crew.callback).hands = crew.handed packet := by
      unfold handed
      cases crew.callback <;> rfl
    simp [hands, seen, Deed.tells, delivered.told]

theorem asked (delivered : Delivered before crew) :
    Delivered (before ++ [.asked crew.seen]) { crew with seen := [] } := by
  refine ⟨?_, delivered.prompt.more fun earlier later id packet callback same => ?_, ?_⟩
  · simp [delivered.current, receiver, Deed.registers]
  · have inside : Deed.took id packet callback ∈ [Deed.asked crew.seen] := by simp [same]
    simp at inside
  · simp [Deed.hands, Deed.tells, delivered.told]

theorem move (move : Move crew deeds after) (delivered : Delivered before crew) :
    Delivered (before ++ deeds) after := by
  cases move with
  | registered callback => exact delivered.registered callback
  | took found there next held => exact delivered.took _ _ rfl rfl
  | asked => exact delivered.asked
  | set | opened | hired _ | settled _ | freed _ | gone _ _ _ =>
    exact delivered.silent nofun rfl rfl
  | closed _ | bound _ _ _ | posted _ _ _ =>
    exact delivered.silent (by simp [Deed.isSilent]) rfl rfl
  | closedAll =>
    refine delivered.silent (fun deed inside => ?_) rfl rfl
    obtain ⟨entry, -, rfl⟩ := List.mem_map.1 inside
    rfl

end Delivered

/-! ### Runs -/

/-- What a run keeps. -/
structure Traced (deeds : List Deed) (crew : Crew) : Prop where
  sound : Sound crew
  accounted : Accounted deeds crew
  delivered : Delivered deeds crew

theorem Traced.settled {deeds : List Deed} {crew : Crew} (traced : Traced deeds crew) :
    Settled crew :=
  ⟨traced.sound, fun id => (traced.accounted id).emptied⟩

theorem traced_heedAll (maxChannels minThreads maxThreads : Nat) (calls : List Call) :
    let start : Crew := { maxChannels, minThreads, maxThreads }
    Traced (start.deedsIn calls) (start.heedAll calls) := by
  intro start
  have initial : Traced [] start := ⟨.start _ _ _, fun id => .start id, rfl, .start, rfl⟩
  refine @Moves.induction _ _ Traced (fun _ _ _ _ move traced => ?_) _ _
    (start.moves_heedAll calls) initial
  exact ⟨traced.sound.move move, traced.accounted.move move traced.sound,
    traced.delivered.move move⟩

theorem ne_of_bindTo {crew after : Crew} {id other : ChannelId} {resource : ResourceId}
    {binding : Binding} (shut : crew.shutAt id = true)
    (made : crew.bindTo other resource = .ok (binding, after)) : binding.channel ≠ id := by
  unfold bindTo at made
  split at made
  · cases made
  · next channel opens =>
    cases made
    rintro rfl
    obtain ⟨there, opens⟩ := open?_eq_some_iff.1 opens
    rw [shutAt, there, Option.elim_some, opens] at shut
    cases shut

/-- Nothing is bound to a closed channel, not even as the default one. -/
theorem ne_of_bind {crew after : Crew} {id : ChannelId} {target : Option ChannelId}
    {resource : ResourceId} {binding : Binding} (sound : Sound crew)
    (shut : crew.shutAt id = true) (made : crew.bind target resource = .ok (binding, after)) :
    binding.channel ≠ id := by
  unfold bind at made
  split at made
  · exact ne_of_bindTo shut made
  · split at made
    · cases made
    · next found =>
      have lasts := lasts_moves (moves_defaultChannel found) sound
      exact ne_of_bindTo (shutAt_of_lasts lasts shut) made

/-- A closed channel takes no completion and no resource. -/
structure Refuses (crew : Crew) (id : ChannelId) : Prop where
  empty : crew.queueAt id = []
  post : ∀ packet, crew.post id packet = .error (.notFound (.closedChannel id))
  bind : ∀ resource, crew.bind (some id) resource = .error (.notFound (.openChannel id))
  unposted : ∀ packet, crew.heed (.post id packet) = crew
  unbound : ∀ resource, crew.heed (.bind (some id) resource) = crew
  elsewhere : ∀ target resource binding after,
    crew.bind target resource = .ok (binding, after) → binding.channel ≠ id

theorem refuses_of_shut {crew : Crew} {id : ChannelId} (settled : Settled crew)
    (shut : crew.shutAt id = true) : Refuses crew id := by
  obtain ⟨channel, there, closed⟩ : ∃ channel, crew.channels.get? id = some channel ∧
      channel.isClosed = true := by
    cases there : crew.channels.get? id with
    | none => simp [shutAt, there] at shut
    | some channel => exact ⟨channel, rfl, by simpa [shutAt, there] using shut⟩
  have post (packet : Packet) : crew.post id packet = .error (.notFound (.closedChannel id)) := by
    simp [Crew.post, Assoc.getD, there, Channel.post, closed]
  have absent : crew.open? id = none := by simp [open?, there, Option.filter, closed]
  have bind (resource : ResourceId) :
      crew.bind (some id) resource = .error (.notFound (.openChannel id)) := by
    simp only [Crew.bind, bindTo, absent]
  refine ⟨settled.emptied id shut, post, bind, fun packet => ?_, fun resource => ?_,
    fun _ _ _ _ made => ne_of_bind settled.sound shut made⟩
  · rw [heed, post]
    rfl
  · rw [heed, bind]
    rfl

/-- What becomes of completions, whatever was asked of the crew. -/
structure Kept (deeds : List Deed) (crew : Crew) : Prop where
  /-- In the order in which they were accepted, completions were taken, were dropped with their
  channel, or are still queued. -/
  order : ∀ id, deeds.flatMap (Deed.posts id) =
    deeds.flatMap (Deed.takes id) ++ deeds.flatMap (Deed.drops id) ++ crew.queueAt id
  /-- Only a channel that is closed has dropped any. -/
  dropped : ∀ id, crew.shutAt id = false → deeds.flatMap (Deed.drops id) = []
  prompt : Prompt deeds
  /-- Callbacks were handed what was taken for them, once each. -/
  told : deeds.flatMap Deed.hands = deeds.flatMap Deed.tells ++ crew.seen
  idle : crew.AtRest → ∀ serial id, crew.workers.get? serial = some ⟨id, .waiting⟩ →
    crew.queueAt id = []
  rests : crew.rest.AtRest
  closed : ∀ id dropped, .closed id dropped ∈ deeds → Refuses crew id

/-- Completions are neither lost, nor taken twice, nor taken out of turn. -/
theorem completions_kept (maxChannels minThreads maxThreads : Nat) (calls : List Call) :
    let start : Crew := { maxChannels, minThreads, maxThreads }
    Kept (start.deedsIn calls) (start.heedAll calls) := by
  intro start
  have traced := traced_heedAll maxChannels minThreads maxThreads calls
  have settled := traced.settled
  refine ⟨fun id => (traced.accounted id).order, fun id => (traced.accounted id).kept,
    traced.delivered.prompt, traced.delivered.told, fun rest serial id found => ?_,
    atRest_rest settled, fun id dropped inside => ?_⟩
  · exact (waiting_of_atRest settled rest found).2
  · exact refuses_of_shut settled ((traced.accounted id).closed dropped inside)

/-- The first completion finds no callback, and the last one is left when the channel closes. -/
example :
    let start : Crew := { maxChannels := 1, minThreads := 0, maxThreads := 1 }
    start.deedsIn [.createChannel, .bind (some ⟨1⟩) ⟨7⟩, .post ⟨1⟩ ⟨0, 8, 1, .panics⟩,
      .post ⟨1⟩ ⟨0, 8, 2, .returns⟩, .post ⟨1⟩ ⟨0, 8, 3, .returns⟩, .work 0, .work 0,
      .register ⟨5⟩, .work 0, .work 0, .close ⟨1⟩, .post ⟨1⟩ ⟨0, 8, 4, .returns⟩] =
    [.bound ⟨1⟩, .posted ⟨1⟩ ⟨0, 8, 1, .panics⟩, .posted ⟨1⟩ ⟨0, 8, 2, .returns⟩,
      .posted ⟨1⟩ ⟨0, 8, 3, .returns⟩, .took ⟨1⟩ ⟨0, 8, 1, .panics⟩ none, .registered ⟨5⟩,
      .took ⟨1⟩ ⟨0, 8, 2, .returns⟩ (some ⟨5⟩), .closed ⟨1⟩ [⟨0, 8, 3, .returns⟩]] := by
  decide

end Steward.Completion.Crew
