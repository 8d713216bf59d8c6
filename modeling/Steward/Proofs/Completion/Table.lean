import Steward.Proofs.Completion.Move

/-! The table of open channels, and the default channel that is remembered beside it. What a call
does to the two is said once; from that follow the bound on the table, the numbers of new channels
and what the default channel is. -/

set_option autoImplicit false

namespace Steward.Completion

/-- What can be seen of a crew's channels without looking into them. -/
structure Table where
  maxChannels : Nat
  opened : Nat
  default : Option ChannelId
  isOpen : ChannelId → Bool

namespace Table

/-- A channel more, under the next number. -/
def add (table : Table) : Table :=
  { table with
    opened := table.opened + 1
    isOpen := fun id => decide (id = ⟨table.opened + 1⟩) || table.isOpen id }

def remember (table : Table) (id : ChannelId) : Table := { table with default := some id }

def remove (table : Table) (id : ChannelId) : Table :=
  { table with
    default := table.default.filter fun other => other ≠ id
    isOpen := fun other => table.isOpen other && decide (other ≠ id) }

def clear (table : Table) : Table := { table with default := none, isOpen := fun _ => false }

end Table

namespace Crew

def isOpen (crew : Crew) (id : ChannelId) : Bool := (crew.open? id).isSome

def table (crew : Crew) : Table := ⟨crew.maxChannels, crew.opened, crew.default, crew.isOpen⟩

/-- The call closes the channel, if that is open. -/
def Call.closes (id : ChannelId) : Call → Bool
  | close other => other = id
  | shutdown => true
  | _ => false

/-- The call is about the default channel. -/
def Call.asksDefault : Call → Bool
  | defaultChannel => true
  | bind none _ => true
  | _ => false

/-- The channel that a call creates. -/
def created? (crew : Crew) : Call → Option ChannelId
  | .createChannel => crew.createChannel.toOption.map Prod.fst
  | .defaultChannel =>
      if crew.default = none then crew.defaultChannel.toOption.map Prod.fst else none
  | .bind none resource =>
      if crew.default = none then (crew.bind none resource).toOption.map (·.1.channel) else none
  | _ => none

/-- The channels that calls create, one after the other. -/
def createdIn (crew : Crew) : List Call → List ChannelId
  | [] => []
  | call :: rest => (crew.created? call).toList ++ (crew.heed call).createdIn rest

variable {crew after : Crew} {id : ChannelId} {channel : Channel}

/-! ### Channels that are open -/

theorem isOpen_eq_elim (crew : Crew) (id : ChannelId) :
    crew.isOpen id = (crew.channels.get? id).elim false fun channel => !channel.isClosed := by
  unfold isOpen open?
  cases crew.channels.get? id with
  | none => rfl
  | some channel => cases closed : channel.isClosed <;> simp [Option.filter, closed]

theorem isOpen_same (channels : after.channels = crew.channels) : after.isOpen = crew.isOpen := by
  funext id
  rw [isOpen_eq_elim, isOpen_eq_elim, channels]

theorem isOpen_modify {change : Channel → Channel}
    (channels : after.channels = crew.channels.modify id change)
    (same : ∀ channel, (change channel).isClosed = channel.isClosed) :
    after.isOpen = crew.isOpen := by
  funext other
  rw [isOpen_eq_elim, isOpen_eq_elim, channels]
  exact elim_modify crew.channels id other false _ fun channel => by rw [same]

theorem isOpen_insert {old : Channel} (there : crew.channels.get? id = some old)
    (channels : after.channels = crew.channels.insert id channel)
    (same : channel.isClosed = old.isClosed) : after.isOpen = crew.isOpen := by
  funext other
  rw [isOpen_eq_elim, isOpen_eq_elim, channels, elim_insert]
  split
  · next here => rw [here, there, Option.elim_some, same]
  · rfl

theorem table_eq (maxChannels : after.maxChannels = crew.maxChannels)
    (opened : after.opened = crew.opened) (default : after.default = crew.default)
    (isOpen : after.isOpen = crew.isOpen) : after.table = crew.table := by
  rw [table, maxChannels, opened, default, isOpen, table]

theorem mem_openChannels : id ∈ crew.openChannels ↔ crew.isOpen id = true := by
  have same : crew.open? id = (crew.channels.filter fun _ channel => !channel.isClosed).get? id :=
    (Assoc.get?_filter crew.channels (fun _ channel => !channel.isClosed) id).symm
  rw [isOpen, same, Option.isSome_iff_ne_none, Ne, Assoc.get?_eq_none_iff, not_not, openChannels]

theorem nodup_openChannels (crew : Crew) : crew.openChannels.Nodup :=
  (crew.channels.filter fun _ channel => !channel.isClosed).distinct

/-- The open channels are counted by any list of them. -/
theorem openCount_eq_length {ids : List ChannelId} (distinct : ids.Nodup)
    (same : ∀ id, crew.isOpen id = true ↔ id ∈ ids) : crew.openCount = ids.length := by
  apply List.Perm.length_eq
  rw [List.perm_ext_iff_of_nodup crew.nodup_openChannels distinct]
  exact fun id => mem_openChannels.trans (same id)

/-! ### Calls that leave the table alone -/

theorem table_discharge (crew : Crew) (serial : Nat) (id : ChannelId) :
    (crew.discharge serial id).table = crew.table :=
  table_eq rfl rfl rfl (isOpen_modify (crew.channels_discharge serial id) fun _ => rfl)

theorem table_step {serial : Nat} {deeds : List Deed} (step : Step crew serial deeds after) :
    after.table = crew.table := by
  cases step with
  | stays => rfl
  | settled | freed => exact table_eq rfl rfl rfl (isOpen_same rfl)
  | retired | left => exact table_discharge _ _ _
  | took _ there => exact table_eq rfl rfl rfl (isOpen_insert there rfl rfl)

theorem table_finish (crew : Crew) (serial : Nat) : (crew.finish serial).table = crew.table := by
  unfold finish
  split
  · simp only
    split
    · split
      · exact table_discharge _ _ _
      · exact table_eq rfl rfl rfl (isOpen_same rfl)
    · rfl
  · rfl

theorem table_lapse (crew : Crew) (serial : Nat) : (crew.lapse serial).table = crew.table := by
  unfold lapse
  split
  · split
    · split
      · exact table_discharge _ _ _
      · rfl
    · rfl
  · rfl

theorem table_post {packet : Packet} (made : crew.post id packet = .ok after) :
    after.table = crew.table := by
  unfold post Channel.post Assoc.getD at made
  cases there : crew.channels.get? id with
  | none => simp [there] at made
  | some channel =>
    rw [there, Option.getD_some] at made
    cases closed : channel.isClosed with
    | true => simp [closed] at made
    | false =>
      rw [closed] at made
      cases made
      exact table_eq rfl rfl rfl (isOpen_insert there rfl closed.symm)

theorem table_hire (crew : Crew) (id : ChannelId) : (crew.hire id).table = crew.table :=
  table_eq rfl rfl rfl (isOpen_modify (crew.channels_hire id) fun _ => rfl)

theorem table_staff (crew : Crew) (id : ChannelId) (channel : Channel) :
    (crew.staff id channel).table = crew.table := by
  unfold staff
  split
  · exact crew.table_hire id
  · split
    · exact crew.table_hire id
    · rfl

/-- A resource can be bound to a channel if and only if that is open. -/
theorem bindTo_of_open (opens : crew.isOpen id = true) (resource : ResourceId) :
    ∃ after, crew.bindTo id resource = .ok (⟨id, resource⟩, after) ∧
      after.table = crew.table := by
  obtain ⟨channel, found⟩ := Option.isSome_iff_exists.1 opens
  refine ⟨_, by rw [bindTo, found], ?_⟩
  rw [← crew.table_staff id channel]
  exact table_eq rfl rfl rfl (isOpen_modify rfl fun channel => channel.isClosed_bind resource)

theorem bindTo_of_closed (closed : crew.isOpen id = false) (resource : ResourceId) :
    crew.bindTo id resource = .error (.notFound (.openChannel id)) := by
  have absent : crew.open? id = none := by simpa [isOpen] using closed
  simp only [bindTo, absent]

/-! ### What a call does to the table -/

/-- The crew with a new channel. -/
def extended (crew : Crew) : Crew :=
  { crew with
    channels := crew.channels.insert ⟨crew.opened + 1⟩ {}
    opened := crew.opened + 1 }

theorem isOpen_extended (crew : Crew) : crew.extended.isOpen = crew.table.add.isOpen := by
  funext id
  rw [isOpen_eq_elim, extended, elim_insert]
  by_cases new : id = ⟨crew.opened + 1⟩
  · simp [new, Table.add, table]
  · simp [new, Table.add, table, isOpen_eq_elim]

theorem table_extended (crew : Crew) : crew.extended.table = crew.table.add := by
  rw [table, isOpen_extended]
  rfl

theorem table_remembered (crew : Crew) (id : ChannelId) :
    { crew with default := some id }.table = crew.table.remember id := by
  have same : { crew with default := some id }.isOpen = crew.isOpen := isOpen_same rfl
  rw [table, same]
  rfl

/-- What a call does to the table, with the channel that it creates. -/
inductive Tabling (crew : Crew) : Call → Option ChannelId → Table → Prop where
  | spared (call : Call) (open_ : ∀ id, crew.isOpen id = true → call.closes id = false) :
      Tabling crew call none crew.table
  | added (room : crew.openCount < crew.maxChannels) :
      Tabling crew .createChannel (some ⟨crew.opened + 1⟩) crew.table.add
  /-- The default channel was missing and is created. -/
  | remembered {call : Call} (asks : call.asksDefault = true) (missing : crew.default = none)
      (room : crew.openCount < crew.maxChannels) :
      Tabling crew call (some ⟨crew.opened + 1⟩) (crew.table.add.remember ⟨crew.opened + 1⟩)
  | removed {id : ChannelId} (there : crew.isOpen id = true) :
      Tabling crew (.close id) none (crew.table.remove id)
  | cleared : Tabling crew .shutdown none crew.table.clear

theorem createChannel_of_room (room : crew.openCount < crew.maxChannels) :
    crew.createChannel = .ok (⟨crew.opened + 1⟩, crew.extended) :=
  if_neg (Nat.not_le_of_lt room)

theorem createChannel_of_full (full : crew.maxChannels ≤ crew.openCount) :
    crew.createChannel = .error (.channelLimit crew.maxChannels) := if_pos full

theorem defaultChannel_of_some (remembered : crew.default = some id) :
    crew.defaultChannel = .ok (id, crew) := by
  simp only [defaultChannel, remembered]

theorem defaultChannel_of_full (missing : crew.default = none)
    (full : crew.maxChannels ≤ crew.openCount) :
    crew.defaultChannel = .error (.channelLimit crew.maxChannels) := by
  simp only [defaultChannel, missing, createChannel_of_full full]

theorem defaultChannel_of_room (missing : crew.default = none)
    (room : crew.openCount < crew.maxChannels) :
    crew.defaultChannel = .ok (⟨crew.opened + 1⟩,
      { crew.extended with default := some ⟨crew.opened + 1⟩ }) := by
  simp only [defaultChannel, missing, createChannel_of_room room]

theorem table_defaultOpened (crew : Crew) :
    { crew.extended with default := some ⟨crew.opened + 1⟩ }.table =
      crew.table.add.remember ⟨crew.opened + 1⟩ := by
  rw [table_remembered, table_extended]

/-- A default channel that was just created can be bound to. -/
theorem bind_of_room (missing : crew.default = none) (room : crew.openCount < crew.maxChannels)
    (resource : ResourceId) :
    ∃ after, crew.bind none resource = .ok (⟨⟨crew.opened + 1⟩, resource⟩, after) ∧
      after.table = crew.table.add.remember ⟨crew.opened + 1⟩ := by
  have opens : crew.extended.isOpen ⟨crew.opened + 1⟩ = true := by
    simp [isOpen_extended, Table.add, table]
  have opens : { crew.extended with default := some ⟨crew.opened + 1⟩ }.isOpen
      ⟨crew.opened + 1⟩ = true := opens
  obtain ⟨after, bound, same⟩ := bindTo_of_open opens resource
  refine ⟨after, ?_, same.trans crew.table_defaultOpened⟩
  simp only [bind, defaultChannel_of_room missing room, bound]

theorem close_of_open (there : crew.isOpen id = true) :
    ∃ after, crew.close id = .ok after ∧ after.table = crew.table.remove id := by
  obtain ⟨channel, found⟩ := Option.isSome_iff_exists.1 there
  have opens : { crew with channels := crew.channels.insert id channel.close }.isOpen =
      (crew.table.remove id).isOpen := by
    funext other
    rw [isOpen_eq_elim, elim_insert]
    by_cases here : other = id
    · simp [here, Table.remove, Channel.isClosed_close]
    · simp [here, Table.remove, table, isOpen_eq_elim]
  refine ⟨_, by rw [close, found], ?_⟩
  exact congrArg (Table.mk crew.maxChannels crew.opened _) opens

theorem close_of_closed (closed : crew.isOpen id = false) :
    crew.close id = .error (.notFound (.openChannel id)) := by
  have absent : crew.open? id = none := by simpa [isOpen] using closed
  rw [close, absent]

theorem table_shutdown (crew : Crew) : crew.shutdown.2.table = crew.table.clear := by
  have opens : crew.shutdown.2.isOpen = crew.table.clear.isOpen := by
    funext id
    simp only [isOpen_eq_elim, shutdown, Assoc.get?_mapValues, Table.clear]
    cases crew.channels.get? id with
    | none => rfl
    | some channel => simp [Channel.isClosed_close]
  exact congrArg (Table.mk crew.maxChannels crew.opened none) opens

theorem tabling_heed (crew : Crew) (call : Call) :
    Tabling crew call (crew.created? call) (crew.heed call).table := by
  have spared : ∀ {call : Call} {after : Crew}, (∀ id, call.closes id = false) →
      after.table = crew.table → Tabling crew call none after.table := by
    intro call after closes same
    rw [same]
    exact .spared call fun id _ => closes id
  have bound : ∀ (id : ChannelId) (resource : ResourceId),
      (crew.orElse ((crew.bindTo id resource).map Prod.snd)).table = crew.table := by
    intro id resource
    cases opens : crew.isOpen id with
    | false =>
      rw [bindTo_of_closed opens]
      rfl
    | true =>
      obtain ⟨after, made, same⟩ := bindTo_of_open opens resource
      rw [made]
      exact same
  cases call with
  | createChannel =>
    rcases Nat.lt_or_ge crew.openCount crew.maxChannels with room | full
    · have step : Tabling crew .createChannel _ crew.table.add := .added room
      rw [← table_extended] at step
      simp only [heed, created?, createChannel_of_room room]
      exact step
    · simp only [heed, created?, createChannel_of_full full]
      exact spared (fun _ => rfl) rfl
  | defaultChannel =>
    cases missing : crew.default with
    | some id =>
      simp only [heed, created?, defaultChannel_of_some missing, missing]
      exact spared (fun _ => rfl) rfl
    | none =>
      rcases Nat.lt_or_ge crew.openCount crew.maxChannels with room | full
      · have step : Tabling crew .defaultChannel _ _ := .remembered rfl missing room
        rw [← table_defaultOpened] at step
        simp only [heed, created?, defaultChannel_of_room missing room, missing]
        exact step
      · simp only [heed, created?, defaultChannel_of_full missing full, missing]
        exact spared (fun _ => rfl) rfl
  | close id =>
    cases opens : crew.isOpen id with
    | false =>
      simp only [heed, created?, close_of_closed opens]
      refine .spared _ fun other there => decide_eq_false ?_
      rintro rfl
      cases opens.symm.trans there
    | true =>
      obtain ⟨after, made, same⟩ := close_of_open opens
      simp only [heed, created?, made]
      rw [orElse, same]
      exact .removed opens
  | bind id resource =>
    cases id with
    | some id => exact spared (fun _ => rfl) (bound id resource)
    | none =>
      cases missing : crew.default with
      | some id =>
        have same : crew.bind none resource = crew.bindTo id resource := by
          simp only [bind, defaultChannel_of_some missing]
        simp only [heed, created?, missing, same]
        exact spared (fun _ => rfl) (bound id resource)
      | none =>
        rcases Nat.lt_or_ge crew.openCount crew.maxChannels with room | full
        · obtain ⟨after, made, same⟩ := bind_of_room missing room resource
          have step : Tabling crew (.bind none resource) _ _ := .remembered rfl missing room
          rw [← same] at step
          simp only [heed, created?, made, missing]
          exact step
        · have refused : crew.bind none resource = .error (.channelLimit crew.maxChannels) := by
            simp only [bind, defaultChannel_of_full missing full]
          simp only [heed, created?, refused, missing]
          exact spared (fun _ => rfl) rfl
  | post id packet =>
    simp only [heed]
    cases made : crew.post id packet with
    | error error => exact spared (fun _ => rfl) rfl
    | ok after => exact spared (fun _ => rfl) (table_post made)
  | work serial => exact spared (fun _ => rfl) (table_step (crew.step_work serial))
  | lapse serial => exact spared (fun _ => rfl) (crew.table_lapse serial)
  | letGo context =>
    simp only [heed]
    split
    · exact spared (fun _ => rfl) (crew.table_finish _)
    · exact spared (fun _ => rfl) rfl
  | shutdown =>
    rw [heed, table_shutdown]
    exact .cleared
  | register | setMin | setMax | takeSeen =>
    exact spared (fun _ => rfl) (table_eq rfl rfl rfl (isOpen_same rfl))

/-! ### What every call keeps -/

/-- The table is not overfull, its channels have numbers that were given out, and the default
channel is one of them. -/
structure Tabled (crew : Crew) : Prop where
  bounded : crew.openCount ≤ crew.maxChannels
  numbered : ∀ id, crew.isOpen id = true → id.value ≤ crew.opened
  remembered : ∀ id, crew.default = some id → crew.isOpen id = true

namespace Tabled

theorem start (maxChannels minThreads maxThreads : Nat) :
    Tabled { maxChannels, minThreads, maxThreads } := by
  constructor
  case bounded => exact Nat.zero_le _
  case numbered =>
    intro id opens
    cases opens
  case remembered =>
    intro id remembered
    cases remembered

/-- The table of a crew, seen as a list of its open channels. -/
theorem of_table {table : Table} (tables : after.table = table) {ids : List ChannelId}
    (distinct : ids.Nodup) (same : ∀ id, table.isOpen id = true ↔ id ∈ ids)
    (bounded : ids.length ≤ table.maxChannels) (numbered : ∀ id ∈ ids, id.value ≤ table.opened)
    (remembered : ∀ id, table.default = some id → id ∈ ids) : after.Tabled := by
  subst tables
  constructor
  case bounded =>
    rw [openCount_eq_length distinct same]
    exact bounded
  case numbered => exact fun id opens => numbered id ((same id).1 opens)
  case remembered => exact fun id default => (same id).2 (remembered id default)

/-- A new channel has a number that no open channel has. -/
theorem fresh (tabled : crew.Tabled) : ⟨crew.opened + 1⟩ ∉ crew.openChannels := by
  intro inside
  have low := tabled.numbered _ (mem_openChannels.1 inside)
  exact absurd low (Nat.not_succ_le_self _)

theorem tabling (tabled : crew.Tabled) {call : Call} {created : Option ChannelId} {table : Table}
    (step : Tabling crew call created table) (tables : after.table = table) : after.Tabled := by
  have distinct := crew.nodup_openChannels
  have numbered : ∀ id ∈ crew.openChannels, id.value ≤ crew.opened :=
    fun id inside => tabled.numbered id (mem_openChannels.1 inside)
  have numberedMore : ∀ id ∈ ⟨crew.opened + 1⟩ :: crew.openChannels,
      id.value ≤ crew.opened + 1 := by
    intro id inside
    rcases List.mem_cons.1 inside with rfl | old
    · exact Nat.le_refl _
    · exact Nat.le_succ_of_le (numbered id old)
  have remembered : ∀ id, crew.default = some id → id ∈ crew.openChannels :=
    fun id default => mem_openChannels.2 (tabled.remembered id default)
  have more : ∀ id, crew.table.add.isOpen id = true ↔
      id ∈ ⟨crew.opened + 1⟩ :: crew.openChannels := by
    intro id
    change (decide (id = ⟨crew.opened + 1⟩) || crew.isOpen id) = true ↔ _
    rw [Bool.or_eq_true, decide_eq_true_eq, List.mem_cons, mem_openChannels]
  cases step with
  | spared =>
    exact of_table tables distinct (fun _ => mem_openChannels.symm) tabled.bounded numbered
      remembered
  | added room =>
    refine of_table tables (List.nodup_cons.2 ⟨tabled.fresh, distinct⟩) more room numberedMore ?_
    exact fun id default => List.mem_cons_of_mem _ (remembered id default)
  | remembered asks missing room =>
    refine of_table tables (List.nodup_cons.2 ⟨tabled.fresh, distinct⟩) more room numberedMore ?_
    -- The default channel is the one that was just created.
    intro id default
    cases default
    exact List.mem_cons_self
  | @removed gone there =>
    refine of_table tables (distinct.filter fun other => other ≠ gone) (fun id => ?_) ?_ ?_ ?_
    · simp [Table.remove, Crew.table, mem_openChannels]
    · exact Nat.le_trans (List.length_filter_le _ _) tabled.bounded
    · exact fun id inside => numbered id (List.mem_filter.1 inside).1
    · intro id default
      obtain ⟨before, apart⟩ := Option.filter_eq_some_iff.1 default
      exact List.mem_filter.2 ⟨remembered id before, apart⟩
  | cleared =>
    refine of_table tables List.nodup_nil (fun id => ?_) (Nat.zero_le _) ?_ ?_
    · simp [Table.clear]
    · exact fun id inside => absurd inside List.not_mem_nil
    · intro id default
      cases default

theorem heed (tabled : crew.Tabled) (call : Call) : (crew.heed call).Tabled :=
  tabled.tabling (crew.tabling_heed call) rfl

theorem heedAll (tabled : crew.Tabled) (calls : List Call) : (crew.heedAll calls).Tabled := by
  induction calls generalizing crew with
  | nil => exact tabled
  | cons call rest ih => exact ih (tabled.heed call)

end Tabled

/-! ### New channels -/

/-- A call that creates a channel uses up a number, and any other call none. -/
theorem Tabling.opened {call : Call} {created : Option ChannelId} {table : Table}
    (step : Tabling crew call created table) :
    (created = none ∧ table.opened = crew.opened) ∨
      created = some ⟨crew.opened + 1⟩ ∧ table.opened = crew.opened + 1 := by
  cases step with
  | spared | removed | cleared => exact .inl ⟨rfl, rfl⟩
  | added | remembered => exact .inr ⟨rfl, rfl⟩

/-- Channels are numbered in the order of their creation. -/
theorem createdIn_eq (crew : Crew) (calls : List Call) :
    crew.createdIn calls = (List.range' (crew.opened + 1) (crew.createdIn calls).length).map
        ChannelId.mk ∧
      (crew.heedAll calls).opened = crew.opened + (crew.createdIn calls).length := by
  induction calls generalizing crew with
  | nil => exact ⟨rfl, rfl⟩
  | cons call rest ih =>
    obtain ⟨later, last⟩ := ih (crew.heed call)
    change _ ∧ ((crew.heed call).heedAll rest).opened = _
    rcases (crew.tabling_heed call).opened with ⟨nothing, opened⟩ | ⟨new, opened⟩
    · have same : (crew.heed call).opened = crew.opened := opened
      rw [same] at later last
      simp only [createdIn, nothing, Option.toList_none, List.nil_append]
      exact ⟨later, last⟩
    · have same : (crew.heed call).opened = crew.opened + 1 := opened
      rw [same] at later last
      simp only [createdIn, new, Option.toList_some, List.singleton_append, List.length_cons,
        List.range'_succ, List.map_cons]
      refine ⟨congrArg _ later, ?_⟩
      rw [last]
      omega

theorem heedAll_append (crew : Crew) (first second : List Call) :
    crew.heedAll (first ++ second) = (crew.heedAll first).heedAll second :=
  List.foldl_append

/-! ### The default channel -/

/-- The default channel is remembered until it is closed. -/
theorem Tabling.default {call : Call} {created : Option ChannelId} {table : Table}
    (step : Tabling crew call created table) (tabled : crew.Tabled)
    (remembered : crew.default = some id) :
    table.default = if call.closes id then none else some id := by
  have opens := tabled.remembered id remembered
  cases step with
  | spared _ kept =>
    rw [kept id opens]
    exact remembered
  | added => exact remembered
  | remembered _ missing => cases missing.symm.trans remembered
  | @removed gone there =>
    by_cases own : gone = id
    · simp [Table.remove, table, remembered, Call.closes, own]
    · simp [Table.remove, table, remembered, Call.closes, own, Ne.symm own]
  | cleared => rfl

theorem default_heed (tabled : crew.Tabled) (remembered : crew.default = some id) (call : Call) :
    (crew.heed call).default = if call.closes id then none else some id :=
  (crew.tabling_heed call).default tabled remembered

theorem default_heedAll (tabled : crew.Tabled) (remembered : crew.default = some id)
    {calls : List Call} (kept : ∀ call ∈ calls, call.closes id = false) :
    (crew.heedAll calls).default = some id := by
  induction calls generalizing crew with
  | nil => exact remembered
  | cons call rest ih =>
    have still := default_heed tabled remembered call
    rw [kept call List.mem_cons_self] at still
    exact ih (tabled.heed call) still fun later inside => kept later (List.mem_cons_of_mem _ inside)

/-- Whoever asks for the default channel leaves it remembered. -/
theorem default_of_defaultChannel (made : crew.defaultChannel = .ok (id, after)) :
    crew.heed .defaultChannel = after ∧ after.default = some id := by
  refine ⟨by rw [heed, made]; rfl, ?_⟩
  unfold defaultChannel at made
  split at made
  · next remembered =>
    cases made
    exact remembered
  · split at made
    · cases made
    · cases made
      rfl

/-! ### Calls that are refused -/

def errorOf {α : Type} (made : Except Error α) : Option Error :=
  match made with
  | .ok _ => none
  | .error error => some error

/-- What a call is refused with. -/
def refusal? (crew : Crew) : Call → Option Error
  | .createChannel => errorOf crew.createChannel
  | .defaultChannel => errorOf crew.defaultChannel
  | .close id => errorOf (crew.close id)
  | .bind id resource => errorOf (crew.bind id resource)
  | .post id packet => errorOf (crew.post id packet)
  | _ => none

/-- The calls that cannot be answered: those that need one more channel than there may be, and those
that name a channel which is not open. -/
inductive Refused (crew : Crew) : Call → Error → Prop where
  | full (full : crew.maxChannels ≤ crew.openCount) :
      Refused crew .createChannel (.channelLimit crew.maxChannels)
  | fullForDefault {call : Call} (asks : call.asksDefault = true) (missing : crew.default = none)
      (full : crew.maxChannels ≤ crew.openCount) :
      Refused crew call (.channelLimit crew.maxChannels)
  | unclosed {id : ChannelId} (absent : crew.isOpen id = false) :
      Refused crew (.close id) (.notFound (.openChannel id))
  | unbound {id : ChannelId} (resource : ResourceId) (absent : crew.isOpen id = false) :
      Refused crew (.bind (some id) resource) (.notFound (.openChannel id))
  | unposted {id : ChannelId} (packet : Packet) (absent : crew.isOpen id = false) :
      Refused crew (.post id packet) (.notFound (.closedChannel id))

theorem errorOf_post (crew : Crew) (id : ChannelId) (packet : Packet) :
    errorOf (crew.post id packet) =
      if crew.isOpen id then none else some (.notFound (.closedChannel id)) := by
  unfold post Channel.post Assoc.getD
  rw [isOpen_eq_elim]
  cases crew.channels.get? id with
  | none => rfl
  | some channel => cases closed : channel.isClosed <;> simp [closed, errorOf]

theorem errorOf_bindTo (crew : Crew) (id : ChannelId) (resource : ResourceId) :
    errorOf (crew.bindTo id resource) =
      if crew.isOpen id then none else some (.notFound (.openChannel id)) := by
  cases opens : crew.isOpen id with
  | false =>
    rw [bindTo_of_closed opens]
    rfl
  | true =>
    obtain ⟨after, made, _⟩ := bindTo_of_open opens resource
    rw [made]
    rfl

theorem errorOf_close (crew : Crew) (id : ChannelId) :
    errorOf (crew.close id) =
      if crew.isOpen id then none else some (.notFound (.openChannel id)) := by
  cases opens : crew.isOpen id with
  | false =>
    rw [close_of_closed opens]
    rfl
  | true =>
    obtain ⟨after, made, _⟩ := close_of_open opens
    rw [made]
    rfl

theorem errorOf_createChannel (crew : Crew) :
    errorOf crew.createChannel = if crew.maxChannels ≤ crew.openCount then
      some (.channelLimit crew.maxChannels) else none := by
  unfold createChannel
  split <;> rfl

/-- The default channel is refused only if it would have to be created and there is no room. A bind
to it is refused no more often, since the default channel is open. -/
theorem refusal?_of_asksDefault (tabled : crew.Tabled) {call : Call}
    (asks : call.asksDefault = true) :
    crew.refusal? call = if crew.default = none ∧ crew.maxChannels ≤ crew.openCount then
      some (.channelLimit crew.maxChannels) else none := by
  -- A bind first asks for the default channel, and that is open.
  have same : crew.refusal? call = errorOf crew.defaultChannel := by
    cases call with
    | defaultChannel => rfl
    | bind id resource =>
      cases id with
      | some id => cases asks
      | none =>
        rw [refusal?, bind]
        cases missing : crew.default with
        | some id =>
          simp only [defaultChannel_of_some missing, errorOf_bindTo, tabled.remembered id missing]
          rfl
        | none =>
          rcases Nat.lt_or_ge crew.openCount crew.maxChannels with room | full
          · obtain ⟨after, made, _⟩ := bind_of_room missing room resource
            simp only [bind] at made
            rw [made, defaultChannel_of_room missing room]
            rfl
          · rw [defaultChannel_of_full missing full]
            rfl
    | _ => cases asks
  rw [same]
  cases missing : crew.default with
  | some id =>
    rw [defaultChannel_of_some missing]
    simp [errorOf]
  | none =>
    rcases Nat.lt_or_ge crew.openCount crew.maxChannels with room | full
    · rw [defaultChannel_of_room missing room]
      simp [errorOf, room]
    · rw [defaultChannel_of_full missing full]
      simp [errorOf, full]

theorem refusal?_eq_some_iff (tabled : crew.Tabled) (call : Call) (error : Error) :
    crew.refusal? call = some error ↔ crew.Refused call error := by
  constructor
  · intro refused
    have asked : call.asksDefault = true → crew.Refused call error := by
      intro asks
      rw [refusal?_of_asksDefault tabled asks] at refused
      split at refused
      · next short =>
        cases refused
        exact .fullForDefault asks short.1 short.2
      · cases refused
    cases call with
    | createChannel =>
      rw [refusal?, errorOf_createChannel] at refused
      split at refused
      · next full =>
        cases refused
        exact .full full
      · cases refused
    | defaultChannel => exact asked rfl
    | close id =>
      rw [refusal?, errorOf_close] at refused
      split at refused
      · cases refused
      · next absent =>
        cases refused
        exact .unclosed (Bool.eq_false_iff.2 absent)
    | bind id resource =>
      cases id with
      | none => exact asked rfl
      | some id =>
        rw [refusal?, bind, errorOf_bindTo] at refused
        split at refused
        · cases refused
        · next absent =>
          cases refused
          exact .unbound resource (Bool.eq_false_iff.2 absent)
    | post id packet =>
      rw [refusal?, errorOf_post] at refused
      split at refused
      · cases refused
      · next absent =>
        cases refused
        exact .unposted packet (Bool.eq_false_iff.2 absent)
    | _ => cases refused
  · intro refused
    cases refused with
    | full full => rw [refusal?, errorOf_createChannel, if_pos full]
    | fullForDefault asks missing full =>
      rw [refusal?_of_asksDefault tabled asks, if_pos ⟨missing, full⟩]
    | unclosed absent => simp [refusal?, errorOf_close, absent]
    | unbound resource absent => simp [refusal?, bind, errorOf_bindTo, absent]
    | unposted packet absent => simp [refusal?, errorOf_post, absent]

theorem heed_of_refusal {call : Call} {error : Error} (refused : crew.refusal? call = some error) :
    crew.heed call = crew := by
  have unmade : ∀ {α : Type} {made : Except Error α}, errorOf made = some error →
      made = .error error := by
    intro α made
    cases made with
    | ok => exact fun none => by cases none
    | error => exact fun same => congrArg _ (Option.some.inj same)
  cases call with
  | createChannel | defaultChannel | close | bind | post =>
    rw [heed, unmade refused]
    rfl
  | _ => cases refused

/-! ### Runs -/

theorem Tabling.maxChannels {call : Call} {created : Option ChannelId} {table : Table}
    (step : Tabling crew call created table) : table.maxChannels = crew.maxChannels := by
  cases step <;> rfl

theorem maxChannels_heedAll (crew : Crew) (calls : List Call) :
    (crew.heedAll calls).maxChannels = crew.maxChannels := by
  induction calls generalizing crew with
  | nil => rfl
  | cons call rest ih => exact (ih (crew.heed call)).trans (crew.tabling_heed call).maxChannels

theorem value_le_of_mem_createdIn {start : Crew} (unused : start.opened = 0) {calls : List Call}
    (inside : id ∈ start.createdIn calls) : id.value ≤ (start.createdIn calls).length := by
  rw [(start.createdIn_eq calls).1, unused] at inside
  obtain ⟨value, range, rfl⟩ := List.mem_map.1 inside
  exact Nat.le_of_lt_succ (by simpa [Nat.add_comm] using (List.mem_range'_1.1 range).2)

theorem not_mem_createdIn {start : Crew} (unused : start.opened = 0) (calls : List Call) :
    ⟨(start.heedAll calls).opened + 1⟩ ∉ start.createdIn calls := by
  intro inside
  have low := value_le_of_mem_createdIn unused inside
  rw [(start.createdIn_eq calls).2, unused] at low
  simp only at low
  omega

theorem nodup_createdIn (start : Crew) (calls : List Call) : (start.createdIn calls).Nodup := by
  rw [(start.createdIn_eq calls).1]
  refine List.Pairwise.map _ (fun _ _ apart same => ?_) List.nodup_range'
  exact apart (congrArg ChannelId.value same)

/-- Along any run, no more channels are open than may be, every channel that is created has another
number than those before it, and the default channel that is remembered is open. Whoever asks for
the default channel gets the same one until that is closed, and the next one is new. A call is
refused only for want of room or of an open channel, and then it changes nothing. -/
theorem channels_tabled (maxChannels minThreads maxThreads : Nat) (calls : List Call) :
    let start : Crew := { maxChannels, minThreads, maxThreads }
    let crew := start.heedAll calls
    crew.openCount ≤ maxChannels ∧
    ((start.createdIn calls).Nodup ∧
      ∀ id ∈ start.createdIn calls, id.value ≤ (start.createdIn calls).length) ∧
    (∀ id, crew.default = some id → crew.isOpen id = true) ∧
    (∀ id after, crew.defaultChannel = .ok (id, after) →
      ∀ later, (∀ call ∈ later, call.closes id = false) →
        (after.heedAll later).defaultChannel = .ok (id, after.heedAll later) ∧
        ∀ call, call.closes id = true →
          ∀ next last, ((after.heedAll later).heed call).defaultChannel = .ok (next, last) →
            next ∉ start.createdIn (calls ++ .defaultChannel :: later ++ [call])) ∧
    (∀ call error, crew.refusal? call = some error ↔ crew.Refused call error) ∧
    ∀ call error, crew.refusal? call = some error → crew.heed call = crew := by
  intro start crew
  have tabled : crew.Tabled := (Tabled.start maxChannels minThreads maxThreads).heedAll calls
  have room : crew.maxChannels = maxChannels := start.maxChannels_heedAll calls
  refine ⟨room ▸ tabled.bounded, ⟨start.nodup_createdIn calls, ?_⟩, tabled.remembered, ?_, ?_, ?_⟩
  · exact fun id inside => value_le_of_mem_createdIn rfl inside
  · intro id after made later kept
    obtain ⟨same, remembered⟩ := default_of_defaultChannel made
    have open_ : after.Tabled := same ▸ tabled.heed .defaultChannel
    have still := default_heedAll open_ remembered kept
    refine ⟨defaultChannel_of_some still, fun call closes next last again => ?_⟩
    have gone := default_heed (open_.heedAll later) still call
    rw [if_pos closes] at gone
    have reached : start.heedAll (calls ++ .defaultChannel :: later ++ [call]) =
        (after.heedAll later).heed call := by
      rw [heedAll_append, heedAll_append, ← same]
      rfl
    rcases Nat.lt_or_ge _ _ with free | full
    · cases (defaultChannel_of_room gone free).symm.trans again
      rw [← reached]
      exact not_mem_createdIn rfl _
    · cases (defaultChannel_of_full gone full).symm.trans again
  · exact refusal?_eq_some_iff tabled
  · exact fun call error refused => heed_of_refusal refused

end Crew

end Steward.Completion
