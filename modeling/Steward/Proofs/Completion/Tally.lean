import Mathlib.Algebra.BigOperators.Group.Finset.Basic
import Steward.Proofs.Completion.Order

/-! The counters of a crew. What is counted for the crew, for each channel and of those who are busy
is what one finds by looking at the workers, and a channel in use is never left without one. -/

set_option autoImplicit false

namespace Steward.Completion

namespace Worker

def isOn (id : ChannelId) (worker : Worker) : Bool := decide (worker.channel = id)

def isBusy (worker : Worker) : Bool := decide (worker.duty ≠ .waiting)

def isHandling (worker : Worker) : Bool :=
  match worker.duty with
  | .handling _ _ => true
  | .starting | .waiting => false

end Worker

namespace Crew

def workersAt (crew : Crew) (id : ChannelId) : Nat :=
  (crew.channels.get? id).elim 0 Channel.workers

/-- The counters agree with the workers that there are, and a channel that something was bound to is
closed or has a worker. -/
structure Tallied (deeds : List Deed) (crew : Crew) : Prop where
  unhired : ∀ serial, crew.hired ≤ serial → crew.workers.get? serial = none
  threads : crew.threads = crew.workers.count fun _ => true
  busy : crew.busy = crew.workers.count Worker.isBusy
  served : ∀ id, crew.workersAt id = crew.workers.count (Worker.isOn id)
  manned : ∀ id, .bound id ∈ deeds → crew.shutAt id = true ∨ 1 ≤ crew.workersAt id

variable {crew after : Crew} {before deeds : List Deed}

theorem workersAt_of {id : ChannelId} {channel : Channel}
    (there : crew.channels.get? id = some channel) : crew.workersAt id = channel.workers := by
  rw [workersAt, there, Option.elim_some]

theorem workersAt_modify {id : ChannelId} {channel : Channel} {change : Channel → Channel}
    (there : crew.channels.get? id = some channel)
    (channels : after.channels = crew.channels.modify id change) (other : ChannelId) :
    after.workersAt other =
      if other = id then (change channel).workers else crew.workersAt other := by
  rw [workersAt, channels]
  by_cases here : other = id
  · rw [if_pos here, here, Assoc.get?_modify_self, there, Option.map_some, Option.elim_some]
  · rw [if_neg here, Assoc.get?_modify_of_ne _ here, workersAt]

theorem workersAt_insert {id : ChannelId} {old channel : Channel}
    (found : crew.channels.get? id = some old)
    (channels : after.channels = crew.channels.insert id channel)
    (workers : channel.workers = old.workers) (other : ChannelId) :
    after.workersAt other = crew.workersAt other := by
  rw [workersAt, channels, elim_insert]
  split
  · next here => rw [here, workersAt_of found, workers]
  · rfl

theorem workersAt_hire {id : ChannelId} {channel : Channel}
    (there : crew.channels.get? id = some channel) (other : ChannelId) :
    (crew.hire id).workersAt other = crew.workersAt other + (decide (id = other)).toNat := by
  rw [workersAt_modify there (channels_hire crew id)]
  split
  · next here =>
    subst here
    simp [workersAt_of there]
  · next apart => simp [Ne.symm apart]

theorem workersAt_discharge {id : ChannelId} {channel : Channel} (serial : Nat)
    (there : crew.channels.get? id = some channel) (other : ChannelId) :
    (crew.discharge serial id).workersAt other =
      crew.workersAt other - (decide (id = other)).toNat := by
  rw [workersAt_modify there (channels_discharge crew serial id)]
  split
  · next here =>
    subst here
    simp [workersAt_of there]
  · next apart => simp [Ne.symm apart]

theorem workersAt_bind (crew : Crew) (id : ChannelId) (resource : ResourceId) (other : ChannelId) :
    ({ crew with
      channels := crew.channels.modify id fun channel => channel.bind resource } : Crew).workersAt
        other = crew.workersAt other :=
  elim_modify _ _ _ _ _ fun channel => channel.workers_bind resource

namespace Tallied

/-- No channel opens again, and none that is in use is left alone. -/
theorem keep (tallied : Tallied before crew) (lasts : Lasts crew after)
    (workers : ∀ id, 1 ≤ crew.workersAt id → after.shutAt id = true ∨ 1 ≤ after.workersAt id)
    (unbound : ∀ id, .bound id ∉ deeds) (id : ChannelId) (inside : .bound id ∈ before ++ deeds) :
    after.shutAt id = true ∨ 1 ≤ after.workersAt id := by
  rcases List.mem_append.1 inside with bound | now
  · rcases tallied.manned id bound with shut | some_
    · exact .inl (shutAt_of_lasts lasts shut)
    · exact workers id some_
  · exact absurd now (unbound id)

/-- Only the channels change, and on each there are as many workers as before. -/
theorem aside (tallied : Tallied before crew) (lasts : Lasts crew after)
    (unbound : ∀ id, .bound id ∉ deeds) (workers : after.workers = crew.workers)
    (hired : after.hired = crew.hired) (threads : after.threads = crew.threads)
    (busy : after.busy = crew.busy) (served : ∀ id, after.workersAt id = crew.workersAt id) :
    Tallied (before ++ deeds) after := by
  refine ⟨?_, ?_, ?_, fun id => ?_, tallied.keep lasts (fun id some_ => ?_) unbound⟩
  · rw [workers, hired]
    exact tallied.unhired
  · rw [workers, threads, tallied.threads]
  · rw [workers, busy, tallied.busy]
  · rw [workers, served, tallied.served]
  · exact .inr (served id ▸ some_)

/-- A worker goes from one duty to another. -/
theorem turn (tallied : Tallied before crew) (lasts : Lasts crew after)
    (unbound : ∀ id, .bound id ∉ deeds) {serial : Nat} {id : ChannelId} {old duty : Duty}
    (found : crew.workers.get? serial = some ⟨id, old⟩)
    (workers : after.workers = crew.workers.insert serial ⟨id, duty⟩)
    (hired : after.hired = crew.hired) (threads : after.threads = crew.threads)
    (busy : after.busy =
      crew.busy + (Worker.isBusy ⟨id, duty⟩).toNat - (Worker.isBusy ⟨id, old⟩).toNat)
    (served : ∀ id, after.workersAt id = crew.workersAt id) : Tallied (before ++ deeds) after := by
  have counts (test : Worker → Bool) := Assoc.count_insert_add found ⟨id, duty⟩ test
  refine ⟨fun other unhired => ?_, ?_, ?_, fun other => ?_,
    tallied.keep lasts (fun id some_ => ?_) unbound⟩
  · have absent := tallied.unhired other (hired ▸ unhired)
    have apart : other ≠ serial := by
      rintro rfl
      exact Option.some_ne_none _ (found.symm.trans absent)
    rw [workers, Assoc.get?_insert_of_ne _ apart, absent]
  · have all := counts fun _ => true
    have before := tallied.threads
    rw [workers, threads]
    omega
  · have doing := counts Worker.isBusy
    have before := tallied.busy
    rw [workers, busy]
    omega
  · have here := counts (Worker.isOn other)
    have before := tallied.served other
    have same : Worker.isOn other ⟨id, duty⟩ = Worker.isOn other ⟨id, old⟩ := rfl
    rw [same] at here
    rw [workers, served]
    omega
  · exact .inr (served id ▸ some_)

theorem hire (tallied : Tallied before crew) {id : ChannelId} {channel : Channel}
    (lasts : Lasts crew (crew.hire id)) (there : crew.channels.get? id = some channel) :
    Tallied before (crew.hire id) := by
  have absent := tallied.unhired crew.hired (Nat.le_refl _)
  have counts (test : Worker → Bool) :
      (crew.hire id).workers.count test =
        crew.workers.count test + (test { channel := id }).toNat :=
    Assoc.count_insert_new absent _ test
  refine ⟨fun serial unhired => ?_, ?_, ?_, fun other => ?_, fun other bound => ?_⟩
  · have apart : serial ≠ crew.hired := Nat.ne_of_gt (Nat.lt_of_succ_le unhired)
    exact (Assoc.get?_insert_of_ne _ apart _).trans
      (tallied.unhired serial (Nat.le_of_succ_le unhired))
  · exact (congrArg (· + 1) tallied.threads).trans (counts fun _ => true).symm
  · exact (congrArg (· + 1) tallied.busy).trans (counts Worker.isBusy).symm
  · rw [counts, workersAt_hire there, tallied.served]
    rfl
  · refine (tallied.manned other bound).imp (shutAt_of_lasts lasts) fun some_ => ?_
    rw [workersAt_hire there]
    exact Nat.le_add_right_of_le some_

theorem discharge (tallied : Tallied before crew) {serial : Nat} {id : ChannelId}
    {channel : Channel} (lasts : Lasts crew (crew.discharge serial id))
    (found : crew.workers.get? serial = some ⟨id, .waiting⟩)
    (there : crew.channels.get? id = some channel)
    (may : channel.isClosed = true ∨ crew.isSpare channel = true) :
    Tallied before (crew.discharge serial id) := by
  have counts (test : Worker → Bool) :
      (crew.discharge serial id).workers.count test + (test ⟨id, .waiting⟩).toNat =
        crew.workers.count test := Assoc.count_erase_add found test
  refine ⟨fun other unhired => ?_, ?_, ?_, fun other => ?_, fun other bound => ?_⟩
  · refine (Assoc.get?_erase _ _ _).trans ?_
    split
    · rfl
    · exact tallied.unhired other unhired
  · exact Nat.sub_eq_of_eq_add (tallied.threads.trans (counts fun _ => true).symm)
  · exact tallied.busy.trans (counts Worker.isBusy).symm
  · rw [workersAt_discharge serial there, tallied.served other]
    exact Nat.sub_eq_of_eq_add (counts (Worker.isOn other)).symm
  · rcases tallied.manned other bound with shut | some_
    · exact .inl (shutAt_of_lasts lasts shut)
    · rw [workersAt_discharge serial there]
      by_cases here : id = other
      · -- The channel is closed and needs nobody, or the worker was not its last.
        subst here
        rcases may with closed | spare
        · refine .inl (shutAt_of_lasts lasts ?_)
          rw [shutAt, there, Option.elim_some, closed]
        · simp only [isSpare, Bool.and_eq_true, decide_eq_true_eq] at spare
          rw [workersAt_of there]
          simp only [decide_true, Bool.toNat_true]
          omega
      · right
        simpa [here] using some_

theorem bound (tallied : Tallied before crew) {id : ChannelId} (some_ : 1 ≤ crew.workersAt id) :
    Tallied (before ++ [.bound id]) crew := by
  refine { tallied with manned := fun other inside => ?_ }
  rcases List.mem_append.1 inside with earlier | now
  · exact tallied.manned other earlier
  · cases List.mem_singleton.1 now
    exact .inr some_

theorem move (move : Move crew deeds after) (sound : Sound crew) (tallied : Tallied before crew) :
    Tallied (before ++ deeds) after := by
  have lasts := lasts_move move sound
  cases move with
  | set => exact tallied.aside lasts nofun rfl rfl rfl rfl fun _ => rfl
  | registered _ | asked => exact tallied.aside lasts (by simp) rfl rfl rfl rfl fun _ => rfl
  | opened => exact tallied.aside lasts nofun rfl rfl rfl rfl (sound.elim_opened rfl)
  | closed found | posted found _ _ =>
    exact tallied.aside lasts (by simp) rfl rfl rfl rfl (workersAt_insert found rfl rfl)
  | closedAll =>
    refine tallied.aside lasts (by simp) rfl rfl rfl rfl fun id => ?_
    rw [workersAt, Assoc.get?_mapValues, workersAt]
    cases crew.channels.get? id <;> rfl
  | hired there =>
    rw [List.append_nil]
    exact tallied.hire lasts there
  | @bound id channel there served resource =>
    have changed := tallied.aside lasts (fun _ => List.not_mem_nil) rfl rfl rfl rfl
      (crew.workersAt_bind id resource)
    rw [List.append_nil] at changed
    refine changed.bound ?_
    rw [workersAt_bind, workersAt_of there]
    exact served
  | settled found => exact tallied.turn lasts nofun found rfl rfl rfl rfl fun _ => rfl
  | freed found => exact tallied.turn lasts nofun found rfl rfl rfl rfl fun _ => rfl
  | took found there _ held =>
    exact tallied.turn lasts (by simp) found rfl rfl rfl rfl (workersAt_insert there rfl rfl)
  | gone found there may =>
    rw [List.append_nil]
    exact tallied.discharge lasts found there may

end Tallied

/-! ### All channels together -/

/-- Every worker is counted at one channel. -/
theorem sum_countP_isOn (workers : List Worker) {ids : List ChannelId} (distinct : ids.Nodup)
    (housed : ∀ worker ∈ workers, worker.channel ∈ ids) :
    (ids.map fun id => workers.countP (Worker.isOn id)).sum = workers.length := by
  let places : Multiset ChannelId := (workers.map Worker.channel : List ChannelId)
  have counted (id : ChannelId) : workers.countP (Worker.isOn id) = places.count id := by
    rw [Multiset.coe_count, List.count, List.countP_map]
    exact List.countP_congr fun worker _ => by simp [Worker.isOn]
  have inside : ∀ id ∈ places, id ∈ ids.toFinset := by
    intro id there
    obtain ⟨worker, member, rfl⟩ := List.mem_map.1 (Multiset.mem_coe.1 there)
    exact List.mem_toFinset.2 (housed worker member)
  simp only [counted]
  rw [← List.sum_toFinset _ distinct, Multiset.sum_count_eq_card inside, Multiset.coe_card,
    List.length_map]

theorem Tallied.threads_eq_total (tallied : Tallied deeds crew) (sound : Sound crew) :
    crew.threads = crew.channels.total Channel.workers := by
  have each : (crew.channels.entries.map fun entry => entry.2.workers) =
      crew.channels.keys.map fun id => crew.workers.values.countP (Worker.isOn id) := by
    rw [Assoc.keys, List.map_map]
    refine List.map_congr_left fun entry inside => ?_
    rw [← workersAt_of (Assoc.get?_of_mem inside), tallied.served]
    rfl
  have housed : ∀ worker ∈ crew.workers.values, worker.channel ∈ crew.channels.keys := by
    intro worker inside
    obtain ⟨⟨serial, _⟩, member, rfl⟩ := List.mem_map.1 inside
    obtain ⟨channel, there⟩ := sound.housed serial _ (Assoc.get?_of_mem member)
    exact List.mem_map_of_mem (Assoc.mem_of_get? there)
  have distinct : crew.channels.keys.Nodup := crew.channels.distinct
  rw [Assoc.total, each, sum_countP_isOn _ distinct housed, tallied.threads,
    ← Assoc.size_eq_count, Assoc.size, Assoc.values, List.length_map]

/-! ### Who leaves -/

/-- Nobody leaves. -/
def Keeps (crew after : Crew) : Prop :=
  ∀ serial, after.workers.get? serial = none → crew.workers.get? serial = none

theorem keeps_same (workers : after.workers = crew.workers) : Keeps crew after :=
  fun _ gone => workers ▸ gone

theorem keeps_insert {serial : Nat} {worker : Worker}
    (workers : after.workers = crew.workers.insert serial worker) : Keeps crew after := by
  intro other gone
  rw [workers, Assoc.get?_insert] at gone
  split at gone
  · cases gone
  · exact gone

theorem keeps_made {α : Type} {made : Except Error (α × Crew)}
    (keeps : ∀ result after, made = .ok (result, after) → Keeps crew after) :
    Keeps crew (crew.orElse (made.map Prod.snd)) := by
  cases made with
  | error error => exact keeps_same rfl
  | ok pair => exact keeps pair.1 pair.2 rfl

theorem workers_createChannel {id : ChannelId} (made : crew.createChannel = .ok (id, after)) :
    after.workers = crew.workers := by
  unfold createChannel at made
  split at made
  · cases made
  · cases made
    rfl

theorem workers_defaultChannel {id : ChannelId} (made : crew.defaultChannel = .ok (id, after)) :
    after.workers = crew.workers := by
  unfold defaultChannel at made
  split at made
  · cases made
    rfl
  · split at made
    · cases made
    · next created =>
      cases made
      have same := workers_createChannel created
      exact same

theorem keeps_staff (crew : Crew) (id : ChannelId) (channel : Channel) :
    Keeps crew (crew.staff id channel) := by
  unfold staff
  split
  · exact keeps_insert rfl
  · split
    · exact keeps_insert rfl
    · exact keeps_same rfl

theorem keeps_bindTo {id : ChannelId} {resource : ResourceId} {binding : Binding}
    (made : crew.bindTo id resource = .ok (binding, after)) : Keeps crew after := by
  unfold bindTo at made
  split at made
  · cases made
  · next channel _ =>
    cases made
    exact crew.keeps_staff id channel

theorem keeps_bind {id : Option ChannelId} {resource : ResourceId} {binding : Binding}
    (made : crew.bind id resource = .ok (binding, after)) : Keeps crew after := by
  unfold bind at made
  split at made
  · exact keeps_bindTo made
  · split at made
    · cases made
    · next opened found =>
      intro serial gone
      rw [← workers_defaultChannel found]
      exact keeps_bindTo made serial gone

/-- A worker goes alone. It waited for a channel that is closed, or it retires: its channel has
another worker and the crew is above its floor. -/
def Departs (crew after : Crew) (serial : Nat) (worker : Worker) : Prop :=
  after.workers = crew.workers.erase serial ∧
    (worker.duty = .waiting ∧ crew.shutAt worker.channel = true ∨
      1 < crew.workersAt worker.channel ∧ crew.minThreads < crew.threads)

/-- At most one worker leaves. -/
def Parts (crew after : Crew) : Prop :=
  Keeps crew after ∨
    ∃ serial worker, crew.workers.get? serial = some worker ∧ Departs crew after serial worker

theorem departs_of_parts (parts : Parts crew after) {serial : Nat} {worker : Worker}
    (found : crew.workers.get? serial = some worker) (gone : after.workers.get? serial = none) :
    Departs crew after serial worker := by
  rcases parts with keeps | ⟨other, departed, there, departs⟩
  · exact absurd (found.symm.trans (keeps serial gone)) (Option.some_ne_none worker)
  · have same : serial = other := by
      by_contra apart
      rw [departs.1, Assoc.get?_erase_of_ne _ apart, found] at gone
      cases gone
    subst same
    rw [found] at there
    cases there
    exact departs

theorem bounds_of_spare {id : ChannelId} {channel : Channel}
    (there : crew.channels.get? id = some channel) (spare : crew.isSpare channel = true) :
    1 < crew.workersAt id ∧ crew.minThreads < crew.threads := by
  simp only [isSpare, Bool.and_eq_true, decide_eq_true_eq] at spare
  rw [workersAt_of there]
  exact ⟨spare.1.2, spare.2⟩

theorem parts_finish (crew : Crew) (serial : Nat) : Parts crew (crew.finish serial) := by
  unfold finish
  split
  · next id packet held found =>
    simp only
    split
    · next channel there =>
      split
      · next spare =>
        exact .inr ⟨serial, _, found, rfl, .inr (bounds_of_spare there spare)⟩
      · exact .inl (keeps_insert rfl)
    · exact .inl (keeps_same rfl)
  · exact .inl (keeps_same rfl)

theorem parts_lapse (crew : Crew) (serial : Nat) : Parts crew (crew.lapse serial) := by
  unfold lapse
  split
  · next id found =>
    split
    · next channel there =>
      split
      · next spare =>
        exact .inr ⟨serial, _, found, rfl, .inr (bounds_of_spare there spare)⟩
      · exact .inl (keeps_same rfl)
    · exact .inl (keeps_same rfl)
  · exact .inl (keeps_same rfl)

theorem parts_step {serial : Nat} (step : Step crew serial deeds after) : Parts crew after := by
  cases step with
  | stays _ => exact .inl (keeps_same rfl)
  | settled _ | freed _ | took _ _ _ _ _ => exact .inl (keeps_insert rfl)
  | @retired id packet channel found there spare =>
    exact .inr ⟨serial, _, found, rfl, .inr (bounds_of_spare there spare)⟩
  | @left id channel found there closed =>
    refine .inr ⟨serial, _, found, rfl, .inl ⟨rfl, ?_⟩⟩
    rw [shutAt, there, Option.elim_some, closed]

theorem parts_heed (crew : Crew) (call : Call) : Parts crew (crew.heed call) := by
  cases call with
  | createChannel =>
    exact .inl (keeps_made fun _ _ made => keeps_same (workers_createChannel made))
  | defaultChannel =>
    exact .inl (keeps_made fun _ _ made => keeps_same (workers_defaultChannel made))
  | bind id resource => exact .inl (keeps_made fun _ _ made => keeps_bind made)
  | close id =>
    refine .inl (keeps_same ?_)
    simp only [heed, close]
    split <;> rfl
  | post id packet =>
    refine .inl (keeps_same ?_)
    simp only [heed, post]
    split <;> rfl
  | work serial => exact parts_step (crew.step_work serial)
  | lapse serial => exact crew.parts_lapse serial
  | letGo context =>
    simp only [heed]
    split
    · exact crew.parts_finish _
    · exact .inl (keeps_same rfl)
  | register _ | setMin _ | setMax _ | shutdown | takeSeen => exact .inl (keeps_same rfl)

/-! ### Runs -/

theorem Tallied.start (maxChannels minThreads maxThreads : Nat) :
    Tallied [] { maxChannels, minThreads, maxThreads } :=
  ⟨fun _ _ => rfl, rfl, rfl, fun _ => rfl, nofun⟩

theorem Tallied.moves (tallied : Tallied before crew) (sound : Sound crew)
    (moves : Moves crew deeds after) : Tallied (before ++ deeds) after := by
  have both := @Moves.induction crew after (fun deeds crew => Sound crew ∧ Tallied deeds crew)
    (fun _ _ _ _ move held => ⟨held.1.move move, Tallied.move move held.1 held.2⟩) _ _ moves
    ⟨sound, tallied⟩
  exact both.2

/-- Everybody is gone in the end, and nobody is counted any more. -/
theorem Tallied.ended (tallied : Tallied deeds crew) (settled : Settled crew) (ended : Ended crew)
    (rest : crew.AtRest) : crew.threads = 0 ∧ crew.busy = 0 := by
  have nobody (test : Worker → Bool) : crew.workers.count test = 0 := by
    rw [Assoc.count_eq_total]
    refine Assoc.total_eq_zero _ fun entry inside => ?_
    have found := Assoc.get?_of_mem inside
    rw [absent_of_ended settled ended rest] at found
    cases found
  exact ⟨tallied.threads.trans (nobody _), tallied.busy.trans (nobody _)⟩

/-- What the counters of a crew say, whatever was asked of it. -/
structure Counted (deeds : List Deed) (crew : Crew) : Prop where
  /-- The channels count as many workers as the crew, those that are closed included. -/
  threads : crew.threads = crew.channels.total Channel.workers
  alive : crew.threads = crew.workers.size
  served : ∀ id channel, crew.channels.get? id = some channel →
    channel.workers = crew.workers.count (Worker.isOn id)
  /-- Once nobody is about to start, the busy ones are those who handle a completion. -/
  busy : (∀ serial id, crew.workers.get? serial ≠ some ⟨id, .starting⟩) →
    crew.busy = crew.workers.count Worker.isHandling
  manned : ∀ id, .bound id ∈ deeds → crew.shutAt id = false →
    1 ≤ crew.workers.count (Worker.isOn id)
  /-- A worker that goes waited for a closed channel, or leaves another one behind on its channel
  and a crew that was above its floor. -/
  departs : ∀ call serial worker, crew.workers.get? serial = some worker →
    (crew.heed call).workers.get? serial = none →
      (crew.heed call).workers = crew.workers.erase serial ∧
        (worker.duty = .waiting ∧ crew.shutAt worker.channel = true ∨
          1 ≤ (crew.heed call).workers.count (Worker.isOn worker.channel) ∧
            crew.minThreads < crew.threads)
  /-- When every channel is closed and no callback is held, a crew that rests is empty, and it comes
  to rest. -/
  ended : (∀ id channel, crew.channels.get? id = some channel → channel.isClosed = true) →
    (∀ serial id packet, crew.workers.get? serial ≠ some ⟨id, .handling packet true⟩) →
    (crew.AtRest → crew.threads = 0 ∧ crew.busy = 0) ∧
      crew.rest.AtRest ∧ crew.rest.threads = 0 ∧ crew.rest.busy = 0

theorem Tallied.busy_eq (tallied : Tallied deeds crew)
    (begun : ∀ serial id, crew.workers.get? serial ≠ some ⟨id, .starting⟩) :
    crew.busy = crew.workers.count Worker.isHandling := by
  rw [tallied.busy, Assoc.count_eq_total, Assoc.count_eq_total]
  refine Assoc.total_congr _ fun entry inside => ?_
  obtain ⟨serial, id, duty⟩ := entry
  cases duty with
  | starting => exact absurd (Assoc.get?_of_mem inside) (begun serial id)
  | waiting | handling _ _ => rfl

theorem Tallied.departs (tallied : Tallied deeds crew) {serial : Nat} {worker : Worker}
    (found : crew.workers.get? serial = some worker) (departs : Departs crew after serial worker) :
    after.workers = crew.workers.erase serial ∧
      (worker.duty = .waiting ∧ crew.shutAt worker.channel = true ∨
        1 ≤ after.workers.count (Worker.isOn worker.channel) ∧ crew.minThreads < crew.threads) := by
  obtain ⟨alone, why⟩ := departs
  refine ⟨alone, why.imp_right fun ⟨others, above⟩ => ⟨?_, above⟩⟩
  have apart := Assoc.count_erase_add found (Worker.isOn worker.channel)
  have itself : Worker.isOn worker.channel worker = true := decide_eq_true rfl
  rw [itself, Bool.toNat_true, ← alone] at apart
  rw [tallied.served] at others
  omega

theorem ended_of_closed (sound : Sound crew)
    (closed : ∀ id channel, crew.channels.get? id = some channel → channel.isClosed = true)
    (free : ∀ serial id packet, crew.workers.get? serial ≠ some ⟨id, .handling packet true⟩) :
    Ended crew := by
  refine ⟨fun serial worker found => ?_, free⟩
  obtain ⟨channel, there⟩ := sound.housed serial worker found
  rw [shutAt, there, Option.elim_some, closed _ channel there]

/-- The counters of a crew agree with its workers after any calls. -/
theorem workers_counted (maxChannels minThreads maxThreads : Nat) (calls : List Call) :
    let start : Crew := { maxChannels, minThreads, maxThreads }
    Counted (start.deedsIn calls) (start.heedAll calls) := by
  intro start
  have settled := (traced_heedAll maxChannels minThreads maxThreads calls).settled
  have tallied : Tallied (start.deedsIn calls) (start.heedAll calls) :=
    (Tallied.start _ _ _).moves (.start _ _ _) (start.moves_heedAll calls)
  generalize start.heedAll calls = crew at settled tallied
  refine ⟨tallied.threads_eq_total settled.sound,
    tallied.threads.trans (Assoc.size_eq_count _).symm, fun id channel there => ?_,
    tallied.busy_eq, fun id bound opens => ?_, fun call serial worker found gone => ?_,
    fun closed free => ?_⟩
  · rw [← workersAt_of there, tallied.served]
  · rcases tallied.manned id bound with shut | some_
    · rw [shut] at opens
      cases opens
    · exact tallied.served id ▸ some_
  · exact tallied.departs found (departs_of_parts (crew.parts_heed call) found gone)
  · have ended := ended_of_closed settled.sound closed free
    have rests := atRest_rest settled
    obtain ⟨_, moves⟩ := crew.moves_rest
    have later := tallied.moves settled.sound moves
    exact ⟨tallied.ended settled ended, rests, later.ended settled.rest ended.rest rests⟩

end Crew

end Steward.Completion
