import Steward.Proofs.Completion.Check

/-! How a crew grows. A channel in use gets another worker only while every worker is busy and the
crew is below its cap. First workers are hired regardless, and they alone take a crew past it. -/

set_option autoImplicit false

namespace Steward.Completion.Crew

/-- Nobody waits for a completion. -/
def Saturated (crew : Crew) : Prop :=
  ∀ serial worker, crew.workers.get? serial = some worker → worker.duty ≠ .waiting

/-- The channels that have a worker. A closed one has them until they leave. -/
def manned (crew : Crew) : List ChannelId :=
  crew.channels.keys.filter fun id => 1 ≤ crew.workers.count (Worker.isOn id)

/-- A single new worker is on the channel. -/
structure Joined (crew after : Crew) (id : ChannelId) : Prop where
  workers : after.workers = crew.workers.insert crew.hired { channel := id }
  threads : after.threads = crew.threads + 1
  served : ∀ other, after.workersAt other = crew.workersAt other + (decide (id = other)).toNat

/-- Nobody has come, and somebody may have gone. -/
structure Sheds (crew after : Crew) : Prop where
  threads : after.threads ≤ crew.threads
  served : ∀ id, after.workersAt id ≤ crew.workersAt id

variable {crew middle after : Crew} {deeds before : List Deed} {id : ChannelId}

/-! ### Calls that hire nobody -/

theorem Sheds.refl (crew : Crew) : Sheds crew crew := ⟨Nat.le_refl _, fun _ => Nat.le_refl _⟩

theorem Sheds.trans (first : Sheds crew middle) (second : Sheds middle after) :
    Sheds crew after :=
  ⟨second.threads.trans first.threads, fun id => (second.served id).trans (first.served id)⟩

theorem sheds_of_same (threads : after.threads = crew.threads)
    (served : ∀ id, after.workersAt id = crew.workersAt id) : Sheds crew after :=
  ⟨Nat.le_of_eq threads, fun id => Nat.le_of_eq (served id)⟩

/-- A move hires somebody, or nobody comes. -/
theorem sheds_move (move : Move crew deeds after) (sound : Sound crew) :
    after.hired = crew.hired + 1 ∨ after.hired = crew.hired ∧ Sheds crew after := by
  cases move with
  | hired _ => exact .inl rfl
  | set | registered _ | settled _ | freed _ | asked =>
    exact .inr ⟨rfl, sheds_of_same rfl fun _ => rfl⟩
  | opened => exact .inr ⟨rfl, sheds_of_same rfl (sound.elim_opened rfl)⟩
  | closed found | posted found _ _ | took _ found _ _ =>
    exact .inr ⟨rfl, sheds_of_same rfl (workersAt_insert found rfl rfl)⟩
  | closedAll =>
    refine .inr ⟨rfl, sheds_of_same rfl fun id => ?_⟩
    rw [workersAt, Assoc.get?_mapValues, workersAt]
    cases crew.channels.get? id <;> rfl
  | bound _ _ resource => exact .inr ⟨rfl, sheds_of_same rfl (crew.workersAt_bind _ resource)⟩
  | gone found there may =>
    refine .inr ⟨rfl, Nat.sub_le _ _, fun id => ?_⟩
    rw [workersAt_discharge _ there]
    exact Nat.sub_le _ _

/-- Serials are given out at hiring, so that nobody comes as long as none is. -/
theorem sheds_moves (moves : Moves crew deeds after) :
    Sound crew → crew.hired ≤ after.hired ∧ (after.hired = crew.hired → Sheds crew after) := by
  induction moves with
  | none => exact fun _ => ⟨Nat.le_refl _, fun _ => .refl _⟩
  | more earlier last ih =>
    intro sound
    obtain ⟨before, sheds⟩ := ih sound
    rcases sheds_move last (sound.moves earlier) with one | ⟨nobody, later⟩
    · exact ⟨by omega, fun same => absurd same (by omega)⟩
    · exact ⟨nobody ▸ before, fun same => (sheds (nobody ▸ same)).trans later⟩

theorem hired_createChannel (made : crew.createChannel = .ok (id, after)) :
    after.hired = crew.hired := by
  unfold createChannel at made
  split at made
  · cases made
  · cases made
    rfl

theorem hired_defaultChannel (made : crew.defaultChannel = .ok (id, after)) :
    after.hired = crew.hired := by
  unfold defaultChannel at made
  split at made
  · cases made
    rfl
  · split at made
    · cases made
    · next created =>
      cases made
      have same := hired_createChannel created
      exact same

theorem hired_made {α : Type} {made : Except Error (α × Crew)}
    (same : ∀ result after, made = .ok (result, after) → after.hired = crew.hired) :
    (crew.orElse (made.map Prod.snd)).hired = crew.hired := by
  cases made with
  | error error => rfl
  | ok pair => exact same pair.1 pair.2 rfl

theorem hired_finish (crew : Crew) (serial : Nat) : (crew.finish serial).hired = crew.hired := by
  unfold finish
  split
  · simp only
    split
    · split <;> rfl
    · rfl
  · rfl

theorem hired_step {serial : Nat} (step : Step crew serial deeds after) :
    after.hired = crew.hired := by
  cases step <;> rfl

/-- Nobody comes but at a bind. -/
theorem sheds_heed (sound : Sound crew) (call : Call)
    (unbound : ∀ id resource, call ≠ .bind id resource) : Sheds crew (crew.heed call) := by
  refine (sheds_moves (crew.moves_heed call) sound).2 ?_
  cases call with
  | bind id resource => exact absurd rfl (unbound id resource)
  | createChannel => exact hired_made fun _ _ made => hired_createChannel made
  | defaultChannel => exact hired_made fun _ _ made => hired_defaultChannel made
  | close id =>
    simp only [heed, close]
    split <;> rfl
  | post id packet =>
    simp only [heed, post]
    split <;> rfl
  | work serial => exact hired_step (crew.step_work serial)
  | lapse serial =>
    simp only [heed, lapse]
    split
    · split
      · split <;> rfl
      · rfl
    · rfl
  | letGo context =>
    simp only [heed]
    split
    · exact crew.hired_finish _
    · rfl
  | register _ | setMin _ | setMax _ | shutdown | takeSeen => rfl

/-! ### Binds -/

/-- What a bind to a channel does to the crew. -/
inductive Recruits (crew : Crew) (id : ChannelId) (after : Crew) : Prop where
  | first (alone : crew.workersAt id = 0) (joined : Joined crew after id)
  | further (served : 1 ≤ crew.workersAt id) (busy : crew.busy = crew.threads)
      (room : crew.threads < crew.maxThreads) (joined : Joined crew after id)
  | nobody (served : 1 ≤ crew.workersAt id)
      (full : ¬(crew.busy = crew.threads ∧ crew.threads < crew.maxThreads))
      (workers : after.workers = crew.workers) (threads : after.threads = crew.threads)
      (same : ∀ other, after.workersAt other = crew.workersAt other)

theorem joined_hire {channel : Channel} (there : crew.channels.get? id = some channel) :
    Joined crew (crew.hire id) id := ⟨rfl, rfl, workersAt_hire there⟩

theorem recruits_staff {channel : Channel} (there : crew.channels.get? id = some channel) :
    Recruits crew id (crew.staff id channel) := by
  have counted := workersAt_of there
  unfold staff
  split
  · next alone => exact .first (counted.trans alone) (joined_hire there)
  · next some_ =>
    have served : 1 ≤ crew.workersAt id := counted ▸ Nat.one_le_iff_ne_zero.2 some_
    split
    · next saturated => exact .further served saturated.1 saturated.2 (joined_hire there)
    · next full => exact .nobody served full rfl rfl fun _ => rfl

/-- Nothing but the workers and their counters matters to it. -/
theorem Recruits.same {start last : Crew} (recruits : Recruits start id last)
    (workers : start.workers = crew.workers) (hired : start.hired = crew.hired)
    (threads : start.threads = crew.threads) (busy : start.busy = crew.busy)
    (cap : start.maxThreads = crew.maxThreads)
    (served : ∀ other, start.workersAt other = crew.workersAt other)
    (kept : after.workers = last.workers) (counted : after.threads = last.threads)
    (still : ∀ other, after.workersAt other = last.workersAt other) : Recruits crew id after := by
  have joins (joined : Joined start last id) : Joined crew after id := by
    refine ⟨?_, ?_, fun other => ?_⟩
    · rw [kept, joined.workers, workers, hired]
    · rw [counted, joined.threads, threads]
    · rw [still, joined.served, served]
  cases recruits with
  | first alone joined => exact .first (served id ▸ alone) (joins joined)
  | further some_ all room joined =>
    rw [served] at some_
    rw [busy, threads] at all
    rw [threads, cap] at room
    exact .further some_ all room (joins joined)
  | nobody some_ full others number same =>
    rw [served] at some_
    rw [busy, threads, cap] at full
    exact .nobody some_ full (kept.trans (others.trans workers))
      (counted.trans (number.trans threads)) fun other => by rw [still, same, served]

theorem recruits_bindTo {resource : ResourceId} {binding : Binding}
    (made : crew.bindTo id resource = .ok (binding, after)) :
    Recruits crew binding.channel after := by
  unfold bindTo at made
  split at made
  · cases made
  · next channel opens =>
    cases made
    exact (recruits_staff (open?_eq_some_iff.1 opens).1).same rfl rfl rfl rfl rfl (fun _ => rfl)
      rfl rfl (workersAt_bind _ _ resource)

/-- A channel that is created for the bind has no worker yet. -/
theorem recruits_bind (sound : Sound crew) {place : Option ChannelId} {resource : ResourceId}
    {binding : Binding} (made : crew.bind place resource = .ok (binding, after)) :
    Recruits crew binding.channel after := by
  unfold bind at made
  split at made
  · exact recruits_bindTo made
  · split at made
    · cases made
    · next opened found =>
      have recruits := recruits_bindTo made
      unfold defaultChannel createChannel at found
      split at found
      · cases found
        exact recruits
      · split at found
        · cases found
        · next created =>
          split at created
          · cases created
          · cases created
            cases found
            exact recruits.same rfl rfl rfl rfl rfl (sound.elim_opened rfl) rfl rfl fun _ => rfl

/-- A call hires nobody, or it is a bind that finds a channel without a worker or a saturated crew
below its cap. -/
theorem recruits_heed (sound : Sound crew) (call : Call) :
    Sheds crew (crew.heed call) ∨ ∃ id, Recruits crew id (crew.heed call) := by
  cases call with
  | bind place resource =>
    simp only [heed]
    cases made : crew.bind place resource with
    | error error => exact .inl (.refl crew)
    | ok pair => exact .inr ⟨_, recruits_bind sound made⟩
  | _ =>
    refine .inl (sheds_heed sound _ ?_)
    rintro id resource ⟨⟩

/-! ### The cap -/

/-- Whether everybody is busy can be read off the counters. -/
theorem Tallied.saturated_iff (tallied : Tallied deeds crew) :
    crew.Saturated ↔ crew.busy = crew.threads := by
  rw [tallied.busy, tallied.threads, Assoc.count, Assoc.count, List.countP_true,
    List.countP_eq_length]
  constructor
  · intro saturated worker inside
    obtain ⟨entry, member, rfl⟩ := List.mem_map.1 inside
    exact decide_eq_true (saturated entry.1 entry.2 (Assoc.get?_of_mem member))
  · intro busy serial worker found
    exact of_decide_eq_true (busy worker (List.mem_map_of_mem (Assoc.mem_of_get? found)))

/-- How a crew grows. -/
structure Capped (crew : Crew) : Prop where
  /-- A bind to a channel that has a worker adds a single one if everybody is busy and the crew is
  below its cap, and nobody otherwise. -/
  grows : ∀ place resource binding after, crew.bind place resource = .ok (binding, after) →
    1 ≤ crew.workers.count (Worker.isOn binding.channel) →
      (crew.Saturated ∧ crew.threads < crew.maxThreads → Joined crew after binding.channel) ∧
      (¬(crew.Saturated ∧ crew.threads < crew.maxThreads) →
        after.workers = crew.workers ∧ after.threads = crew.threads)
  /-- Beyond one worker for each manned channel, there are fewer than the cap allows. -/
  within : crew.threads + 1 ≤ crew.manned.length + max crew.maxThreads 1
  /-- A call adds one worker at most, and goes past the cap only with the first of a channel. -/
  passes : ∀ call, crew.threads < (crew.heed call).threads →
    ∃ id, Joined crew (crew.heed call) id ∧
      (crew.workers.count (Worker.isOn id) = 0 ∨ (crew.heed call).threads ≤ crew.maxThreads)

theorem Tallied.grows (tallied : Tallied deeds crew) (recruits : Recruits crew id after)
    (manned : 1 ≤ crew.workers.count (Worker.isOn id)) :
    (crew.Saturated ∧ crew.threads < crew.maxThreads → Joined crew after id) ∧
      (¬(crew.Saturated ∧ crew.threads < crew.maxThreads) →
        after.workers = crew.workers ∧ after.threads = crew.threads) := by
  rw [tallied.saturated_iff]
  rw [← tallied.served] at manned
  cases recruits with
  | first alone _ => exact absurd manned (by omega)
  | further _ busy room joined => exact ⟨fun _ => joined, fun full => absurd ⟨busy, room⟩ full⟩
  | nobody _ full workers threads _ =>
    exact ⟨fun both => absurd both full, fun _ => ⟨workers, threads⟩⟩

theorem Tallied.passes (tallied : Tallied deeds crew) (sound : Sound crew) {call : Call}
    (more : crew.threads < (crew.heed call).threads) :
    ∃ id, Joined crew (crew.heed call) id ∧
      (crew.workers.count (Worker.isOn id) = 0 ∨ (crew.heed call).threads ≤ crew.maxThreads) := by
  rcases recruits_heed sound call with sheds | ⟨id, recruits⟩
  · exact absurd sheds.threads (Nat.not_le_of_lt more)
  · cases recruits with
    | first alone joined => exact ⟨id, joined, .inl (tallied.served id ▸ alone)⟩
    | further _ _ room joined => exact ⟨id, joined, .inr (joined.threads ▸ room)⟩
    | nobody _ _ _ threads _ => exact absurd threads (Nat.ne_of_gt more)

end Steward.Completion.Crew
