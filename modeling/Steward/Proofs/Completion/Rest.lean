import Steward.Proofs.Completion.Move

/-! Workers that are left to themselves come to rest. A step of a worker brings it nearer to where
it can make none, and gives no other worker anything to do. -/

set_option autoImplicit false

namespace Steward.Completion

/-- How many steps a worker can make, if that many are ahead of it while it waits. -/
def Duty.steps (ahead : Nat) : Duty → Nat
  | .starting => ahead + 1
  | .waiting => ahead
  | .handling _ held => if held then 0 else ahead + 1

theorem Duty.steps_mono {first second : Nat} (le : first ≤ second) (duty : Duty) :
    duty.steps first ≤ duty.steps second := by
  cases duty with
  | starting => exact Nat.succ_le_succ le
  | waiting => exact le
  | handling packet held =>
    cases held with
    | true => exact Nat.le_refl 0
    | false => exact Nat.succ_le_succ le

namespace Crew

/-- No worker can make a step. -/
def AtRest (crew : Crew) : Prop := ∀ serial, crew.work serial = crew

/-- A waiting worker takes and handles what is queued, and leaves if the channel is closed. -/
def ahead (crew : Crew) (id : ChannelId) : Nat :=
  2 * (crew.queueAt id).length + (crew.shutAt id).toNat

/-- How many steps a worker can make at most. -/
def effort (crew : Crew) (serial : Nat) : Nat :=
  (crew.workers.get? serial).elim 0 fun worker => worker.duty.steps (crew.ahead worker.channel)

/-- What workers make of a crew by themselves. -/
structure Eased (crew after : Crew) : Prop where
  queues : ∀ id, (after.queueAt id).length ≤ (crew.queueAt id).length
  shuts : ∀ id, after.shutAt id = crew.shutAt id

/-- A closed channel has nothing queued, and every worker has a channel. -/
structure Settled (crew : Crew) : Prop where
  sound : Sound crew
  emptied : ∀ id, crew.shutAt id = true → crew.queueAt id = []

variable {crew after : Crew} {serial : Nat} {deeds : List Deed}

theorem Eased.ahead (eased : Eased crew after) (id : ChannelId) :
    after.ahead id ≤ crew.ahead id := by
  rw [Crew.ahead, Crew.ahead, eased.shuts]
  exact Nat.add_le_add_right (Nat.mul_le_mul_left 2 (eased.queues id)) _

theorem Eased.effort (eased : Eased crew after)
    (same : after.workers.get? serial = crew.workers.get? serial) :
    after.effort serial ≤ crew.effort serial := by
  rw [Crew.effort, Crew.effort, same]
  cases crew.workers.get? serial with
  | none => exact Nat.le_refl 0
  | some worker => exact worker.duty.steps_mono (eased.ahead worker.channel)

theorem Eased.refl (crew : Crew) : Eased crew crew := ⟨fun _ => Nat.le_refl _, fun _ => rfl⟩

theorem eased_modify {id : ChannelId} {change : Channel → Channel}
    (channels : after.channels = crew.channels.modify id change)
    (queue : ∀ channel, (change channel).queue = channel.queue)
    (closed : ∀ channel, (change channel).isClosed = channel.isClosed) : Eased crew after := by
  refine ⟨fun other => ?_, fun other => ?_⟩
  · rw [queueAt, channels, elim_modify _ _ _ _ _ queue, queueAt]
  · rw [shutAt, channels, elim_modify _ _ _ _ _ closed, shutAt]

theorem eased_step (step : Step crew serial deeds after) : Eased crew after := by
  cases step with
  | stays _ => exact .refl crew
  | settled _ | freed _ => exact ⟨fun _ => Nat.le_refl _, fun _ => rfl⟩
  | retired _ _ _ | left _ _ _ =>
    exact eased_modify (channels_discharge _ _ _) (fun _ => rfl) (fun _ => rfl)
  | @took id channel packet rest found there opens next held =>
    refine ⟨fun other => ?_, fun other => ?_⟩
    · rw [queueAt, elim_insert, queueAt]
      split
      · next here => simp [here, there, next]
      · exact Nat.le_refl _
    · rw [shutAt, elim_insert, shutAt]
      split
      · next here => simp [here, there]
      · rfl

theorem step_apart (step : Step crew serial deeds after) {other : Nat} (apart : other ≠ serial) :
    after.workers.get? other = crew.workers.get? other := by
  cases step with
  | stays _ => rfl
  | settled _ | freed _ | took _ _ _ _ _ => exact Assoc.get?_insert_of_ne _ apart _
  | retired _ _ _ | left _ _ _ => exact Assoc.get?_erase_of_ne _ apart

theorem effort_of {id : ChannelId} {duty : Duty}
    (found : crew.workers.get? serial = some ⟨id, duty⟩) :
    crew.effort serial = duty.steps (crew.ahead id) := by
  rw [effort, found, Option.elim_some]

theorem effort_of_absent (absent : crew.workers.get? serial = none) : crew.effort serial = 0 := by
  rw [effort, absent, Option.elim_none]

theorem effort_of_stuck (settled : Settled crew)
    (stuck : ∀ worker, crew.workers.get? serial = some worker → crew.Stuck worker) :
    crew.effort serial = 0 := by
  rcases found : crew.workers.get? serial with _ | ⟨id, duty⟩
  · exact effort_of_absent found
  · obtain ⟨channel, there⟩ := settled.sound.housed serial _ found
    have idle := stuck _ found
    rw [effort_of found]
    cases duty with
    | starting => exact idle.elim
    | waiting =>
      obtain ⟨opens, empty⟩ := idle channel there
      have queue : crew.queueAt id = [] := by rw [queueAt, there, Option.elim_some, empty]
      have shut : crew.shutAt id = false := by rw [shutAt, there, Option.elim_some, opens]
      simp [Duty.steps, ahead, queue, shut]
    | handling packet held =>
      rcases idle with rfl | absent
      · rfl
      · exact absurd (there.symm.trans absent) (Option.some_ne_none channel)

/-- A worker whose turn comes can do nothing, or it has less to do afterwards. -/
theorem effort_step (settled : Settled crew) (step : Step crew serial deeds after) :
    (after = crew ∧ crew.effort serial = 0) ∨ after.effort serial < crew.effort serial := by
  have eased := eased_step step
  cases step with
  | stays stuck => exact .inl ⟨rfl, effort_of_stuck settled stuck⟩
  | @settled id found =>
    right
    rw [effort_of found, effort_of (Assoc.get?_insert_self _ _ _)]
    exact Nat.lt_succ_of_le (eased.ahead id)
  | @freed id packet found =>
    right
    rw [effort_of found, effort_of (Assoc.get?_insert_self _ _ _)]
    exact Nat.lt_succ_of_le (eased.ahead id)
  | retired found _ _ =>
    right
    rw [effort_of found, effort_of_absent (Assoc.get?_erase_self _ _)]
    exact Nat.succ_pos _
  | @left id channel found there closed =>
    right
    have shut : crew.shutAt id = true := by rw [shutAt, there, Option.elim_some, closed]
    rw [effort_of found, effort_of_absent (Assoc.get?_erase_self _ _), Duty.steps, ahead, shut]
    exact Nat.succ_pos _
  | @took id channel packet rest found there opens next held =>
    right
    -- A queued completion stands for two steps, to take it and to be done with it.
    have before : crew.ahead id = 2 * rest.length + 2 := by
      simp [ahead, queueAt, shutAt, there, next, opens, Nat.mul_add]
    have now : ({ crew with
        channels := crew.channels.insert id { channel with queue := rest }
        workers := crew.workers.insert serial ⟨id, .handling packet held⟩
        busy := crew.busy + 1
        seen := crew.seen ++ crew.handed packet } : Crew).ahead id = 2 * rest.length := by
      simp [ahead, queueAt, shutAt, opens]
    rw [effort_of found, effort_of (Assoc.get?_insert_self _ _ _), now, Duty.steps, before]
    cases held with
    | true => exact Nat.succ_pos _
    | false => exact Nat.lt_succ_self _

theorem Settled.work (settled : Settled crew) (serial : Nat) : Settled (crew.work serial) := by
  have eased := eased_step (crew.step_work serial)
  refine ⟨settled.sound.moves (crew.moves_work serial), fun id shut => ?_⟩
  have before := settled.emptied id (eased.shuts id ▸ shut)
  have le := eased.queues id
  rw [before] at le
  exact List.eq_nil_of_length_eq_zero (Nat.le_zero.1 le)

theorem atRest_iff (settled : Settled crew) : crew.AtRest ↔ ∀ serial, crew.effort serial = 0 := by
  refine forall_congr' fun serial => ⟨fun same => ?_, fun nothing => ?_⟩
  · rcases effort_step settled (crew.step_work serial) with ⟨-, zero⟩ | less
    · exact zero
    · rw [same] at less
      exact absurd less (Nat.lt_irrefl _)
  · rcases effort_step settled (crew.step_work serial) with ⟨same, -⟩ | less
    · exact same
    · rw [nothing] at less
      exact absurd less (Nat.not_lt_zero _)

/-- At rest a worker waits for an open channel on which nothing is queued. -/
theorem waiting_of_atRest (settled : Settled crew) (rest : crew.AtRest) {id : ChannelId}
    (found : crew.workers.get? serial = some ⟨id, .waiting⟩) :
    crew.shutAt id = false ∧ crew.queueAt id = [] := by
  have zero := (atRest_iff settled).1 rest serial
  rw [effort_of found, Duty.steps, ahead] at zero
  obtain ⟨queue, shut⟩ := Nat.add_eq_zero_iff.1 zero
  refine ⟨by simpa using shut, List.eq_nil_of_length_eq_zero ?_⟩
  omega

/-! ### Rounds -/

theorem effort_work (settled : Settled crew) (serial other : Nat) :
    (crew.work serial).effort other ≤ crew.effort other - [serial].count other := by
  have step := crew.step_work serial
  by_cases here : serial = other
  · subst here
    rw [List.count_singleton_self]
    rcases effort_step settled step with ⟨same, zero⟩ | less
    · rw [same, zero]
    · exact Nat.le_sub_one_of_lt less
  · rw [List.count_singleton, if_neg (by simpa using here)]
    exact (eased_step step).effort (step_apart step (Ne.symm here))

/-- A worker has less to do for each of its turns. -/
theorem effort_turns (settled : Settled crew) (turns : List Nat) (serial : Nat) :
    Settled (turns.foldl work crew) ∧
      (turns.foldl work crew).effort serial ≤ crew.effort serial - turns.count serial := by
  induction turns generalizing crew with
  | nil => exact ⟨settled, Nat.le_refl _⟩
  | cons first rest ih =>
    -- The turns of the others that come first leave a worker no more to do than it had.
    obtain ⟨still, lower⟩ := ih (settled.work first)
    have once := effort_work settled first serial
    have turns : (first :: rest).count serial = [first].count serial + rest.count serial := by
      rw [← List.count_append, List.singleton_append]
    refine ⟨still, Nat.le_trans lower ?_⟩
    omega

theorem effort_round (settled : Settled crew) (serial : Nat) :
    (crew.workers.keys.foldl work crew).effort serial ≤ crew.effort serial - 1 := by
  have lower := (effort_turns settled crew.workers.keys serial).2
  by_cases inside : serial ∈ crew.workers.keys
  · have turn : 1 ≤ crew.workers.keys.count serial := List.count_pos_iff.2 inside
    omega
  · rw [effort_of_absent (Assoc.get?_eq_none_iff.2 inside)] at lower ⊢
    exact Nat.le_trans lower (Nat.sub_le 0 _)

theorem effort_rounds (settled : Settled crew) (count serial : Nat) :
    Settled (rounds count crew) ∧
      (rounds count crew).effort serial ≤ crew.effort serial - count := by
  induction count generalizing crew with
  | zero => exact ⟨settled, Nat.le_refl _⟩
  | succ count ih =>
    obtain ⟨still, lower⟩ := ih (effort_turns settled crew.workers.keys serial).1
    have once := effort_round settled serial
    refine ⟨still, Nat.le_trans lower ?_⟩
    omega

theorem backlog_eq (crew : Crew) :
    crew.backlog = crew.channels.total fun channel => channel.queue.length := by
  rw [backlog, Assoc.values, Assoc.total, List.foldr_map, List.sum_eq_foldr, List.foldr_map]

theorem length_queueAt_le (crew : Crew) (id : ChannelId) :
    (crew.queueAt id).length ≤ crew.backlog := by
  rw [queueAt]
  cases there : crew.channels.get? id with
  | none => exact Nat.zero_le _
  | some channel =>
    rw [backlog_eq]
    exact Assoc.le_total_of_get? (fun channel => channel.queue.length) there

theorem effort_le (crew : Crew) (serial : Nat) :
    crew.effort serial ≤ 2 * crew.backlog + 2 := by
  rcases found : crew.workers.get? serial with _ | ⟨id, duty⟩
  · rw [effort_of_absent found]
    exact Nat.zero_le _
  · have ahead : crew.ahead id ≤ 2 * crew.backlog + 1 := by
      have queue := crew.length_queueAt_le id
      have bit := Bool.toNat_le (crew.shutAt id)
      rw [Crew.ahead]
      omega
    rw [effort_of found]
    cases duty with
    | starting => exact Nat.succ_le_succ ahead
    | waiting => exact Nat.le_succ_of_le ahead
    | handling packet held =>
      cases held with
      | true => exact Nat.zero_le _
      | false => exact Nat.succ_le_succ ahead

/-- The rounds that workers are given are enough. -/
theorem atRest_rest (settled : Settled crew) : crew.rest.AtRest := by
  have enough (serial : Nat) := effort_rounds settled (2 * crew.backlog + 2) serial
  refine (atRest_iff (enough 0).1).2 fun serial => ?_
  have lower := (enough serial).2
  have bound := crew.effort_le serial
  omega

/-- What every step of a worker keeps is there when the workers rest. -/
theorem rest_induction {holds : Crew → Prop}
    (keeps : ∀ crew serial, holds crew → holds (crew.work serial)) (initial : holds crew) :
    holds crew.rest := by
  have turns (serials : List Nat) : ∀ crew, holds crew → holds (serials.foldl work crew) := by
    induction serials with
    | nil => exact fun _ held => held
    | cons first rest ih => exact fun crew held => ih _ (keeps crew first held)
  have rounds (count : Nat) : ∀ crew, holds crew → holds (Crew.rounds count crew) := by
    induction count with
    | zero => exact fun _ held => held
    | succ count ih => exact fun crew held => ih _ (turns _ crew held)
  exact rounds _ crew initial

theorem moves_rest (crew : Crew) : ∃ deeds, Moves crew deeds crew.rest := by
  refine @rest_induction crew (fun after => ∃ deeds, Moves crew deeds after) ?_ ⟨[], .none crew⟩
  rintro middle serial ⟨deeds, moves⟩
  exact ⟨_, moves.trans (middle.moves_work serial)⟩

theorem Settled.rest (settled : Settled crew) : Settled crew.rest :=
  rest_induction (fun _ serial settled => settled.work serial) settled

/-! ### The end -/

/-- There is nothing left to do for anybody but to leave. -/
structure Ended (crew : Crew) : Prop where
  shut : ∀ serial worker, crew.workers.get? serial = some worker →
    crew.shutAt worker.channel = true
  free : ∀ serial id packet, crew.workers.get? serial ≠ some ⟨id, .handling packet true⟩

/-- Everybody is as before, or waits for the channel that he was on. -/
theorem Ended.keep (ended : Ended crew) (eased : Eased crew after)
    (workers : ∀ serial worker, after.workers.get? serial = some worker →
      crew.workers.get? serial = some worker ∨
        worker.duty = .waiting ∧
          ∃ duty, crew.workers.get? serial = some ⟨worker.channel, duty⟩) : Ended after := by
  refine ⟨fun serial worker found => ?_, fun serial id packet found => ?_⟩
  · rw [eased.shuts]
    rcases workers serial worker found with same | ⟨-, duty, same⟩
    · exact ended.shut serial worker same
    · have shut := ended.shut serial _ same
      exact shut
  · rcases workers serial _ found with same | ⟨waits, -⟩
    · exact ended.free serial id packet same
    · cases waits

theorem Ended.step (ended : Ended crew) (step : Step crew serial deeds after) : Ended after := by
  have eased := eased_step step
  cases step with
  | stays _ => exact ended
  | @settled id found | @freed id packet found =>
    refine ended.keep eased fun other worker inside => ?_
    rw [Assoc.get?_insert] at inside
    split at inside
    · next here =>
      cases inside
      exact .inr ⟨rfl, _, here ▸ found⟩
    · exact .inl inside
  | @retired id _ _ _ _ _ | @left id _ _ _ _ =>
    refine ended.keep eased fun other worker inside => .inl ?_
    rw [discharge, Assoc.get?_erase] at inside
    split at inside
    · cases inside
    · exact inside
  | took found there opens _ _ =>
    -- Nothing is taken from a channel that is closed.
    have shut := ended.shut serial _ found
    rw [shutAt, there, Option.elim_some, opens] at shut
    cases shut

theorem Ended.rest (ended : Ended crew) : Ended crew.rest :=
  rest_induction (fun crew serial ended => ended.step (crew.step_work serial)) ended

theorem absent_of_ended (settled : Settled crew) (ended : Ended crew) (rest : crew.AtRest)
    (serial : Nat) : crew.workers.get? serial = none := by
  rcases found : crew.workers.get? serial with _ | ⟨id, duty⟩
  · rfl
  · have zero := (atRest_iff settled).1 rest serial
    rw [effort_of found] at zero
    cases duty with
    | starting => exact absurd zero (Nat.succ_ne_zero _)
    | waiting =>
      have opens := (waiting_of_atRest settled rest found).1
      rw [ended.shut serial _ found] at opens
      cases opens
    | handling packet held =>
      cases held with
      | true => exact absurd found (ended.free serial id packet)
      | false => exact absurd zero (Nat.succ_ne_zero _)

end Crew

end Steward.Completion
