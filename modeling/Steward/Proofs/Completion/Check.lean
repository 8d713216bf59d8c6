import Steward.Proofs.Completion.Tally

/-! A worker's check whether to retire, in its two parts. With nothing in between, they make the one
step that a worker takes when it waited in vain, or when it is done and finds its queue empty. -/

set_option autoImplicit false

namespace Steward.Completion.Crew

/-- Both parts of a check, with nothing in between. -/
def check (crew : Crew) (serial : Nat) : Crew :=
  match crew.stepOff serial with
  | some (learned, off) => off.stepBack serial learned
  | none => crew

variable {crew : Crew} {serial : Nat} {id : ChannelId} {channel : Channel}

/-- A channel that a worker goes back to has as many as before. -/
theorem modify_back (there : crew.channels.get? id = some channel) (served : 1 ≤ channel.workers) :
    ((crew.channels.modify id fun channel => { channel with workers := channel.workers - 1 }).modify
      id fun channel => { channel with workers := channel.workers + 1 }) = crew.channels := by
  rw [Assoc.modify_modify]
  refine Assoc.modify_eq_self fun value found => ?_
  cases there.symm.trans found
  rw [Nat.sub_add_cancel served]

theorem check_of_waiting (found : crew.workers.get? serial = some ⟨id, .waiting⟩)
    (there : crew.channels.get? id = some channel) (served : 1 ≤ channel.workers) :
    crew.check serial = crew.lapse serial := by
  by_cases idle : channel.queue = []
  · simp only [check, stepOff, stepBack, lapse, isSpare, found, there, idle, ne_eq, reduceCtorEq,
      not_false_eq_true, and_self, if_true, List.isEmpty_nil, Bool.true_and, Bool.and_eq_true,
      decide_eq_true_eq, Nat.add_sub_cancel]
    split
    · rfl
    · rw [modify_back there served, Assoc.insert_eq_self found]
  · have filled : channel.queue.isEmpty = false := by simpa using idle
    simp [check, stepOff, lapse, isSpare, found, there, idle, filled]

theorem check_of_handling {packet : Packet} {held : Bool}
    (found : crew.workers.get? serial = some ⟨id, .handling packet held⟩)
    (there : crew.channels.get? id = some channel) (served : 1 ≤ channel.workers)
    (idle : channel.queue = []) : crew.check serial = crew.finish serial := by
  simp only [check, stepOff, stepBack, finish, isSpare, found, there, idle, ne_eq, reduceCtorEq,
    not_false_eq_true, and_self, if_true, if_false, List.isEmpty_nil, Bool.true_and,
    Bool.and_eq_true, decide_eq_true_eq]
  split
  · rfl
  · rw [modify_back there served]

/-- After any calls, a worker that waited in vain takes the step that its check makes, and so does
one that is done and finds its queue empty. -/
theorem check_eq (maxChannels minThreads maxThreads : Nat) (calls : List Call) :
    let start : Crew := { maxChannels, minThreads, maxThreads }
    let crew := start.heedAll calls
    ∀ serial id duty, crew.workers.get? serial = some ⟨id, duty⟩ →
      (duty = .waiting → crew.check serial = crew.lapse serial) ∧
      ∀ packet held, duty = .handling packet held →
        (crew.channels.get? id).map Channel.queue = some [] →
          crew.check serial = crew.finish serial := by
  intro start crew serial id duty found
  have sound : Sound crew := (Sound.start _ _ _).moves (start.moves_heedAll calls)
  have tallied : Tallied (start.deedsIn calls) crew :=
    (Tallied.start _ _ _).moves (.start _ _ _) (start.moves_heedAll calls)
  obtain ⟨channel, there⟩ := sound.housed serial _ found
  have served : 1 ≤ channel.workers := by
    rw [← workersAt_of there, tallied.served]
    exact List.countP_pos_iff.2 ⟨_, List.mem_map_of_mem (Assoc.mem_of_get? found),
      decide_eq_true rfl⟩
  constructor
  · rintro rfl
    exact check_of_waiting found there served
  · rintro packet held rfl idle
    rw [there, Option.map_some, Option.some.injEq] at idle
    exact check_of_handling found there served idle

end Steward.Completion.Crew
