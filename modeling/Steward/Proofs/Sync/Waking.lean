import Steward.Proofs.Sync.Slots

/-! No wake-up is lost. Whenever something is there that threads sleep on, enough wake-ups are on
their way, or enough of those who were woken have not looked yet. When nothing is on its way and
everybody who was woken has looked, nobody sleeps on something that is there. -/

set_option autoImplicit false

namespace Steward.Host

variable {host left after : Host} {target : Target} {owed wakeUps : List WakeUp}

/-! ### Who waits for what -/

def Wait.isAt (target : Target) (stage : Stage) (wait : Wait) : Bool :=
  wait.target = target && wait.stage = stage

/-- How many threads wait for a target, and are so far with it. -/
def waiting (host : Host) (stage : Stage) (target : Target) : Nat :=
  host.waits.count (Wait.isAt target stage)

/-- How many of those who sleep on a target are woken. -/
def wokenOn (host : Host) (woken : ThreadId → Wait → Bool) (target : Target) : Nat :=
  host.waits.entries.countP fun entry => isSleeper target entry && woken entry.1 entry.2

theorem waiting_congr (waits : after.waits = host.waits) (stage : Stage) (target : Target) :
    after.waiting stage target = host.waiting stage target := by
  rw [waiting, waits, waiting]

theorem waiting_erase {thread : ThreadId} {wait : Wait}
    (found : host.waits.get? thread = some wait) (waits : after.waits = host.waits.erase thread)
    (stage : Stage) (target : Target) :
    after.waiting stage target + (wait.isAt target stage).toNat = host.waiting stage target := by
  rw [waiting, waits]
  exact Assoc.count_erase_add found _

theorem waiting_insert {thread : ThreadId} {wait : Wait} (absent : host.waits.get? thread = none)
    (waits : after.waits = host.waits.insert thread wait) (stage : Stage) (target : Target) :
    after.waiting stage target = host.waiting stage target + (wait.isAt target stage).toNat := by
  rw [waiting, waits]
  exact Assoc.count_insert_new absent _ _

/-- A wait that begins is neither asleep nor woken. -/
theorem waiting_start {thread : ThreadId} {wait : Wait} (absent : host.waits.get? thread = none)
    (starts : wait.stage = .starting) (waits : after.waits = host.waits.insert thread wait)
    (target : Target) :
    after.waiting .asleep target = host.waiting .asleep target ∧
      after.waiting .awake target = host.waiting .awake target := by
  have asleep := waiting_insert absent waits .asleep target
  have awake := waiting_insert absent waits .awake target
  simp only [Wait.isAt, starts, reduceCtorEq, decide_false, Bool.and_false, Bool.toNat_false,
    Nat.add_zero] at asleep awake
  exact ⟨asleep, awake⟩

theorem asleep_of_start {thread other : ThreadId} {wait sleeper : Wait}
    (starts : wait.stage = .starting) (waits : after.waits = host.waits.insert thread wait)
    (found : after.waits.get? other = some sleeper) (asleep : sleeper.stage = .asleep) :
    host.waits.get? other = some sleeper := by
  rw [waits, Assoc.get?_insert] at found
  split at found
  · cases found
    rw [starts] at asleep
    cases asleep
  · exact found

/-- A wait goes on as another one of the same thread. -/
theorem waiting_renew {thread : ThreadId} {wait next : Wait}
    (found : host.waits.get? thread = some wait)
    (waits : after.waits = (host.waits.erase thread).insert thread next)
    (stage : Stage) (target : Target) :
    after.waiting stage target + (wait.isAt target stage).toNat =
      host.waiting stage target + (next.isAt target stage).toNat := by
  have out : (host.away thread).waiting stage target + (wait.isAt target stage).toNat =
      host.waiting stage target := waiting_erase found rfl stage target
  have back : after.waiting stage target =
      (host.away thread).waiting stage target + (next.isAt target stage).toNat :=
    waiting_insert (Assoc.get?_erase_self _ _) waits stage target
  omega

/-- Those who sleep and are woken are awake afterwards. -/
theorem waiting_rouse (host : Host) (woken : ThreadId → Wait → Bool) (target : Target) :
    (host.rouse woken).waiting .asleep target + host.wokenOn woken target =
        host.waiting .asleep target ∧
      (host.rouse woken).waiting .awake target =
        host.waiting .awake target + host.wokenOn woken target := by
  simp only [waiting, wokenOn, Assoc.count, Assoc.values, rouse, Assoc.mapValues, List.map_map,
    List.countP_map]
  -- Only who sleeps here and is woken goes from the one count to the other.
  induction host.waits.entries with
  | nil => exact ⟨rfl, rfl⟩
  | cons entry rest ih =>
    obtain ⟨asleep, awake⟩ := ih
    simp only [List.countP_cons, ← asleep, awake]
    cases reached : woken entry.1 entry.2 with
    | true =>
      cases stage : entry.2.stage <;>
        simp [Wait.isAt, isSleeper, Wait.wake, reached, stage] <;> omega
    | false =>
      simp only [isSleeper, reached, Function.comp_apply, Bool.false_eq_true, if_false,
        Bool.and_false]
      omega

theorem wokenOn_of_everyone {woken : ThreadId → Wait → Bool}
    (reaches : host.Reaches ⟨target, true⟩ woken) :
    host.wokenOn woken target = host.waiting .asleep target := by
  have all : ∀ entry ∈ host.waits.entries, isSleeper target entry = true →
      woken entry.1 entry.2 = true := reaches
  simp only [wokenOn, waiting, Assoc.count, Assoc.values, List.countP_map]
  refine List.countP_congr fun entry inside => ?_
  have same : (Wait.isAt target .asleep ∘ Prod.snd) entry = isSleeper target entry := rfl
  rw [same, Bool.and_eq_true, and_iff_left_iff_imp]
  exact all entry inside

theorem wokenOn_pos {woken : ThreadId → Wait → Bool}
    (reaches : host.Reaches ⟨target, false⟩ woken) (some : 0 < host.waiting .asleep target) :
    0 < host.wokenOn woken target := by
  have one : (∃ entry ∈ host.waits.entries, isSleeper target entry = true) →
      ∃ entry ∈ host.waits.entries, isSleeper target entry = true ∧
        woken entry.1 entry.2 = true := by simpa [Reaches] using reaches
  simp only [waiting, Assoc.count, Assoc.values, List.countP_map, List.countP_pos_iff] at some
  obtain ⟨entry, inside, sleeps, reached⟩ := one some
  exact List.countP_pos_iff.2 ⟨entry, inside, by simp [sleeps, reached]⟩

/-! ### Looking -/

/-- Who finds nothing could get nothing. -/
theorem nothing_of_take? {thread : ThreadId} (missing : host.take? thread target = none) :
    host.isOpen target = false ∧ host.slots target = 0 := by
  cases target with
  | signal serial =>
    cases found : host.signals.get? serial with
    | none => simp [isOpen, slots, found]
    | some signal =>
      have unset : signal.isSet = false := by simpa [take?, found, Sync.Signal.take?] using missing
      simp [isOpen, slots, found, unset]
  | semaphore serial =>
    cases found : host.semaphores.get? serial with
    | none => simp [isOpen, slots, found]
    | some semaphore =>
      have empty : semaphore.count = 0 := by
        simpa [take?, found, Sync.Semaphore.take?] using missing
      simp [isOpen, slots, found, empty]
  | lock serial =>
    cases found : host.locks.get? serial with
    | none => simp [isOpen, slots, found]
    | some lock =>
      cases held : lock.hold with
      | none => simp [take?, found, Sync.CriticalSection.enter?, held] at missing
      | some hold => simp [isOpen, slots, found, held]
  | gate other =>
    refine ⟨?_, rfl⟩
    cases gate : (host.control other).gate with
    | suspended => simp [isOpen, Tasks.Gate.isOpen, gate]
    | running | cancelled => simp [take?, gate] at missing
  | exit other =>
    refine ⟨?_, rfl⟩
    simpa [isOpen, take?] using missing
  | notice =>
    refine ⟨rfl, ?_⟩
    cases pending : host.registry.events.pending with
    | nil => simp [slots, pending]
    | cons event rest => simp [take?, Domain.EventQueue.poll?, pending] at missing
  | workers | sleep => exact ⟨rfl, rfl⟩

namespace Takes

variable {thread : ThreadId} {ending : Ending}

theorem isOpen (takes : Takes host thread target ending left) (other : Target) :
    left.isOpen other = host.isOpen other := by
  cases takes with
  | @signal serial signal next found taken =>
    cases other with
    | signal otherSerial =>
      by_cases same : otherSerial = serial
      · subst same
        unfold Sync.Signal.take? at taken
        split at taken
        · next set =>
          cases taken
          simp [Host.isOpen, found, set]
        · cases taken
      · simp [Host.isOpen, same]
    | semaphore | lock | gate | exit | notice | workers | sleep => rfl
  | semaphore | lock | notice | passed => cases other <;> rfl

theorem slots_self (takes : Takes host thread target ending left) :
    left.slots target ≤ host.slots target - 1 := by
  cases takes with
  | @signal serial signal next found taken =>
    unfold Sync.Signal.take? at taken
    split at taken
    · cases taken
      simp [Host.slots]
    · cases taken
  | @semaphore serial semaphore next found taken =>
    have count := (Sync.Semaphore.count_take? taken).1
    simp only [Host.slots, Assoc.get?_insert_self, found, Option.map_some, Option.getD_some]
    omega
  | @lock serial lock entered found taken =>
    have held : entered.hold.isNone = false := by
      unfold Sync.CriticalSection.enter? at taken
      split at taken
      · cases taken; rfl
      · split at taken <;> cases taken
        rfl
    simp [Host.slots, held]
  | @notice event queue taken =>
    have length : host.registry.events.pending.length = queue.pending.length + 1 := by
      unfold Domain.EventQueue.poll? at taken
      split at taken
      · cases taken
      · next pending =>
        cases taken
        simp [pending]
    simp only [Host.slots, length]
    exact Nat.le_refl _
  | passed apart unqueued =>
    have none : host.slots target = 0 := by
      cases target with
      | signal | semaphore | lock => cases apart
      | notice => exact absurd rfl unqueued
      | gate | exit | workers | sleep => rfl
    exact Nat.le_of_eq (by rw [none])

theorem slots_of_ne (takes : Takes host thread target ending left) {other : Target}
    (apart : other ≠ target) : left.slots other = host.slots other := by
  cases takes with
  | notice =>
    cases other with
    | notice => exact absurd rfl apart
    | signal | semaphore | lock | gate | exit | workers | sleep => rfl
  | passed => rfl
  | signal | semaphore | lock =>
    cases other with
    | signal | semaphore | lock =>
      simp only [ne_eq, Target.signal.injEq, Target.semaphore.injEq, Target.lock.injEq] at apart
      simp [Host.slots, apart]
    | gate | exit | notice | workers | sleep => rfl

end Takes

/-! ### Covered targets -/

/-- Those who sleep on a target are covered: a wake-up for everyone is on its way to them, or one
for each of them; or it is not open to everyone, and as many as could get something there were
woken, or will be. -/
def Covered (host : Host) (owed : List WakeUp) (target : Target) : Prop :=
  ⟨target, true⟩ ∈ owed ∨ host.waiting .asleep target ≤ owed.count ⟨target, false⟩ ∨
    (host.isOpen target = false ∧
      host.slots target ≤ host.waiting .awake target + owed.count ⟨target, false⟩)

/-- Whoever sleeps although an alert would end its wait will be woken. -/
def Heard (host : Host) (owed : List WakeUp) : Prop :=
  ∀ thread wait, host.waits.get? thread = some wait → wait.stage = .asleep →
    wait.options.alertable = true → host.isAlerted thread = true → ⟨wait.target, true⟩ ∈ owed

theorem Orderly.nobody (orderly : host.Orderly) (unnamed : host.names target = false) :
    host.waiting .asleep target = 0 := by
  simp only [waiting, Assoc.count, Assoc.values, List.countP_map]
  refine List.countP_eq_zero.2 fun entry inside sleeps => ?_
  have named := (orderly.waits entry.1 entry.2 (Assoc.get?_of_mem inside)).named
  simp only [Function.comp_apply, Wait.isAt, Bool.and_eq_true, decide_eq_true_eq] at sleeps
  rw [sleeps.1, unnamed] at named
  cases named

namespace Covered

/-- A target stays covered when nobody falls asleep there, nobody who was awake is gone, and
whatever becomes available has its wake-up. -/
theorem offers (covered : Covered host owed target)
    (nobody : host.names target = false → host.waiting .asleep target = 0)
    (offers : Offers wakeUps host after)
    (asleep : after.waiting .asleep target ≤ host.waiting .asleep target)
    (awake : host.waiting .awake target ≤ after.waiting .awake target) :
    Covered after (owed ++ wakeUps) target := by
  cases named : host.names target with
  | false =>
    -- Nobody waits yet for what is only made now.
    refine .inr (.inl ?_)
    rw [nobody named] at asleep
    exact Nat.le_trans asleep (Nat.zero_le _)
  | true =>
    rcases covered with told | enough | ⟨closed, few⟩
    · exact .inl (List.mem_append_left _ told)
    · refine .inr (.inl ?_)
      rw [List.count_append]
      omega
    · cases opened : after.isOpen target with
      | true =>
        rcases offers.opens target named opened with before | told
        · rw [before] at closed
          cases closed
        · exact .inl (List.mem_append_right _ told)
      | false =>
        have more := offers.slots target named
        refine .inr (.inr ⟨opened, ?_⟩)
        rw [List.count_append]
        omega

/-- A target at which there was nothing to find is covered by the wake-ups for what came. -/
theorem of_nothing (named : host.names target = true) (closed : host.isOpen target = false)
    (empty : host.slots target = 0) (offers : Offers wakeUps host after) (owed : List WakeUp) :
    Covered after (owed ++ wakeUps) target := by
  cases opened : after.isOpen target with
  | true =>
    rcases offers.opens target named opened with before | told
    · rw [before] at closed
      cases closed
    · exact .inl (List.mem_append_right _ told)
  | false =>
    have more := offers.slots target named
    refine .inr (.inr ⟨opened, ?_⟩)
    rw [List.count_append]
    omega

/-- A target stays covered when a thread goes that was not awake there. -/
theorem away (covered : Covered host owed target) {thread : ThreadId} {wait : Wait}
    (found : host.waits.get? thread = some wait) (stirs : wait.stage ≠ .asleep)
    (elsewhere : wait.isAt target .awake = false) : Covered (host.away thread) owed target := by
  have asleep : (host.away thread).waiting .asleep target = host.waiting .asleep target := by
    have gone := waiting_erase found (rfl : (host.away thread).waits = _) .asleep target
    simpa [Wait.isAt, stirs] using gone
  have awake : (host.away thread).waiting .awake target = host.waiting .awake target := by
    have gone := waiting_erase found (rfl : (host.away thread).waits = _) .awake target
    simpa [elsewhere] using gone
  unfold Covered at covered ⊢
  rw [asleep, awake]
  exact covered

/-- A target stays covered when somebody takes what is there. -/
theorem took (covered : Covered host owed target) {thread : ThreadId} {wait : Wait}
    {ending : Ending} (found : host.waits.get? thread = some wait) (stirs : wait.stage ≠ .asleep)
    (taken : Takes (host.away thread) thread wait.target ending left) :
    Covered left owed target := by
  have gone (stage : Stage) :
      left.waiting stage target + (wait.isAt target stage).toNat = host.waiting stage target :=
    waiting_erase found taken.waits stage target
  have asleep : left.waiting .asleep target = host.waiting .asleep target := by
    simpa [Wait.isAt, stirs] using gone .asleep
  have awake := gone .awake
  rcases covered with told | enough | ⟨closed, few⟩
  · exact .inl told
  · exact .inr (.inl (asleep ▸ enough))
  · refine .inr (.inr ⟨(taken.isOpen target).trans closed, ?_⟩)
    -- At most one who was woken is gone from here, and then what it took is gone too.
    by_cases same : target = wait.target
    · have fewer : left.slots target ≤ host.slots target - 1 := same ▸ taken.slots_self
      have one := Bool.toNat_le (wait.isAt target .awake)
      omega
    · have equal : left.slots target = host.slots target := taken.slots_of_ne same
      have elsewhere : wait.isAt target .awake = false := by simp [Wait.isAt, Ne.symm same]
      rw [elsewhere] at awake
      simp only [Bool.toNat_false] at awake
      omega

theorem rouse (covered : Covered host owed target) (woken : ThreadId → Wait → Bool) :
    Covered (host.rouse woken) owed target := by
  obtain ⟨asleep, awake⟩ := host.waiting_rouse woken target
  rcases covered with told | enough | ⟨closed, few⟩
  · exact .inl told
  · refine .inr (.inl ?_)
    omega
  · refine .inr (.inr ⟨closed, ?_⟩)
    have same : (host.rouse woken).slots target = host.slots target := rfl
    omega

/-- A wake-up that arrives is owed no longer, and those are awake whom it was meant for. -/
theorem arrive {early late : List WakeUp} {wakeUp : WakeUp}
    (covered : Covered host (early ++ wakeUp :: late) target) {woken : ThreadId → Wait → Bool}
    (reaches : host.Reaches wakeUp woken) : Covered (host.rouse woken) (early ++ late) target := by
  obtain ⟨asleep, awake⟩ := host.waiting_rouse woken target
  by_cases everyone : wakeUp = ⟨target, true⟩
  · subst everyone
    have all := wokenOn_of_everyone reaches
    refine .inr (.inl ?_)
    omega
  · rcases Nat.eq_zero_or_pos (host.waiting .asleep target) with nobody | some
    · refine .inr (.inl ?_)
      omega
    -- One wake-up less is owed here at most, and then somebody woke.
    have fewer : (early ++ wakeUp :: late).count ⟨target, false⟩ ≤
        (early ++ late).count ⟨target, false⟩ + host.wokenOn woken target := by
      simp only [List.count_append, List.count_cons, beq_iff_eq]
      split
      · next here =>
        have woke : 0 < host.wokenOn woken target := wokenOn_pos (here ▸ reaches) some
        omega
      · omega
    have same : (host.rouse woken).slots target = host.slots target := rfl
    rcases covered with told | enough | ⟨closed, few⟩
    · refine .inl ?_
      simp only [List.mem_append, List.mem_cons] at told ⊢
      exact told.imp_right fun there => there.resolve_left (Ne.symm everyone)
    · refine .inr (.inl ?_)
      omega
    · refine .inr (.inr ⟨closed, ?_⟩)
      omega

end Covered

namespace Heard

theorem mono (heard : Heard host owed) (controls : after.controls = host.controls)
    (waits : ∀ thread wait, after.waits.get? thread = some wait → wait.stage = .asleep →
      host.waits.get? thread = some wait) : Heard after owed := by
  intro thread wait found asleep alertable alerted
  refine heard thread wait (waits thread wait found asleep) asleep alertable ?_
  rwa [isAlerted, control, ← controls]

/-- Nobody falls asleep, and whoever is alerted in its sleep has its wake-up. -/
theorem offers (heard : Heard host owed) (offers : Offers wakeUps host after)
    (waits : ∀ thread wait, after.waits.get? thread = some wait → wait.stage = .asleep →
      host.waits.get? thread = some wait) : Heard after (owed ++ wakeUps) := by
  intro thread wait found asleep alertable alerted
  have before := waits thread wait found asleep
  rcases offers.alerts thread wait before alertable alerted with already | told
  · exact List.mem_append_left _ (heard thread wait before asleep alertable already)
  · exact List.mem_append_right _ told

end Heard

/-- Who is asleep after some were woken slept before. -/
theorem asleep_of_rouse {woken : ThreadId → Wait → Bool} {thread : ThreadId} {wait : Wait}
    (found : (host.rouse woken).waits.get? thread = some wait) (asleep : wait.stage = .asleep) :
    host.waits.get? thread = some wait ∧ woken thread wait = false := by
  rw [get?_rouse, Option.map_eq_some_iff] at found
  obtain ⟨earlier, before, rfl⟩ := found
  cases reached : woken thread earlier with
  | true =>
    simp only [reached, if_true, Wait.wake] at asleep
    split at asleep
    · cases asleep
    · contradiction
  | false => simp [before, reached]

/-- Nobody sleeps untold: neither on what is there, nor under an alert that would end the sleep. -/
structure Attended (host : Host) (owed : List WakeUp) : Prop where
  orderly : host.Orderly
  covered : ∀ target, Covered host owed target
  heard : Heard host owed

namespace Attended

theorem of_nobody (orderly : host.Orderly) (nobody : host.waits = Assoc.empty) :
    Attended host [] := by
  refine ⟨orderly, fun target => .inr (.inl ?_), fun thread wait found => ?_⟩
  · rw [waiting, nobody]
    exact Nat.le_refl 0
  · rw [nobody, Assoc.get?_empty] at found
    cases found

theorem nobody (attended : Attended host owed) (same : after.nextSerial = host.nextSerial)
    (fewer : after.waiting .asleep target ≤ host.waiting .asleep target)
    (unnamed : after.names target = false) : after.waiting .asleep target = 0 := by
  rw [names_congr same] at unnamed
  exact Nat.le_zero.1 (attended.orderly.nobody unnamed ▸ fewer)

/-- A wait ends, or goes on to its next slice, without that anything was found. -/
theorem covered_missing (attended : Attended host owed) {thread : ThreadId} {wait : Wait}
    (found : host.waits.get? thread = some wait) (stirs : wait.stage ≠ .asleep)
    (missing : wait.stage ≠ .starting → (host.away thread).take? thread wait.target = none)
    (offers : Offers wakeUps (host.away thread) after)
    (asleep : after.waiting .asleep target = (host.away thread).waiting .asleep target)
    (awake : after.waiting .awake target = (host.away thread).waiting .awake target) :
    Covered after (owed ++ wakeUps) target := by
  -- Who was woken has looked, so nothing was there. Who only began was not counted on.
  cases looks : wait.isAt target .awake with
  | true =>
    simp only [Wait.isAt, Bool.and_eq_true, decide_eq_true_eq] at looks
    obtain ⟨rfl, stage⟩ := looks
    have nothing := nothing_of_take? (missing (by rw [stage]; nofun))
    have named : host.names wait.target = true := (attended.orderly.waits thread wait found).named
    have same : (host.away thread).names wait.target = host.names wait.target := names_congr rfl _
    exact .of_nothing (same.trans named) nothing.1 nothing.2 offers owed
  | false =>
    have gone := waiting_erase found (rfl : (host.away thread).waits = _) .asleep target
    have fewer : (host.away thread).waiting .asleep target ≤ host.waiting .asleep target := by omega
    exact ((attended.covered target).away found stirs looks).offers (attended.nobody rfl fewer)
      offers (Nat.le_of_eq asleep) (Nat.le_of_eq awake.symm)

theorem covered_begun (attended : Attended host owed) (begun : Begun host wakeUps after)
    (target : Target) : Covered after (owed ++ wakeUps) target := by
  have covered := attended.covered target
  have home : host.names target = false → host.waiting .asleep target = 0 := attended.orderly.nobody
  cases begun with
  | told offers waits =>
    have same := waiting_congr waits
    exact covered.offers home offers (Nat.le_of_eq (same .asleep target))
      (Nat.le_of_eq (same .awake target).symm)
  | @roused _ woken offers waits =>
    have roused := host.waiting_rouse woken target
    have same := waiting_congr waits
    refine covered.offers home offers ?_ ?_ <;> rw [same] <;> omega
  | @began _ thread wait offers absent starts proper named waits =>
    obtain ⟨asleep, awake⟩ := waiting_start absent starts waits target
    exact covered.offers home offers (Nat.le_of_eq asleep) (Nat.le_of_eq awake.symm)
  | @dozed _ thread wait offers found stirs missing calm waits =>
    by_cases same : target = wait.target
    · subst same
      have nothing := nothing_of_take? missing
      exact .of_nothing (attended.orderly.waits thread wait found).named nothing.1 nothing.2 offers
        owed
    · have others (stage : Stage) : after.waiting stage target = host.waiting stage target := by
        simpa [Wait.isAt, Ne.symm same] using waiting_renew found waits stage target
      exact covered.offers home offers (Nat.le_of_eq (others _)) (Nat.le_of_eq (others _).symm)
  | @took _ left thread wait ending found stirs taken offers waits =>
    have same := waiting_congr (waits.trans taken.waits.symm)
    have gone := waiting_erase found taken.waits .asleep target
    have fewer : left.waiting .asleep target ≤ host.waiting .asleep target := by omega
    exact (covered.took found stirs taken).offers (attended.nobody taken.nextSerial fewer) offers
      (Nat.le_of_eq (same .asleep target)) (Nat.le_of_eq (same .awake target).symm)
  | @gaveUp _ _ thread wait found stirs missing offers waits =>
    have same : after.waits = (host.away thread).waits := waits
    exact attended.covered_missing found stirs missing offers (waiting_congr same _ _)
      (waiting_congr same _ _)
  | @resumed _ _ thread wait next found stirs missing offers starts proper _ waits =>
    have absent : (host.away thread).waits.get? thread = none := Assoc.get?_erase_self _ _
    obtain ⟨asleep, awake⟩ := waiting_start absent starts waits target
    exact attended.covered_missing found stirs missing offers asleep awake

theorem heard_begun (attended : Attended host owed) (begun : Begun host wakeUps after) :
    Heard after (owed ++ wakeUps) := by
  have heard := attended.heard
  have gone (thread : ThreadId) : Heard (host.away thread) owed :=
    heard.mono rfl fun other wait found _ => Assoc.get?_of_erase found
  cases begun with
  | told offers waits => exact heard.offers offers fun thread wait found _ => waits ▸ found
  | @roused _ woken offers waits =>
    exact heard.offers offers fun thread wait found asleep =>
      (asleep_of_rouse (waits ▸ found) asleep).1
  | @began _ thread wait offers absent starts proper named waits =>
    exact heard.offers offers fun other sleeper => asleep_of_start starts waits
  | @dozed _ thread wait offers found stirs missing calm waits =>
    -- Who falls asleep has just looked for an alert.
    intro other sleeper there asleep alertable alerted
    rw [waits, Assoc.get?_insert] at there
    split at there
    · next same =>
      cases there
      subst same
      rcases offers.alerts other wait found alertable alerted with already | told
      · simp [already, show wait.options.alertable = true from alertable] at calm
      · cases told
    · have before := Assoc.get?_of_erase there
      rcases offers.alerts other sleeper before alertable alerted with already | told
      · exact List.mem_append_left _ (heard other sleeper before asleep alertable already)
      · cases told
  | @took _ left thread wait ending found stirs taken offers waits =>
    have kept : Heard left owed := (gone thread).mono taken.controls fun other wait found _ =>
      taken.waits ▸ found
    exact kept.offers offers fun other wait found _ => by rw [taken.waits]; rwa [waits] at found
  | @gaveUp _ _ thread wait found stirs missing offers waits =>
    exact (gone thread).offers offers fun other wait found _ => by rwa [waits] at found
  | @resumed _ _ thread wait next found stirs missing offers starts proper _ waits =>
    exact (gone thread).offers offers fun other sleeper => asleep_of_start starts waits

/-- Nobody sleeps untold when a call began, as long as its wake-ups are owed. -/
theorem begun (attended : Attended host owed) (begun : Begun host wakeUps after) :
    Attended after (owed ++ wakeUps) :=
  ⟨attended.orderly.begun begun, attended.covered_begun begun, attended.heard_begun begun⟩

theorem rouse (attended : Attended host owed) (woken : ThreadId → Wait → Bool) :
    Attended (host.rouse woken) owed :=
  ⟨attended.orderly.rouse woken, fun target => (attended.covered target).rouse woken,
    attended.heard.mono rfl fun _ _ found asleep => (asleep_of_rouse found asleep).1⟩

theorem arrive {early late : List WakeUp} {wakeUp : WakeUp}
    (attended : Attended host (early ++ wakeUp :: late)) {woken : ThreadId → Wait → Bool}
    (reaches : host.Reaches wakeUp woken) : Attended (host.rouse woken) (early ++ late) := by
  refine ⟨attended.orderly.rouse woken, fun target => (attended.covered target).arrive reaches, ?_⟩
  intro thread wait found asleep alertable alerted
  obtain ⟨before, unwoken⟩ := asleep_of_rouse found asleep
  have told := attended.heard thread wait before asleep alertable alerted
  simp only [List.mem_append, List.mem_cons] at told ⊢
  refine told.imp_right fun there => there.resolve_left fun same => ?_
  -- It was this one, and it was meant for everyone there.
  subst same
  have sleeps : isSleeper wait.target (thread, wait) = true := by simp [isSleeper, asleep]
  have woke : woken thread wait = true := reaches (thread, wait) (Assoc.mem_of_get? before) sleeps
  rw [unwoken] at woke
  cases woke

/-- What is owed for a signal that is not set can be forgone. -/
theorem forgo {early late : List WakeUp} {serial : Nat} {signal : Sync.Signal}
    (attended : Attended host (early ++ ⟨.signal serial, false⟩ :: late))
    (found : host.signals.get? serial = some signal) (unset : signal.isSet = false) :
    Attended host (early ++ late) := by
  have told : ∀ target, ⟨target, true⟩ ∈ early ++ WakeUp.mk (.signal serial) false :: late →
      ⟨target, true⟩ ∈ early ++ late := by
    intro target there
    simpa using there
  refine ⟨attended.orderly, fun target => ?_, fun thread wait there asleep alertable alerted =>
    told _ (attended.heard thread wait there asleep alertable alerted)⟩
  by_cases here : target = .signal serial
  · have closed : host.isOpen target = false := by simp [isOpen, here, found, unset]
    have empty : host.slots target = 0 := by simp [slots, here, found, unset]
    exact .inr (.inr ⟨closed, empty ▸ Nat.zero_le _⟩)
  · have count : (early ++ ⟨.signal serial, false⟩ :: late).count ⟨target, false⟩ =
        (early ++ late).count ⟨target, false⟩ := by
      simp [List.count_append, Ne.symm here]
    have covered := attended.covered target
    unfold Covered at covered ⊢
    rw [count] at covered
    exact covered.imp_left (told target)

theorem respin (attended : Attended host owed) {serial spins : Nat} {lock : Sync.CriticalSection}
    (found : host.locks.get? serial = some lock) :
    Attended { host with locks := host.locks.insert serial { lock with spins } } owed := by
  have begun : Begun host []
      { host with locks := host.locks.insert serial { lock with spins } } := by
    refine .told ⟨fun target _ there => .inl ?_, fun target _ => ?_, fun _ _ _ _ alerted =>
      .inl alerted, fun _ there => .inl there⟩ rfl (Nat.le_refl _) (Nat.le_refl _)
    · cases target <;> exact there
    · cases target with
      | lock other =>
        by_cases same : other = serial
        · subst same
          simp [slots, found]
        · simp [slots, same]
      | signal | semaphore | gate | exit | notice | workers | sleep => exact Nat.le_add_right _ _
  simpa using attended.begun begun

end Attended

/-- What a thread waits for is there: the signal is set, a slot is free, nobody is inside the lock,
the gate was opened or cancelled, the thread has ended, or a notice is queued. -/
def isThere (host : Host) : Target → Bool
  | .signal serial => (host.signals.get? serial).any Sync.Signal.isSet
  | .semaphore serial =>
      (host.semaphores.get? serial).any fun semaphore => decide (0 < semaphore.count)
  | .lock serial => (host.locks.get? serial).any fun lock => lock.owner? = none
  | .gate thread => decide ((host.control thread).gate ≠ .suspended)
  | .exit thread => (host.control thread).exited
  | .notice => !host.registry.events.pending.isEmpty
  | .workers _ | .sleep _ => false

theorem isThere_of_nothing (closed : host.isOpen target = false) (empty : host.slots target = 0) :
    host.isThere target = false := by
  cases target with
  | signal serial =>
    cases found : host.signals.get? serial with
    | none => simp [isThere, found]
    | some signal => cases lasts : signal.lasting <;> simp_all [isThere, isOpen, slots]
  | semaphore serial =>
    cases found : host.semaphores.get? serial with
    | none => simp [isThere, found]
    | some semaphore => simpa [isThere, slots, found] using empty
  | lock serial =>
    cases found : host.locks.get? serial with
    | none => simp [isThere, found]
    | some lock =>
      cases held : lock.hold with
      | none => simp [slots, found, held] at empty
      | some hold => simp [isThere, found, Sync.CriticalSection.owner?, held]
  | gate thread =>
    cases gate : (host.control thread).gate with
    | suspended => simp [isThere, gate]
    | running | cancelled => simp [isOpen, gate, Tasks.Gate.isOpen] at closed
  | exit thread => exact closed
  | notice => simpa [isThere, slots] using empty
  | workers | sleep => rfl

end Steward.Host

namespace Steward.Scene

open Host

variable {config : Config} {opened : String → Except Error Trace.Sink} {created : Host}
  {scene last : Scene} {deeds : List SyncDeed}

theorem Move.attended (move : Move scene deeds last) (attended : Attended scene.host scene.owed) :
    Attended last.host last.owed := by
  cases move with
  | called call accepted host owed =>
    rw [host, owed]
    exact attended.begun (begun_begin attended.orderly accepted)
  | arrived woken owed reaches host left =>
    rw [owed] at attended
    rw [host, left]
    exact attended.arrive reaches
  | forwent owed found unset host left =>
    rw [owed] at attended
    rw [host, left]
    exact attended.forgo found unset
  | stirred woken host owed =>
    rw [host, owed]
    exact attended.rouse woken
  | respun found host owed =>
    rw [host, owed]
    exact attended.respin found

/-- No wake-up is lost. However calls, wake-ups and looks are interleaved on a new host: when no
wake-up is on its way and everybody who was woken has looked, nobody waits for something that is
there, and nobody sleeps under an alert that would end the wait. -/
theorem isThere_of_rest (made : Host.create config opened = .ok created)
    (run : Run { host := created } deeds last) (delivered : last.owed = [])
    (rest : last.host.isStirring = false) {thread : ThreadId} {wait : Wait}
    (found : last.host.waits.get? thread = some wait) :
    last.host.isThere wait.target = false ∧
      (wait.options.alertable = true → last.host.isAlerted thread = false) := by
  -- With nothing owed and nobody awake, what covers a target leaves nothing to be found there.
  let held : List SyncDeed → Scene → Prop := fun _ scene => Attended scene.host scene.owed
  have attended : held deeds last :=
    run.induction (.of_nobody (.create made) (nobody_of_create made).1) fun _ _ _ _ move kept =>
      move.attended kept
  have resting : ∀ entry ∈ last.host.waits.entries, entry.2.stage = .asleep := by
    simpa [isStirring, Assoc.values] using rest
  have inside := Assoc.mem_of_get? found
  have sleeps : wait.stage = .asleep := resting (thread, wait) inside
  have asleep : 0 < last.host.waiting .asleep wait.target := by
    simp only [waiting, Assoc.count, Assoc.values, List.countP_map, List.countP_pos_iff]
    exact ⟨(thread, wait), inside, by simp [Wait.isAt, sleeps]⟩
  have awake : last.host.waiting .awake wait.target = 0 := by
    simp only [waiting, Assoc.count, Assoc.values, List.countP_map, List.countP_eq_zero]
    exact fun entry inside => by simp [Wait.isAt, resting entry inside]
  have heard := attended.heard
  have covered := attended.covered wait.target
  rw [delivered] at heard covered
  constructor
  · rcases covered with told | enough | ⟨closed, few⟩
    · cases told
    · rw [List.count_nil] at enough
      exact absurd asleep (Nat.not_lt.2 enough)
    · rw [awake, List.count_nil] at few
      exact isThere_of_nothing closed (Nat.le_zero.1 few)
  · intro alertable
    cases alerted : last.host.isAlerted thread with
    | false => rfl
    | true => cases heard thread wait found sleeps alertable alerted

/-- Two threads sleep on a signal that is set once. -/
def twoSleepers : List Choice :=
  [.call .spawn, .call .spawn, .call (.addSignal { lasting := false }),
    .call (.wait ⟨1⟩ (.signal 0) none {}), .call (.turn ⟨1⟩),
    .call (.wait ⟨2⟩ (.signal 0) none { alertable := true }), .call (.turn ⟨2⟩),
    .call (.setSignal 0), .arrive, .call (.turn ⟨1⟩)]

theorem isThere_of_rest_twoSleepers :
    ∃ start, Host.create {} (fun _ => .ok (.memory 0 [])) = .ok start ∧
      ∃ last, Scene.play { host := start } twoSleepers =
          some ([.set 0, .ended ⟨1⟩ (.signal 0) .signaled], last) ∧
        last.owed = [] ∧ last.host.isStirring = false ∧
        ∃ wait, last.host.waits.get? ⟨2⟩ = some wait ∧ wait.target = .signal 0 ∧
          last.host.isThere (.signal 0) = false ∧ last.host.isAlerted ⟨2⟩ = false := by
  refine ⟨_, rfl, _, rfl, rfl, rfl, _, rfl, rfl, ?_⟩
  have rest :=
    @isThere_of_rest {} (fun _ => .ok (.memory 0 [])) _ _ _ rfl (run_of_play twoSleepers rfl) rfl
      rfl ⟨2⟩ _ rfl
  exact ⟨rest.1, rest.2 rfl⟩

end Steward.Scene
