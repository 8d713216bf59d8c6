import Mathlib.Data.List.Nodup
import Steward.Proofs.Total
import Steward.Proofs.Trace.History

/-! The lock trace tells its history. A collector keeps no record of what it was told, but what
threads hold and the pairs of locks in the order of their acquisition are those of the history. -/

set_option autoImplicit false

namespace Steward.Trace

/-- In ascending order, and not the same. -/
def PairLess (first second : Cookie × Cookie) : Prop :=
  first.1.value < second.1.value ∨
    first.1.value = second.1.value ∧ first.2.value < second.2.value

namespace Collector

variable {collector : Collector} {first second : Cookie}

theorem heldBy_onAcquired (enabled : collector.enabled = true) (thread other : ThreadId)
    (cookie : Cookie) : (collector.onAcquired thread cookie).heldBy other =
      if other = thread then collector.heldBy thread ++ [cookie] else collector.heldBy other := by
  simp only [onAcquired, enabled, if_true, record, heldBy, Assoc.getD, Assoc.get?_insert]
  split <;> rfl

theorem heldBy_onReleased (enabled : collector.enabled = true) (thread other : ThreadId)
    (cookie : Cookie) : (collector.onReleased thread cookie).heldBy other =
      if other = thread then eraseLast (collector.heldBy thread) cookie
      else collector.heldBy other := by
  simp only [onReleased, enabled, if_true, record]
  cases left : eraseLast (collector.heldBy thread) cookie with
  | nil =>
    simp only [heldBy, Assoc.getD, List.isEmpty_nil, if_true, Assoc.get?_erase]
    split <;> rfl
  | cons first rest =>
    simp only [heldBy, Assoc.getD, List.isEmpty_cons, Bool.false_eq_true, if_false,
      Assoc.get?_insert]
    split <;> rfl

theorem mem_foldl_addLock (locks known : List Cookie) (cookie : Cookie) :
    cookie ∈ locks.foldl addLock known ↔ cookie ∈ known ∨ cookie ∈ locks := by
  induction locks generalizing known with
  | nil => simp
  | cons lock rest ih =>
    have more : cookie ∈ addLock known lock ↔ cookie ∈ known ∨ cookie = lock := by
      unfold addLock
      split
      · next there =>
        constructor
        · exact .inl
        · rintro (old | rfl)
          · exact old
          · exact there
      · simp
    rw [List.foldl_cons, ih, more, List.mem_cons, or_assoc]

theorem nodup_foldl_addLock (locks : List Cookie) {known : List Cookie} (distinct : known.Nodup) :
    (locks.foldl addLock known).Nodup := by
  induction locks generalizing known with
  | nil => exact distinct
  | cons lock rest ih =>
    apply ih
    unfold addLock
    split
    · exact distinct
    · next absent =>
      rw [List.nodup_append]
      refine ⟨distinct, List.nodup_singleton lock, fun other there last inside same => ?_⟩
      cases List.mem_singleton.1 inside
      exact absent (same ▸ there)

theorem earlierThan_onAcquired (enabled : collector.enabled = true) (thread : ThreadId)
    (cookie other : Cookie) : (collector.onAcquired thread cookie).earlierThan other =
      if other = cookie then
        ((collector.heldBy thread).filter fun lock => lock ≠ cookie).foldl addLock
          (collector.earlierThan cookie)
      else collector.earlierThan other := by
  simp only [onAcquired, enabled, if_true, record, earlierThan, Assoc.getD, Assoc.get?_insert]
  split <;> rfl

theorem mem_lockOrder : (first, second) ∈ collector.lockOrder ↔
    first ∈ collector.earlierThan second := by
  rw [lockOrder, List.mem_mergeSort, List.mem_flatMap]
  constructor
  · rintro ⟨⟨later, others⟩, inside, there⟩
    obtain ⟨other, among, same⟩ := List.mem_map.1 there
    cases same
    rw [earlierThan, Assoc.getD, Assoc.get?_of_mem inside]
    exact among
  · intro there
    unfold earlierThan Assoc.getD at there
    cases found : collector.earlier.get? second with
    | none =>
      rw [found] at there
      cases there
    | some others =>
      rw [found] at there
      exact ⟨(second, others), Assoc.mem_of_get? found, List.mem_map_of_mem there⟩

theorem nodup_lockOrder (distinct : ∀ cookie, (collector.earlierThan cookie).Nodup) :
    collector.lockOrder.Nodup := by
  rw [lockOrder, (List.mergeSort_perm _ _).nodup_iff, List.nodup_flatMap]
  constructor
  · rintro ⟨later, others⟩ inside
    have known := distinct later
    rw [earlierThan, Assoc.getD, Assoc.get?_of_mem inside] at known
    exact known.map fun _ _ same => congrArg Prod.fst same
  · -- Pairs of different entries differ in the lock that was acquired.
    refine (List.pairwise_map.1 collector.earlier.distinct).imp fun {entry other} apart => ?_
    intro pair inside again
    obtain ⟨_, _, rfl⟩ := List.mem_map.1 inside
    obtain ⟨_, _, same⟩ := List.mem_map.1 again
    exact apart (congrArg Prod.snd same).symm

theorem pairLess_of_pairBefore {pair other : Cookie × Cookie} (ahead : pairBefore pair other = true)
    (apart : pair ≠ other) : PairLess pair other := by
  obtain ⟨⟨first⟩, ⟨second⟩⟩ := pair
  obtain ⟨⟨third⟩, ⟨fourth⟩⟩ := other
  have distinct : first = third → second ≠ fourth := by
    rintro rfl rfl
    exact apart rfl
  simp only [pairBefore, Bool.or_eq_true, Bool.and_eq_true, decide_eq_true_eq, beq_iff_eq] at ahead
  simp only [PairLess]
  omega

theorem lockOrder_ascending (distinct : ∀ cookie, (collector.earlierThan cookie).Nodup) :
    collector.lockOrder.Pairwise PairLess := by
  have sorted : collector.lockOrder.Pairwise fun pair other => pairBefore pair other = true := by
    apply List.pairwise_mergeSort
    · intro pair between other
      simp only [pairBefore, Bool.or_eq_true, Bool.and_eq_true, decide_eq_true_eq, beq_iff_eq]
      omega
    · intro pair other
      simp only [pairBefore, Bool.or_eq_true, Bool.and_eq_true, decide_eq_true_eq, beq_iff_eq]
      omega
  exact (sorted.and (nodup_lockOrder distinct)).imp fun both =>
    pairLess_of_pairBefore both.1 both.2

theorem mem_inversions : (first, second) ∈ collector.inversions ↔
    first.value < second.value ∧ (first, second) ∈ collector.lockOrder ∧
      (second, first) ∈ collector.lockOrder := by
  have back : (second, first) ∈ collector.lockOrder ↔ second ∈ collector.earlierThan first :=
    mem_lockOrder
  rw [inversions, List.mem_filter, Bool.and_eq_true, decide_eq_true_eq, decide_eq_true_eq, back]
  exact and_left_comm

end Collector

/-! ### The collector follows the history -/

/-- Some thread held the first lock at a recorded acquisition of the second, among the first
notices. -/
def Ordered (on : Bool) (notices : List Notice) (count : Nat) (first second : Cookie) : Prop :=
  first ≠ second ∧ ∃ place < count, ∃ thread,
    recorded? on notices place = some (.acquired thread second) ∧
    first ∈ heldAfter on notices place thread

/-- The collector is in the state that the first notices lead to. -/
structure Follows (on : Bool) (notices : List Notice) (count : Nat) (collector : Collector) :
    Prop where
  enabled : collector.enabled = isOn on notices count
  held : ∀ thread, collector.heldBy thread = heldAfter on notices count thread
  ordered : ∀ first second,
    first ∈ collector.earlierThan second ↔ Ordered on notices count first second
  distinct : ∀ cookie, (collector.earlierThan cookie).Nodup

namespace Follows

variable {on : Bool} {notices : List Notice} {count : Nat} {collector : Collector}
  {thread : ThreadId} {cookie : Cookie}

theorem start (on : Bool) (notices : List Notice) (maxEvents : Nat) (sink : Sink) :
    Follows on notices 0 { enabled := on, maxEvents, sink } := by
  constructor
  case enabled => rfl
  case held => exact fun _ => rfl
  case ordered =>
    intro first second
    constructor
    · intro there
      cases there
    · rintro ⟨_, place, below, _⟩
      cases below
  case distinct => exact fun _ => List.nodup_nil

theorem ordered_succ (first second : Cookie) : Ordered on notices (count + 1) first second ↔
    Ordered on notices count first second ∨ first ≠ second ∧ ∃ thread,
      recorded? on notices count = some (.acquired thread second) ∧
      first ∈ heldAfter on notices count thread := by
  unfold Ordered
  constructor
  · rintro ⟨apart, place, below, found⟩
    rcases Nat.lt_or_eq_of_le (Nat.le_of_lt_succ below) with within | rfl
    · exact .inl ⟨apart, place, within, found⟩
    · exact .inr ⟨apart, found⟩
  · rintro (⟨apart, place, below, found⟩ | ⟨apart, found⟩)
    · exact ⟨apart, place, Nat.lt_succ_of_lt below, found⟩
    · exact ⟨apart, count, Nat.lt_succ_self count, found⟩

/-- Only acquisitions add to the order. -/
theorem ordered_succ_of_unacquired
    (unacquired : ∀ thread cookie, recorded? on notices count ≠ some (.acquired thread cookie))
    (first second : Cookie) :
    Ordered on notices (count + 1) first second ↔ Ordered on notices count first second := by
  rw [ordered_succ]
  constructor
  · rintro (old | ⟨_, _, found, _⟩)
    · exact old
    · exact absurd found (unacquired _ _)
  · exact .inl

theorem acquired (follows : Follows on notices count collector)
    (next : notices[count]? = some (.acquired thread cookie))
    (tracing : isOn on notices count = true) :
    Follows on notices (count + 1) (collector.onAcquired thread cookie) := by
  have acquisition : recorded? on notices count = some (.acquired thread cookie) := by
    rw [recorded?, if_pos tracing, next]
  have enabled := follows.enabled.trans tracing
  constructor
  case enabled => simp [Collector.onAcquired, Collector.record, enabled, isOn, next, tracing]
  case held =>
    intro other
    rw [Collector.heldBy_onAcquired enabled, heldAfter_succ_of_acquired acquisition, follows.held,
      follows.held]
  case ordered =>
    intro first second
    rw [ordered_succ, ← follows.ordered, Collector.earlierThan_onAcquired enabled, acquisition]
    by_cases same : second = cookie
    · subst same
      simp [Collector.mem_foldl_addLock, follows.held, and_comm]
    · simp [same, Ne.symm same]
  case distinct =>
    intro other
    rw [Collector.earlierThan_onAcquired enabled]
    split
    · exact Collector.nodup_foldl_addLock _ (follows.distinct cookie)
    · exact follows.distinct other

theorem released (follows : Follows on notices count collector)
    (next : notices[count]? = some (.released thread cookie))
    (tracing : isOn on notices count = true) :
    Follows on notices (count + 1) (collector.onReleased thread cookie) := by
  have release : recorded? on notices count = some (.released thread cookie) := by
    rw [recorded?, if_pos tracing, next]
  have enabled := follows.enabled.trans tracing
  have earlier : ∀ other,
      (collector.onReleased thread cookie).earlierThan other = collector.earlierThan other := by
    intro other
    simp only [Collector.onReleased, enabled, if_true]
    rfl
  constructor
  case enabled => simp [Collector.onReleased, Collector.record, enabled, isOn, next, tracing]
  case held =>
    intro other
    rw [Collector.heldBy_onReleased enabled]
    split
    · next own => rw [own, heldAfter_succ_of_released release, follows.held]
    · next apart => rw [heldAfter_succ_of_released_ne release apart, follows.held]
  case ordered =>
    intro first second
    rw [earlier, follows.ordered, ordered_succ_of_unacquired]
    intro _ _ acquisition
    cases release.symm.trans acquisition
  case distinct =>
    intro other
    rw [earlier]
    exact follows.distinct other

theorem aside (follows : Follows on notices count collector) {after : Collector}
    (held : after.held = collector.held) (earlier : after.earlier = collector.earlier)
    (enabled : after.enabled = isOn on notices (count + 1))
    (kept : notices[count]? ≠ some (.switched false))
    (aside : ∀ notice, recorded? on notices count = some notice → notice.isAside = true) :
    Follows on notices (count + 1) after := by
  have same : ∀ cookie, after.earlierThan cookie = collector.earlierThan cookie := by
    intro cookie
    rw [Collector.earlierThan, earlier, Collector.earlierThan]
  constructor
  case enabled => exact enabled
  case held =>
    intro thread
    rw [heldAfter_succ_of_aside kept aside, ← follows.held, Collector.heldBy, held,
      Collector.heldBy]
  case ordered =>
    intro first second
    rw [same, follows.ordered, ordered_succ_of_unacquired]
    intro thread cookie acquisition
    cases aside _ acquisition
  case distinct =>
    intro cookie
    rw [same]
    exact follows.distinct cookie

theorem switchedOff (follows : Follows on notices count collector)
    (next : notices[count]? = some (.switched false)) :
    Follows on notices (count + 1) (collector.setEnabled false) := by
  constructor
  case enabled => simp [Collector.setEnabled, isOn, next]
  case held =>
    intro thread
    rw [heldAfter_succ_of_off next]
    rfl
  case ordered =>
    intro first second
    rw [ordered_succ_of_unacquired]
    · exact follows.ordered first second
    · intro thread cookie acquisition
      cases next.symm.trans (getElem?_of_recorded acquisition)
  case distinct => exact follows.distinct

/-- What the collector is told while tracing is off passes it by. -/
theorem untraced (follows : Follows on notices count collector)
    (off : isOn on notices count = false) {notice : Notice} (next : notices[count]? = some notice)
    (other : ∀ enabled, notice ≠ .switched enabled) :
    Follows on notices (count + 1) collector := by
  apply follows.aside rfl rfl
  · exact follows.enabled.trans (isOn_succ next other).symm
  · rw [next]
    intro same
    exact other false (Option.some.inj same)
  · intro notice found
    rw [recorded?, off] at found
    cases found

theorem silent (follows : Follows on notices count collector) {notice : Notice}
    (next : notices[count]? = some notice) (aside : notice.isAside = true) {after : Collector}
    (held : after.held = collector.held) (earlier : after.earlier = collector.earlier)
    (enabled : after.enabled = isOn on notices (count + 1)) :
    Follows on notices (count + 1) after := by
  apply follows.aside held earlier enabled
  · rw [next]
    intro same
    cases same
    cases aside
  · intro other found
    cases next.symm.trans (getElem?_of_recorded found)
    exact aside

/-- Whatever the collector is told, it follows. -/
theorem heed (follows : Follows on notices count collector) {notice : Notice}
    (next : notices[count]? = some notice) :
    Follows on notices (count + 1) (collector.heed notice) := by
  cases notice with
  | acquired thread cookie =>
    cases tracing : isOn on notices count with
    | true => exact follows.acquired next tracing
    | false =>
      have same : collector.onAcquired thread cookie = collector := by
        simp [Collector.onAcquired, follows.enabled, tracing]
      rw [Collector.heed, same]
      exact follows.untraced tracing next fun _ switch => by cases switch
  | released thread cookie =>
    cases tracing : isOn on notices count with
    | true => exact follows.released next tracing
    | false =>
      have same : collector.onReleased thread cookie = collector := by
        simp [Collector.onReleased, follows.enabled, tracing]
      rw [Collector.heed, same]
      exact follows.untraced tracing next fun _ switch => by cases switch
  | switched enabled =>
    cases enabled with
    | true =>
      have on : (collector.setEnabled true).enabled = isOn on notices (count + 1) := by
        simp [Collector.setEnabled, isOn, next]
      exact follows.silent next rfl rfl rfl on
    | false => exact follows.switchedOff next
  | deadlock report =>
    have kept : isOn on notices (count + 1) = isOn on notices count :=
      isOn_succ next fun _ switch => by cases switch
    simp only [Collector.heed, Collector.onDeadlock]
    split
    · exact follows.silent next rfl rfl rfl (follows.enabled.trans kept.symm)
    · exact follows.silent next rfl rfl rfl (follows.enabled.trans kept.symm)
  | flushed | taken =>
    have kept : isOn on notices (count + 1) = isOn on notices count :=
      isOn_succ next fun _ switch => by cases switch
    exact follows.silent next rfl rfl rfl (follows.enabled.trans kept.symm)

theorem run (on : Bool) (maxEvents : Nat) (sink : Sink) (notices : List Notice) (count : Nat) :
    Follows on notices count
      (Collector.heedAll { enabled := on, maxEvents, sink } (notices.take count)) := by
  induction count with
  | zero => exact .start on notices maxEvents sink
  | succ count ih =>
    cases next : notices[count]? with
    | some notice =>
      rw [Collector.heedAll_take_succ _ next]
      exact ih.heed next
    | none =>
      -- Behind the last notice nothing is recorded any more.
      have short := List.getElem?_eq_none_iff.1 next
      rw [List.take_of_length_le short] at ih
      rw [List.take_of_length_le (Nat.le_succ_of_le short)]
      apply ih.aside rfl rfl
      · rw [ih.enabled, isOn, next]
      · simp [next]
      · intro notice found
        cases next.symm.trans (getElem?_of_recorded found)

end Follows

/-- Behind any notices, a thread holds the locks of its recorded acquisitions since tracing was
last switched off, in their order, without those that a release cancelled. The lock order is the
ascending list of the pairs of different locks of which some thread held the first when it acquired
the second, and the inversions are the pairs that are there in both orders, the smaller first. -/
theorem trace_follows_history (on : Bool) (maxEvents : Nat) (sink : Sink) (notices : List Notice)
    (count : Nat) :
    let collector := Collector.heedAll { enabled := on, maxEvents, sink } (notices.take count)
    (∀ thread, collector.heldBy thread = heldAfter on notices count thread) ∧
    collector.lockOrder.Pairwise PairLess ∧
    (∀ first second, (first, second) ∈ collector.lockOrder ↔
      first ≠ second ∧ ∃ place < count, ∃ thread,
        recorded? on notices place = some (.acquired thread second) ∧
        first ∈ heldAfter on notices place thread) ∧
    collector.inversions.Pairwise PairLess ∧
    ∀ first second, (first, second) ∈ collector.inversions ↔ first.value < second.value ∧
      (first, second) ∈ collector.lockOrder ∧ (second, first) ∈ collector.lockOrder := by
  have follows := Follows.run on maxEvents sink notices count
  have ascending := Collector.lockOrder_ascending follows.distinct
  refine ⟨follows.held, ascending, fun first second => ?_, ascending.filter _, fun _ _ => ?_⟩
  · exact Collector.mem_lockOrder.trans (follows.ordered first second)
  · exact Collector.mem_inversions

/-- The first thread takes a lock twice and gives it back between others; the second loses what it
holds when tracing is switched off. -/
example : (List.range 2).map (fun thread => heldAfter true
    [.acquired ⟨0⟩ ⟨7⟩, .acquired ⟨0⟩ ⟨8⟩, .acquired ⟨1⟩ ⟨8⟩, .switched false, .released ⟨1⟩ ⟨8⟩,
      .switched true, .acquired ⟨0⟩ ⟨7⟩, .acquired ⟨0⟩ ⟨9⟩, .acquired ⟨0⟩ ⟨7⟩, .released ⟨0⟩ ⟨7⟩,
      .released ⟨0⟩ ⟨8⟩] 11 ⟨thread⟩) = [[⟨7⟩, ⟨9⟩], []] := by
  decide

end Steward.Trace
