import Steward.Domain.Event

/-! The way of notices through a queue, from the calls that threads made at it, one at a time. A
notice that was accepted is taken by one poll, dropped by one purge, or waits. -/

set_option autoImplicit false

namespace Steward.Domain

/-- What a call at a queue came to. -/
inductive Deed where
  | posted (event : Event) (accepted : Bool)
  | polled (event : Option Event)
  | purged (domain : DomainId) (count : Nat)
  /-- Nothing was told to anybody, as when a poll goes on waiting. -/
  | waited
  deriving DecidableEq

namespace Deed

def accepted? : Deed → Option Event
  | posted event true => some event
  | _ => none

def returned? : Deed → Option Event
  | polled event => event
  | _ => none

theorem eq_posted_of_accepted? {deed : Deed} {event : Event}
    (accepts : deed.accepted? = some event) : deed = .posted event true := by
  unfold accepted? at accepts
  split at accepts
  · cases accepts
    rfl
  · cases accepts

/-- A notice of a domain was accepted. -/
def concerns (domain : DomainId) (deed : Option Deed) : Bool :=
  (deed.bind accepted?).any fun event => event.domain = domain

theorem exists_of_concerns {domain : DomainId} {deed : Option Deed}
    (concerned : concerns domain deed = true) :
    ∃ event, deed = some (.posted event true) ∧ event.domain = domain := by
  unfold concerns at concerned
  cases told : deed.bind accepted? with
  | none => simp [told] at concerned
  | some event =>
    obtain ⟨made, rfl, accepts⟩ := Option.bind_eq_some_iff.1 told
    exact ⟨event, congrArg some (eq_posted_of_accepted? accepts), by simpa [told] using concerned⟩

@[simp] theorem concerns_posted (domain : DomainId) (event : Event) :
    concerns domain (some (.posted event true)) = decide (event.domain = domain) := rfl

/-- What the queue does for a deed. -/
inductive Does (queue : EventQueue) : Deed → EventQueue → Prop where
  | posted (event : Event) :
      Does queue (.posted event (queue.post event).1) (queue.post event).2
  | taken {event : Event} {left : EventQueue} (found : queue.poll? = some (event, left)) :
      Does queue (.polled (some event)) left
  | missed (empty : queue.poll? = none) : Does queue (.polled none) queue
  | purged (domain : DomainId) :
      Does queue (.purged domain (queue.purge domain).1) (queue.purge domain).2
  | waited : Does queue .waited queue

end Deed

/-- The deeds that led from an empty queue to this one. -/
inductive History : List Deed → EventQueue → Prop where
  | empty : History [] {}
  | more {deeds : List Deed} {deed : Deed} {queue next : EventQueue}
      (before : History deeds queue) (does : deed.Does queue next) :
      History (deeds ++ [deed]) next

theorem Event.same_comm (first second : Event) : first.same second = second.same first := by
  simp only [same, @eq_comm _ first.kind, @eq_comm _ first.domain]

theorem Event.same_eq_false_iff {first second : Event} :
    first.same second = false ↔ (first.kind = second.kind → first.domain ≠ second.domain) := by
  simp [same]

namespace EventQueue

theorem pending_post (queue : EventQueue) (event : Event) :
    (queue.post event).2.pending =
      if (queue.post event).1 then queue.pending ++ [event] else queue.pending := by
  unfold post
  split <;> rfl

theorem post_eq_true_iff (queue : EventQueue) (event : Event) :
    (queue.post event).1 = true ↔ ∀ queued ∈ queue.pending, event.same queued = false := by
  unfold post
  split <;> simp_all

theorem pending_of_poll? {queue left : EventQueue} {event : Event}
    (found : queue.poll? = some (event, left)) : queue.pending = event :: left.pending := by
  unfold poll? at found
  split at found
  · cases found
  · next pending =>
    cases found
    exact pending

theorem pending_purge (queue : EventQueue) (domain : DomainId) :
    (queue.purge domain).2.pending = queue.pending.filter fun event => event.domain ≠ domain := rfl

theorem purge_count (queue : EventQueue) (domain : DomainId) :
    (queue.purge domain).1 = queue.pending.countP fun event => event.domain = domain := by
  have split := @List.length_eq_countP_add_countP _ (fun event : Event =>
    decide (event.domain = domain)) queue.pending
  have kept : (queue.pending.filter fun event => decide (event.domain ≠ domain)).length =
      queue.pending.countP fun event => decide ¬decide (event.domain = domain) = true := by
    simp only [List.countP_eq_length_filter, decide_eq_true_eq, ne_eq]
  simp only [purge]
  omega

/-- No two notices of the queue say the same. -/
def Apart (queue : EventQueue) : Prop :=
  queue.pending.Pairwise fun first second => first.same second = false

theorem Apart.next {queue next : EventQueue} {deed : Deed} (apart : queue.Apart)
    (does : deed.Does queue next) : next.Apart := by
  cases does with
  | posted event =>
    unfold Apart
    rw [pending_post]
    split
    · next new =>
      rw [List.pairwise_append]
      refine ⟨apart, by simp, ?_⟩
      intro queued inside last single
      cases List.mem_singleton.1 single
      have other := (post_eq_true_iff queue event).1 new queued inside
      rwa [Event.same_comm]
    · exact apart
  | taken found =>
    unfold Apart at apart
    rw [pending_of_poll? found] at apart
    exact apart.of_cons
  | missed => exact apart
  | purged domain => exact apart.filter _
  | waited => exact apart

end EventQueue

def accepted (deeds : List Deed) : List Event := deeds.filterMap Deed.accepted?

def returned (deeds : List Deed) : List Event := deeds.filterMap Deed.returned?

theorem accepted_append (deeds : List Deed) (deed : Deed) :
    accepted (deeds ++ [deed]) = accepted deeds ++ deed.accepted?.toList := by
  cases accepts : deed.accepted? <;> simp [accepted, accepts]

theorem returned_append (deeds : List Deed) (deed : Deed) :
    returned (deeds ++ [deed]) = returned deeds ++ deed.returned?.toList := by
  cases returns : deed.returned? <;> simp [returned, returns]

/-- The numbers of the deeds that pass a test. -/
def places (test : Deed → Bool) (deeds : List Deed) : List Nat :=
  (List.range deeds.length).filter fun number => deeds[number]?.any test

theorem places_append (test : Deed → Bool) (deeds : List Deed) (deed : Deed) :
    places test (deeds ++ [deed]) =
      places test deeds ++ if test deed then [deeds.length] else [] := by
  have before : (List.range deeds.length).filter (fun number =>
      (deeds ++ [deed])[number]?.any test) = places test deeds := by
    apply List.filter_congr
    intro number inside
    rw [List.getElem?_append_left (List.mem_range.1 inside)]
  rw [places, List.length_append, List.length_singleton, List.range_succ, List.filter_append,
    before]
  simp [List.filter_cons]

theorem lt_of_mem_places {test : Deed → Bool} {deeds : List Deed} {number : Nat}
    (inside : number ∈ places test deeds) : number < deeds.length :=
  List.mem_range.1 (List.mem_filter.1 inside).1

theorem getElem?_more_iff {deeds : List Deed} {deed other : Deed} {number : Nat} :
    (deeds ++ [deed])[number]? = some other ↔
      deeds[number]? = some other ∨ number = deeds.length ∧ deed = other := by
  rcases Nat.lt_trichotomy number deeds.length with before | rfl | behind
  · rw [List.getElem?_append_left before]
    simp [Nat.ne_of_lt before]
  · simp
  · rw [List.getElem?_eq_none (by simp; omega), List.getElem?_eq_none (Nat.le_of_lt behind)]
    simp [Nat.ne_of_gt behind]

/-- What became of the notices that the deeds accepted. A deed goes by its number. -/
structure Delivered (deeds : List Deed) (pending : List Event) (taken dropped : List (Nat × Nat))
    (waiting : List Nat) : Prop where
  /-- Every accepted notice was taken, was dropped, or waits, and one of them only. -/
  fates : (taken.map Prod.fst ++ (dropped.map Prod.fst ++ waiting)).Perm
    (places (fun deed => deed.accepted?.isSome) deeds)
  /-- Every poll that returned a notice took one. -/
  polls : taken.map Prod.snd = places (fun deed => deed.returned?.isSome) deeds
  /-- Notices are taken in the order of the posts, and before those that wait. -/
  inOrder : (taken.map Prod.fst ++ waiting).Pairwise (· < ·)
  took : ∀ post poll, (post, poll) ∈ taken → post < poll ∧ ∃ event,
    deeds[post]? = some (.posted event true) ∧ deeds[poll]? = some (.polled (some event))
  drops : ∀ post purge, (post, purge) ∈ dropped → post < purge ∧ ∃ event count,
    deeds[post]? = some (.posted event true) ∧ deeds[purge]? = some (.purged event.domain count)
  counts : ∀ purge domain count, deeds[purge]? = some (.purged domain count) →
    (dropped.countP fun pair => pair.2 = purge) = count
  queued : waiting.map (fun post => deeds[post]?) =
    pending.map fun event => some (.posted event true)

namespace Delivered

variable {deeds : List Deed} {pending : List Event} {taken dropped : List (Nat × Nat)}
  {waiting : List Nat}

theorem empty : Delivered [] [] [] [] [] := by
  constructor <;> simp [places]

theorem lt_of_mem (delivered : Delivered deeds pending taken dropped waiting) {post : Nat}
    (inside : post ∈ taken.map Prod.fst ++ (dropped.map Prod.fst ++ waiting)) :
    post < deeds.length := lt_of_mem_places (delivered.fates.mem_iff.1 inside)

theorem took_more (delivered : Delivered deeds pending taken dropped waiting) (deed : Deed) :
    ∀ post poll, (post, poll) ∈ taken → post < poll ∧ ∃ event,
      (deeds ++ [deed])[post]? = some (.posted event true) ∧
        (deeds ++ [deed])[poll]? = some (.polled (some event)) := by
  intro post poll inside
  obtain ⟨earlier, event, posted, polled⟩ := delivered.took post poll inside
  exact ⟨earlier, event, getElem?_more_iff.2 (.inl posted), getElem?_more_iff.2 (.inl polled)⟩

theorem drops_more (delivered : Delivered deeds pending taken dropped waiting) (deed : Deed) :
    ∀ post purge, (post, purge) ∈ dropped → post < purge ∧ ∃ event count,
      (deeds ++ [deed])[post]? = some (.posted event true) ∧
        (deeds ++ [deed])[purge]? = some (.purged event.domain count) := by
  intro post purge inside
  obtain ⟨earlier, event, count, posted, purged⟩ := delivered.drops post purge inside
  exact ⟨earlier, event, count, getElem?_more_iff.2 (.inl posted),
    getElem?_more_iff.2 (.inl purged)⟩

theorem counts_more (delivered : Delivered deeds pending taken dropped waiting) {deed : Deed}
    (other : ∀ domain count, deed ≠ .purged domain count) :
    ∀ purge domain count, (deeds ++ [deed])[purge]? = some (.purged domain count) →
      (dropped.countP fun pair => pair.2 = purge) = count := by
  intro purge domain count found
  rcases getElem?_more_iff.1 found with before | ⟨-, same⟩
  · exact delivered.counts purge domain count before
  · exact absurd same (other domain count)

theorem queued_more (delivered : Delivered deeds pending taken dropped waiting) (deed : Deed) :
    waiting.map (fun post => (deeds ++ [deed])[post]?) =
      pending.map fun event => some (.posted event true) := by
  rw [← delivered.queued]
  apply List.map_congr_left
  intro post inside
  exact List.getElem?_append_left (delivered.lt_of_mem (by simp [inside]))

theorem other (delivered : Delivered deeds pending taken dropped waiting) {deed : Deed}
    (accepts : deed.accepted? = none) (returns : deed.returned? = none)
    (purges : ∀ domain count, deed ≠ .purged domain count) :
    Delivered (deeds ++ [deed]) pending taken dropped waiting where
  fates := by simpa [places_append, accepts] using delivered.fates
  polls := by simpa [places_append, returns] using delivered.polls
  inOrder := delivered.inOrder
  took := delivered.took_more deed
  drops := delivered.drops_more deed
  counts := delivered.counts_more purges
  queued := delivered.queued_more deed

theorem post (delivered : Delivered deeds pending taken dropped waiting) (event : Event) :
    Delivered (deeds ++ [.posted event true]) (pending ++ [event]) taken dropped
      (waiting ++ [deeds.length]) where
  fates := by
    simpa [places_append, Deed.accepted?] using delivered.fates.append_right [deeds.length]
  polls := by simpa [places_append, Deed.returned?] using delivered.polls
  inOrder := by
    rw [← List.append_assoc, List.pairwise_append]
    refine ⟨delivered.inOrder, by simp, ?_⟩
    intro earlier inside last single
    cases List.mem_singleton.1 single
    rcases List.mem_append.1 inside with first | second
    · exact delivered.lt_of_mem (by simp [first])
    · exact delivered.lt_of_mem (by simp [second])
  took := delivered.took_more _
  drops := delivered.drops_more _
  counts := delivered.counts_more fun _ _ => Deed.noConfusion
  queued := by simp [delivered.queued_more]

theorem poll {event : Event} {post : Nat}
    (delivered : Delivered deeds (event :: pending) taken dropped (post :: waiting)) :
    Delivered (deeds ++ [.polled (some event)]) pending (taken ++ [(post, deeds.length)]) dropped
      waiting where
  fates := by
    -- The oldest post that waits goes to the end of those that were taken.
    have moved : (taken.map Prod.fst ++ post :: (dropped.map Prod.fst ++ waiting)).Perm
        (taken.map Prod.fst ++ (dropped.map Prod.fst ++ post :: waiting)) :=
      List.perm_middle.symm.append_left _
    simpa [places_append, Deed.accepted?] using moved.trans delivered.fates
  polls := by simp [places_append, Deed.returned?, delivered.polls]
  inOrder := by simpa using delivered.inOrder
  took := by
    intro earlier poll inside
    rcases List.mem_append.1 inside with before | single
    · exact delivered.took_more _ earlier poll before
    · cases List.mem_singleton.1 single
      have posted := (List.cons.inj delivered.queued).1
      exact ⟨delivered.lt_of_mem (by simp), event, getElem?_more_iff.2 (.inl posted),
        getElem?_more_iff.2 (.inr ⟨rfl, rfl⟩)⟩
  drops := delivered.drops_more _
  counts := delivered.counts_more fun _ _ => Deed.noConfusion
  queued := (List.cons.inj (delivered.queued_more (.polled (some event)))).2

theorem purge (delivered : Delivered deeds pending taken dropped waiting) (domain : DomainId) :
    Delivered (deeds ++ [.purged domain (pending.countP fun event => event.domain = domain)])
      (pending.filter fun event => event.domain ≠ domain) taken
      (dropped ++ (waiting.filter fun post => Deed.concerns domain deeds[post]?).map
        fun post => (post, deeds.length))
      (waiting.filter fun post => !Deed.concerns domain deeds[post]?) where
  fates := by
    -- What waited is parted into what the purge drops and what it leaves.
    have parted := List.filter_append_perm (fun post => Deed.concerns domain deeds[post]?) waiting
    have whole := ((parted.append_left (dropped.map Prod.fst)).append_left
      (taken.map Prod.fst)).trans delivered.fates
    simpa [places_append, Deed.accepted?, Function.comp_def] using whole
  polls := by simpa [places_append, Deed.returned?] using delivered.polls
  inOrder := delivered.inOrder.sublist (List.filter_sublist.append_left _)
  took := delivered.took_more _
  drops := by
    intro post purge inside
    rcases List.mem_append.1 inside with before | now
    · exact delivered.drops_more _ post purge before
    · obtain ⟨number, gone, same⟩ := List.mem_map.1 now
      cases same
      obtain ⟨waited, concerned⟩ := List.mem_filter.1 gone
      obtain ⟨event, posted, here⟩ := Deed.exists_of_concerns concerned
      exact ⟨delivered.lt_of_mem (by simp [waited]), event, _, getElem?_more_iff.2 (.inl posted),
        getElem?_more_iff.2 (.inr ⟨rfl, by rw [here]⟩)⟩
  counts := by
    intro purge other count found
    have old : ∀ pair ∈ dropped, pair.2 < deeds.length := by
      rintro ⟨post, earlier⟩ inside
      obtain ⟨-, event, count, -, purged⟩ := delivered.drops post earlier inside
      exact (List.getElem?_eq_some_iff.1 purged).1
    rw [List.countP_append, List.countP_map]
    rcases getElem?_more_iff.1 found with before | ⟨rfl, same⟩
    · -- An earlier purge has nothing to do with what this one drops.
      have within := (List.getElem?_eq_some_iff.1 before).1
      rw [delivered.counts purge other count before, Nat.add_eq_left, List.countP_eq_zero]
      intro post _
      simpa using Nat.ne_of_gt within
    · cases same
      have none : (dropped.countP fun pair => pair.2 = deeds.length) = 0 := by
        rw [List.countP_eq_zero]
        intro pair inside
        simpa using Nat.ne_of_lt (old pair inside)
      have aligned := congrArg (List.countP (Deed.concerns domain)) delivered.queued
      rw [List.countP_map, List.countP_map] at aligned
      rw [none, Nat.zero_add]
      simpa [Function.comp_def, List.countP_filter] using aligned
  queued := by
    have kept := congrArg (List.filter fun deed => !Deed.concerns domain deed)
      (delivered.queued_more (.purged domain (pending.countP fun event => event.domain = domain)))
    rw [List.filter_map, List.filter_map] at kept
    have same : waiting.filter (fun post => !Deed.concerns domain deeds[post]?) =
        waiting.filter fun post => !Deed.concerns domain (deeds ++ [.purged domain
          (pending.countP fun event => event.domain = domain)])[post]? := by
      apply List.filter_congr
      intro post inside
      rw [List.getElem?_append_left (delivered.lt_of_mem (by simp [inside]))]
    rw [same]
    simpa [Function.comp_def] using kept

end Delivered

namespace History

variable {deeds : List Deed} {queue : EventQueue}

theorem apart (history : History deeds queue) : queue.Apart := by
  induction history with
  | empty => exact List.Pairwise.nil
  | more _ does ih => exact ih.next does

theorem exists_delivered (history : History deeds queue) :
    ∃ taken dropped waiting, Delivered deeds queue.pending taken dropped waiting := by
  induction history with
  | empty => exact ⟨[], [], [], Delivered.empty⟩
  | @more deeds deed queue next before does ih =>
    obtain ⟨taken, dropped, waiting, delivered⟩ := ih
    cases does with
    | posted event =>
      rw [EventQueue.pending_post]
      cases (queue.post event).1 with
      | true => exact ⟨_, _, _, delivered.post event⟩
      | false => exact ⟨_, _, _, delivered.other rfl rfl fun _ _ => Deed.noConfusion⟩
    | @taken event next found =>
      rw [EventQueue.pending_of_poll? found] at delivered
      -- Somebody's post is the oldest that waits, since the queue is not empty.
      cases waiting with
      | nil => cases delivered.queued
      | cons post waiting => exact ⟨_, _, _, delivered.poll⟩
    | missed => exact ⟨_, _, _, delivered.other rfl rfl fun _ _ => Deed.noConfusion⟩
    | purged domain =>
      rw [EventQueue.purge_count]
      exact ⟨_, _, _, delivered.purge domain⟩
    | waited => exact ⟨_, _, _, delivered.other rfl rfl fun _ _ => Deed.noConfusion⟩

/-- What polls returned was accepted in the same order, and before all that is still queued. -/
theorem sublist_accepted (history : History deeds queue) :
    (returned deeds ++ queue.pending).Sublist (accepted deeds) := by
  induction history with
  | empty => exact List.Sublist.refl _
  | @more deeds deed queue next before does ih =>
    rw [accepted_append, returned_append]
    cases does with
    | posted event =>
      rw [EventQueue.pending_post]
      cases (queue.post event).1 with
      | true => simpa [Deed.accepted?, Deed.returned?] using ih.append_right [event]
      | false => simpa [Deed.accepted?, Deed.returned?] using ih
    | taken found =>
      rw [EventQueue.pending_of_poll? found] at ih
      simpa [Deed.accepted?, Deed.returned?] using ih
    | missed => simpa [Deed.accepted?, Deed.returned?] using ih
    | purged domain =>
      have kept := (List.Sublist.append_left (@List.filter_sublist _ (fun event : Event =>
        decide (event.domain ≠ domain)) queue.pending) (returned deeds)).trans ih
      simpa [Deed.accepted?, Deed.returned?, EventQueue.pending_purge] using kept
    | waited => simpa [Deed.accepted?, Deed.returned?] using ih

end History

end Steward.Domain
