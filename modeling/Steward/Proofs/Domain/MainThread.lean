import Steward.Proofs.Domain.Leaving

/-! A domain ends with its main thread only while that thread is in it. A release takes down the
domain that the thread is in now; a main thread that was brought into another domain leaves the
first one behind, and no release of the thread ends it any more. -/

set_option autoImplicit false

namespace Steward.Domain.Registry

/-- The main thread of a domain, if it is live. -/
def main? (registry : Registry) (domain : DomainId) : Option ThreadId :=
  (registry.domains.get? domain).map Record.mainThread

/-- Every live domain has its main thread in it. -/
def Anchored (registry : Registry) : Prop :=
  ∀ domain thread, registry.main? domain = some thread →
    registry.bindings.get? thread = some domain

/-- The operation brings the main thread of a domain out of it, into another one. -/
def Deserts (registry : Registry) (operation : Operation) : Prop :=
  ∃ domain thread other, registry.main? domain = some thread ∧
    registry.bindings.get? thread = some domain ∧
    (registry.perform operation).bindings.get? thread = some other ∧ other ≠ domain

variable {registry after : Registry} {operation : Operation}

theorem main?_modify (domains : Assoc DomainId Record) (target other : DomainId)
    {change : Record → Record} (keeps : ∀ record, (change record).mainThread = record.mainThread) :
    ((domains.modify target change).get? other).map Record.mainThread =
      (domains.get? other).map Record.mainThread := by
  rw [Assoc.get?_modify, Option.map_map]
  refine Option.map_congr fun record _ => ?_
  simp only [Function.comp_apply]
  split
  · exact keeps record
  · rfl

theorem main?_leave (registry : Registry) (thread : ThreadId) (domain : DomainId) :
    (registry.leave thread).main? domain = registry.main? domain := by
  unfold main? leave uncount
  cases registry.bindings.get? thread with
  | none => rfl
  | some home => exact main?_modify _ _ _ fun _ => rfl

theorem main?_bind (registry : Registry) (home domain : DomainId) (thread : ThreadId) :
    (registry.bind home thread).main? domain = registry.main? domain := by
  rw [← registry.main?_leave thread domain]
  exact main?_modify (registry.uncount thread) home domain fun _ => rfl

theorem main?_found (registry : Registry) (home domain : DomainId) (thread : ThreadId)
    (manager : String) :
    (registry.found home thread manager).main? domain =
      if domain = home then some thread else registry.main? domain := by
  rw [← registry.main?_leave thread domain]
  simp only [main?, found, leave, Assoc.get?_insert]
  split <;> rfl

theorem main?_drop (registry : Registry) (home domain : DomainId) :
    (registry.drop home).main? domain = if domain = home then none else registry.main? domain := by
  simp only [main?, drop, Assoc.get?_erase]
  split <;> rfl

theorem bindings_drop {home domain : DomainId} {thread : ThreadId} :
    (registry.drop home).bindings.get? thread = some domain ↔
      registry.bindings.get? thread = some domain ∧ domain ≠ home := by
  simp [drop, Assoc.get?_filter, Option.filter_eq_some_iff]

theorem main?_charge (registry : Registry) (thread : ThreadId) (bytes : Nat) (site : Site)
    (domain : DomainId) :
    (registry.charge thread bytes site).main? domain = registry.main? domain := by
  simp only [main?, charge, get?_addDomainBytes, Option.map_map]
  rfl

theorem main?_releasePartial (registry : Registry) (site : Site) (bytes : Nat)
    (domain : DomainId) :
    (registry.releasePartial site bytes).2.main? domain = registry.main? domain := by
  unfold releasePartial
  split
  · rfl
  · simp only [main?, credit, get?_subDomainBytes, Option.map_map]
    rfl

theorem main?_forget (registry : Registry) (home domain : DomainId) :
    (registry.forget home).main? domain = registry.main? domain :=
  main?_modify _ _ _ fun _ => rfl

/-- A domain that is live after a turn was founded by it or keeps its main thread. -/
theorem Turn.main? (turn : Turn registry operation after) {domain : DomainId} {thread : ThreadId}
    (now : after.main? domain = some thread) :
    registry.main? domain = some thread ∨
      after.bindings.get? thread = some domain ∧
        ∃ manager, operation = .create domain thread manager := by
  cases turn with
  | aside => exact .inl now
  | @founded home creator manager _ =>
    rw [main?_found] at now
    split at now
    · next same =>
      cases now
      subst same
      exact .inr ⟨Assoc.get?_insert_self .., manager, rfl⟩
    · exact .inl now
  | acquired | reserved => exact .inl (by rwa [main?_bind] at now)
  | left => exact .inl (by rwa [main?_leave] at now)
  | ended =>
    rw [main?_drop, main?_leave] at now
    split at now
    · cases now
    · exact .inl now
  | unloaded =>
    change (registry.drop _).main? domain = _ at now
    rw [main?_drop] at now
    split at now
    · cases now
    · exact .inl now
  | charged => exact .inl (by rwa [main?_charge] at now)
  | released => exact .inl (by rwa [release_eq_releasePartial, main?_releasePartial] at now)
  | credited => exact .inl (by rwa [main?_releasePartial] at now)
  | forgotten => exact .inl (by rwa [main?_forget] at now)

/-- The main thread of a domain that lives on is in some domain still. -/
theorem Turn.keeps_main (turn : Turn registry operation after) {domain : DomainId}
    {thread : ThreadId} (bound : registry.bindings.get? thread = some domain)
    (lives : after.main? domain = some thread) : after.bindings.get? thread ≠ none := by
  have inserted : ∀ other (home : DomainId),
      (registry.bindings.insert other home).get? thread ≠ none := by
    intro other home
    rw [Assoc.get?_insert]
    split
    · simp
    · simp [bound]
  have dropped : ∀ {registry : Registry} {home : DomainId}, (registry.drop home).main? domain =
      some thread → domain ≠ home := by
    rintro registry home lives rfl
    simp [main?_drop] at lives
  have stayed : registry.bindings.get? thread ≠ none := by simp [bound]
  cases turn with
  | aside | charged | forgotten => exact stayed
  | founded | acquired | reserved => exact inserted _ _
  | @left other home away ordinary =>
    -- Were it the main thread that leaves, its domain would have ended.
    have apart : thread ≠ other := by
      rintro rfl
      cases Option.some.inj (bound.symm.trans away)
      obtain ⟨record, present, same⟩ := Option.map_eq_some_iff.1 lives
      exact ordinary record present same
    simp [leave, apart, bound]
  | @ended other home record away live same =>
    have elsewhere := dropped lives
    have apart : thread ≠ other := by
      rintro rfl
      exact elsewhere (Option.some.inj (bound.symm.trans away))
    simp [drop, leave, Assoc.get?_filter, apart, bound, elsewhere]
  | unloaded =>
    have elsewhere := dropped lives
    simp [drop, Assoc.get?_filter, bound, elsewhere]
  | released =>
    rw [release_eq_releasePartial, bindings_releasePartial]
    exact stayed
  | credited =>
    rw [bindings_releasePartial]
    exact stayed

theorem Anchored.perform (anchored : registry.Anchored) (stays : ¬registry.Deserts operation) :
    (registry.perform operation).Anchored := by
  intro domain thread now
  have turn := registry.turn_perform operation
  obtain main | ⟨founded, _⟩ := turn.main? now
  · have bound := anchored domain thread main
    obtain ⟨home, there⟩ :=
      Option.ne_none_iff_exists'.1 (turn.keeps_main bound now)
    by_contra moved
    exact stays ⟨domain, thread, home, main, bound, there, fun same => moved (same ▸ there)⟩
  · exact founded

/-- The domain that a thread comes from is live as long as the thread is in a domain. -/
theorem Turn.spares_origin (turn : Turn registry operation after) {domain other : DomainId}
    {main thread : ThreadId} (led : registry.main? domain = some main)
    (bound : registry.bindings.get? thread = some domain)
    (there : after.bindings.get? thread = some other) : after.main? domain = some main := by
  cases turn with
  | aside => exact led
  | @founded home creator manager fresh =>
    have apart : domain ≠ home := by
      rintro rfl
      rw [Registry.main?, fresh] at led
      cases led
    rw [main?_found, if_neg apart]
    exact led
  | acquired | reserved =>
    rw [main?_bind]
    exact led
  | left =>
    rw [main?_leave]
    exact led
  | @ended leaver home _ away _ _ =>
    -- A thread of the domain that ends is in none afterwards.
    have apart : domain ≠ home := by
      rintro rfl
      obtain ⟨stays, elsewhere⟩ := bindings_drop.1 there
      have before : registry.bindings.get? thread = some other := by
        rw [leave, Assoc.get?_erase] at stays
        split at stays
        · cases stays
        · exact stays
      exact elsewhere (Option.some.inj (before.symm.trans bound))
    rw [main?_drop, if_neg apart, main?_leave]
    exact led
  | @unloaded home _ _ =>
    have apart : domain ≠ home := by
      rintro rfl
      obtain ⟨stays, elsewhere⟩ := bindings_drop.1 there
      exact elsewhere (Option.some.inj (stays.symm.trans bound))
    change (registry.drop home).main? domain = some main
    rw [main?_drop, if_neg apart]
    exact led
  | charged =>
    rw [main?_charge]
    exact led
  | released =>
    rw [release_eq_releasePartial, main?_releasePartial]
    exact led
  | credited =>
    rw [main?_releasePartial]
    exact led
  | forgotten =>
    rw [main?_forget]
    exact led

/-- A release ends the domain that the thread is in, if it is the main thread there, and no other
one. The thread is in no domain afterwards. -/
theorem main?_releaseThread {thread : ThreadId} {exit : Option MainExit}
    (released : registry.releaseThread thread = .ok (exit, after)) :
    after.bindings.get? thread = none ∧
      ∀ domain, after.main? domain = some thread ↔
        registry.main? domain = some thread ∧ registry.bindings.get? thread ≠ some domain := by
  have performed : registry.perform (.releaseThread thread) = after := by
    simp [perform, released, orElse, Except.map]
  refine ⟨performed ▸ registry.get?_releaseThread thread, fun domain => ?_⟩
  unfold releaseThread at released
  cases bound : registry.bindings.get? thread with
  | none => simp [bound] at released
  | some home =>
    simp only [bound, ne_eq, Option.some.injEq] at released ⊢
    have led : (registry.leave thread).main? home = registry.main? home :=
      registry.main?_leave thread home
    -- What the thread leaves behind, when the domain that it was in is not its own.
    have left : registry.main? home ≠ some thread → ((registry.leave thread).main? domain =
        some thread ↔ registry.main? domain = some thread ∧ ¬home = domain) := by
      intro other
      rw [main?_leave]
      exact ⟨fun main => ⟨main, fun same => other (same ▸ main)⟩, And.left⟩
    split at released
    · next gone =>
      cases released
      refine left ?_
      rw [← led, main?, leave, gone]
      simp
    · next record live =>
      have own : registry.main? home = some record.mainThread := by
        rw [← led, main?, leave, live]
        rfl
      split at released
      · next same =>
        cases released
        change ((registry.leave thread).drop home).main? domain = some thread ↔ _
        rw [main?_drop, main?_leave]
        by_cases here : domain = home
        · simp [here]
        · simp [here, Ne.symm here]
      · next other =>
        cases released
        refine left ?_
        rw [own]
        exact fun same => other (Option.some.inj same)

theorem exists_releaseThread_of_bound {thread : ThreadId} {domain : DomainId}
    (bound : registry.bindings.get? thread = some domain) :
    ∃ exit after, registry.releaseThread thread = .ok (exit, after) := by
  simp only [releaseThread, bound]
  split
  · exact ⟨_, _, rfl⟩
  · split <;> exact ⟨_, _, rfl⟩

/-- A release of a thread ends the one domain that the thread is in as its main thread; the domains
that it led before it was brought elsewhere stay live, and it is in none of them. So no live domain
is left behind by its main thread in any run exactly if no operation of the run brings the main
thread of a live domain into another one. -/
theorem main_released_iff (limits : Limits) (events : EventQueue) (operations : List Operation) :
    let reached := reached { limits, events } operations
    (∀ count thread exit after, (reached count).releaseThread thread = .ok (exit, after) →
      after.bindings.get? thread = none ∧
      ∀ domain, after.main? domain = some thread ↔
        (reached count).main? domain = some thread ∧
          (reached count).bindings.get? thread ≠ some domain) ∧
    ((∀ count thread exit after, (reached count).releaseThread thread = .ok (exit, after) →
      ∀ domain, after.main? domain ≠ some thread) ↔
    ∀ count operation, operations[count]? = some operation →
      ¬(reached count).Deserts operation) := by
  intro reached
  refine ⟨fun _ _ _ _ released => main?_releaseThread released, ?_, ?_⟩
  · rintro ends count operation here ⟨domain, thread, other, main, bound, there, apart⟩
    -- The thread is let go right after it was brought into the other domain.
    have lives := (turn_perform _ operation).spares_origin main bound there
    rw [← reached_succ _ here] at lives there
    obtain ⟨exit, after, released⟩ := exists_releaseThread_of_bound there
    refine ends (count + 1) thread exit after released domain ?_
    refine ((main?_releaseThread released).2 domain).2 ⟨lives, fun same => apart ?_⟩
    exact Option.some.inj (there.symm.trans same)
  · intro stays count thread exit after released domain main
    have anchored : (reached count).Anchored := by
      refine reached_induction ?_ (fun count operation here anchored =>
        anchored.perform (stays count operation here)) count
      intro domain thread led
      cases led
    obtain ⟨led, away⟩ := ((main?_releaseThread released).2 domain).1 main
    exact away (anchored domain thread led)

/-- A thread founds a second domain and is let go: the first domain has nobody to end it. -/
theorem main_outlives_release :
    ∃ exit after, (Registry.run { limits := {}, events := {} }
        [.create ⟨1⟩ ⟨1⟩ "first", .create ⟨2⟩ ⟨1⟩ "second"]).releaseThread ⟨1⟩ =
          .ok (exit, after) ∧
      after.main? ⟨1⟩ = some ⟨1⟩ ∧ after.bindings.get? ⟨1⟩ = none :=
  ⟨_, _, rfl, rfl, rfl⟩

end Steward.Domain.Registry
