import Steward.Proofs.Domain.Belonging

/-! Calls on different sites of the ledger may change places. What is charged at a site depends on
the calls that name it and on their order alone, and the counters of domains and threads are sums
over the ledger, so that they do not tell in which order different sites were called. -/

set_option autoImplicit false

namespace Steward.Domain

/-- The operation charges or releases at this site. -/
def Operation.isAt (site : Site) (operation : Operation) : Bool :=
  decide (operation.site? = some site)

/-- What becomes of the charge at the site that the operation names. -/
def Operation.chargeAfter (bound : ThreadId → Option DomainId) (held : Option Charge) :
    Operation → Option Charge
  | charge thread bytes _ =>
      let entry := held.getD ⟨bound thread, thread, 0⟩
      some { entry with bytes := entry.bytes + bytes }
  | release _ => none
  | releasePartial _ bytes =>
      (held.map fun entry => { entry with bytes := entry.bytes - bytes }).filter (·.bytes ≠ 0)
  | _ => held

/-- What a release answers where such a charge is found. -/
def Operation.answerTo (held : Option Charge) : Operation → Option Nat
  | release _ => some (held.elim 0 Charge.bytes)
  | releasePartial _ bytes => some (held.elim 0 fun entry => min bytes entry.bytes)
  | _ => none

/-- The answers to calls on one site, from the charge that they find there. -/
def Operation.answersFrom (bound : ThreadId → Option DomainId) (held : Option Charge) :
    List Operation → List (Operation × Option Nat)
  | [] => []
  | operation :: rest =>
      (operation, operation.answerTo held) ::
        answersFrom bound (operation.chargeAfter bound held) rest

namespace Registry

/-- What a call on the ledger answers; a charge answers nothing. -/
def answer (registry : Registry) : Operation → Option Nat
  | .release site => some (registry.release site).1
  | .releasePartial site bytes => some (registry.releasePartial site bytes).1
  | _ => none

/-- The calls of a run that name a site, each with its answer. -/
def answersAt (registry : Registry) (site : Site) : List Operation → List (Operation × Option Nat)
  | [] => []
  | operation :: rest =>
      if operation.isAt site then
        (operation, registry.answer operation) :: (registry.perform operation).answersAt site rest
      else (registry.perform operation).answersAt site rest

/-- Domains and bindings are as they were. -/
structure Spared (registry after : Registry) : Prop where
  domains : ∀ domain, after.domains.get? domain = registry.domains.get? domain
  bindings : ∀ thread, after.bindings.get? thread = registry.bindings.get? thread

/-- The operation is a call on the ledger, which moves counters, or it leaves domains and bindings
alone and resets no counter. -/
inductive Undisturbing (registry : Registry) (operation : Operation) : Prop where
  | call {site : Site} (names : operation.site? = some site)
  | aside (nowhere : operation.site? = none)
      (kept : ∀ domain, operation ≠ .resetCounters domain)
      (spared : Spared registry (registry.perform operation))

/-- A run of such operations. -/
def Undisturbed (registry : Registry) : List Operation → Prop
  | [] => True
  | operation :: rest =>
      registry.Undisturbing operation ∧ (registry.perform operation).Undisturbed rest

/-- A record without its byte counter. -/
def outline (record : Record) : Record := { record with bytes := 0 }

variable {registry after : Registry} {operation : Operation} {operations : List Operation}
  {site : Site}

/-! ### One call -/

theorem get?_ledger_releasePartial (registry : Registry) (site : Site) (bytes : Nat) :
    (registry.releasePartial site bytes).2.ledger.get? site =
      Operation.chargeAfter registry.domainOf? (registry.ledger.get? site)
        (.releasePartial site bytes) := by
  cases found : registry.ledger.get? site with
  | none => simp [releasePartial, found, Operation.chargeAfter]
  | some entry =>
    have less : entry.bytes - min bytes entry.bytes = entry.bytes - bytes := by omega
    by_cases gone : entry.bytes - bytes = 0
    · simp [releasePartial, found, less, gone, credit, Operation.chargeAfter, Option.filter]
    · simp [releasePartial, found, less, gone, credit, Operation.chargeAfter, Option.filter]

theorem get?_ledger_perform (names : operation.site? = some site) :
    (registry.perform operation).ledger.get? site =
      operation.chargeAfter registry.domainOf? (registry.ledger.get? site) := by
  cases operation with
  | charge thread bytes other =>
    cases names
    exact Assoc.get?_insert_self _ _ _
  | release other =>
    cases names
    change (registry.release site).2.ledger.get? site = none
    exact (held?_eq_none_iff _).1 (by rw [held?_release, if_pos rfl])
  | releasePartial other bytes =>
    cases names
    exact registry.get?_ledger_releasePartial site bytes
  | _ => cases names

theorem get?_ledger_perform_of_ne {other : Site} (names : operation.site? = some other)
    (apart : site ≠ other) :
    (registry.perform operation).ledger.get? site = registry.ledger.get? site := by
  cases operation with
  | charge thread bytes place =>
    cases names
    exact Assoc.get?_insert_of_ne _ apart _
  | release place =>
    cases names
    change (registry.release other).2.ledger.get? site = _
    rw [release_eq_releasePartial]
    exact ledger_releasePartial_of_ne apart _
  | releasePartial place bytes =>
    cases names
    exact ledger_releasePartial_of_ne apart bytes
  | _ => cases names

theorem answer_eq_answerTo (names : operation.site? = some site) :
    registry.answer operation = operation.answerTo (registry.ledger.get? site) := by
  cases operation with
  | charge _ _ _ => rfl
  | release other =>
    cases names
    cases found : registry.ledger.get? site <;>
      simp [answer, Operation.answerTo, Registry.release, found]
  | releasePartial other bytes =>
    cases names
    cases found : registry.ledger.get? site <;>
      simp [answer, Operation.answerTo, Registry.releasePartial, found]
  | _ => cases names

theorem domainOf?_call (names : operation.site? = some site) :
    (registry.perform operation).domainOf? = registry.domainOf? := by
  unfold domainOf?
  cases operation with
  | charge _ _ _ => rfl
  | release _ => rw [perform, release_eq_releasePartial, bindings_releasePartial]
  | releasePartial _ _ => rw [perform, bindings_releasePartial]
  | _ => cases names

theorem outline_releasePartial (registry : Registry) (site : Site) (bytes : Nat)
    (domain : DomainId) :
    ((registry.releasePartial site bytes).2.domains.get? domain).map outline =
      (registry.domains.get? domain).map outline := by
  unfold releasePartial
  split
  · rfl
  · simp only [credit, get?_subDomainBytes, Option.map_map]
    rfl

theorem outline_call (names : operation.site? = some site) (domain : DomainId) :
    ((registry.perform operation).domains.get? domain).map outline =
      (registry.domains.get? domain).map outline := by
  cases operation with
  | charge _ _ _ =>
    simp only [perform, charge, get?_addDomainBytes, Option.map_map]
    rfl
  | release _ =>
    rw [perform, release_eq_releasePartial]
    exact outline_releasePartial registry _ _ domain
  | releasePartial _ _ => exact outline_releasePartial registry _ _ domain
  | _ => cases names

/-- Charges are detached only with a domain that goes. -/
theorem Turn.spared_ledger (turn : Turn registry operation after) (nowhere : operation.site? = none)
    (kept : ∀ domain, operation ≠ .resetCounters domain) (spared : Spared registry after) :
    after.ledger = registry.ledger := by
  have stays {domain : DomainId} (live : registry.domains.contains domain = true) :
      after.domains.contains domain = true := by
    rw [Assoc.contains, spared.domains]
    exact live
  cases turn with
  | @ended thread domain record _ live _ =>
    obtain ⟨old, there, _⟩ := Option.map_eq_some_iff.1 ((get?_uncount _ _ _).symm.trans live)
    have present : registry.domains.contains domain = true := by simp [Assoc.contains, there]
    have gone := stays present
    rw [contains_drop] at gone
    simp at gone
  | @unloaded domain live events =>
    have gone : (registry.drop domain).domains.contains domain = true := stays live
    rw [contains_drop] at gone
    simp at gone
  | @forgotten domain _ => exact absurd rfl (kept domain)
  | charged _ _ _ | released _ | credited _ _ => cases nowhere
  | _ => rfl

namespace Undisturbing

theorem domainOf? (undisturbing : registry.Undisturbing operation) :
    (registry.perform operation).domainOf? = registry.domainOf? := by
  cases undisturbing with
  | call names => exact domainOf?_call names
  | aside _ _ spared => exact funext spared.bindings

theorem outline (undisturbing : registry.Undisturbing operation) (domain : DomainId) :
    ((registry.perform operation).domains.get? domain).map outline =
      (registry.domains.get? domain).map outline := by
  cases undisturbing with
  | call names => exact outline_call names domain
  | aside _ _ spared => rw [spared.domains]

/-- Away from the site that it names, such an operation changes no charge. -/
theorem ledger (undisturbing : registry.Undisturbing operation) (site : Site) :
    (registry.perform operation).ledger.get? site =
      if operation.isAt site then
        operation.chargeAfter registry.domainOf? (registry.ledger.get? site)
      else registry.ledger.get? site := by
  cases undisturbing with
  | @call other names =>
    by_cases here : site = other
    · subst here
      have there : operation.isAt site = true := decide_eq_true names
      rw [get?_ledger_perform names, if_pos there]
    · have away : ¬operation.isAt site = true := by
        simp [Operation.isAt, names, Ne.symm here]
      rw [get?_ledger_perform_of_ne names here, if_neg away]
  | aside nowhere kept spared =>
    have away : ¬operation.isAt site = true := by simp [Operation.isAt, nowhere]
    rw [(registry.turn_perform operation).spared_ledger nowhere kept spared, if_neg away]

/-- Asking for bytes leaves no trace but a notice. -/
theorem admitBytes (registry : Registry) (thread : ThreadId) (bytes : Nat) :
    registry.Undisturbing (.admitBytes thread bytes) := by
  refine .aside rfl nofun ?_
  simp only [perform, Registry.admitBytes]
  split <;> exact ⟨fun _ => rfl, fun _ => rfl⟩

theorem rudeUnload (registry : Registry) : registry.Undisturbing .rudeUnload :=
  .aside rfl nofun ⟨fun _ => rfl, fun _ => rfl⟩

end Undisturbing

/-! ### Runs -/

namespace Undisturbed

/-- Behind a run, a site holds what the calls that name it make of what it held before. -/
theorem ledger (undisturbed : registry.Undisturbed operations) (site : Site) :
    (registry.run operations).ledger.get? site =
      (operations.filter (Operation.isAt site)).foldl
        (fun held operation => operation.chargeAfter registry.domainOf? held)
        (registry.ledger.get? site) := by
  induction operations generalizing registry with
  | nil => rfl
  | cons operation rest ih =>
    obtain ⟨first, later⟩ := undisturbed
    refine (ih later).trans ?_
    rw [first.domainOf?, first.ledger, List.filter_cons]
    split <;> rfl

/-- The answers to the calls that name a site are those that its charge gives. -/
theorem answersAt_eq (undisturbed : registry.Undisturbed operations) (site : Site) :
    registry.answersAt site operations =
      Operation.answersFrom registry.domainOf? (registry.ledger.get? site)
        (operations.filter (Operation.isAt site)) := by
  induction operations generalizing registry with
  | nil => rfl
  | cons operation rest ih =>
    obtain ⟨first, later⟩ := undisturbed
    rw [answersAt, ih later, first.domainOf?, first.ledger, List.filter_cons]
    split
    · next there => rw [answer_eq_answerTo (of_decide_eq_true there), Operation.answersFrom]
    · rfl

theorem outline (undisturbed : registry.Undisturbed operations) (domain : DomainId) :
    ((registry.run operations).domains.get? domain).map outline =
      (registry.domains.get? domain).map outline := by
  induction operations generalizing registry with
  | nil => rfl
  | cons operation rest ih =>
    obtain ⟨first, later⟩ := undisturbed
    exact (ih later).trans (first.outline domain)

end Undisturbed

/-- The counters of two registers with the same ledger agree, where the same domains are live. -/
theorem Balanced.agree {first second : Registry} (balanced : Balanced first)
    (other : Balanced second) (ledger : ∀ site, first.ledger.get? site = second.ledger.get? site)
    (outlines : ∀ domain, (first.domains.get? domain).map outline =
      (second.domains.get? domain).map outline) :
    (∀ domain, first.domains.get? domain = second.domains.get? domain) ∧
      ∀ thread, first.threadMemory thread = second.threadMemory thread := by
  refine ⟨fun domain => ?_, fun thread => ?_⟩
  · have same := outlines domain
    cases found : first.domains.get? domain with
    | none =>
      rw [found, Option.map_none] at same
      exact (Option.map_eq_none_iff.1 same.symm).symm
    | some record =>
      rw [found, Option.map_some] at same
      obtain ⟨twin, there, alike⟩ := Option.map_eq_some_iff.1 same.symm
      have bytes : record.bytes = twin.bytes := by
        rw [balanced.ofDomain domain record.bytes (by simp [bytes?, found]),
          other.ofDomain domain twin.bytes (by simp [bytes?, there])]
        exact Assoc.total_of_get? ledger _
      rw [there]
      cases record
      cases twin
      simp only [outline, Record.mk.injEq] at alike bytes ⊢
      simp [alike, bytes]
  · rw [balanced.ofThread, other.ofThread]
    exact Assoc.total_of_get? ledger _

/-- From any state of a register, two runs that leave domains and bindings alone and make the same
calls on each site in the same order, whatever stands between them, give every call the same answer
and end with the same ledger, the same counters of domains and the same totals of threads. -/
theorem order_immaterial (limits : Limits) (events : EventQueue)
    (history first second : List Operation)
    (undisturbed : Undisturbed (Registry.run { limits, events } history) first)
    (likewise : Undisturbed (Registry.run { limits, events } history) second)
    (same : ∀ site, first.filter (Operation.isAt site) = second.filter (Operation.isAt site)) :
    let start := Registry.run { limits, events } history
    (∀ site, start.answersAt site first = start.answersAt site second) ∧
    (∀ site, (start.run first).ledger.get? site = (start.run second).ledger.get? site) ∧
    (∀ domain, (start.run first).domains.get? domain = (start.run second).domains.get? domain) ∧
    ∀ thread, (start.run first).threadMemory thread = (start.run second).threadMemory thread := by
  intro start
  have balanced (operations : List Operation) : Balanced (start.run operations) := by
    have whole := Balanced.run limits events (history ++ operations)
    rwa [Registry.run, List.foldl_append] at whole
  have ledger (site : Site) :
      (start.run first).ledger.get? site = (start.run second).ledger.get? site := by
    rw [undisturbed.ledger, likewise.ledger, same]
  have outlines (domain : DomainId) :
      ((start.run first).domains.get? domain).map outline =
        ((start.run second).domains.get? domain).map outline :=
    (undisturbed.outline domain).trans (likewise.outline domain).symm
  have counters := (balanced first).agree (balanced second) ledger outlines
  refine ⟨fun site => ?_, ledger, counters⟩
  rw [undisturbed.answersAt_eq, likewise.answersAt_eq, same]

/-- Two threads of a domain and one of another; a block and a page are charged. -/
def twoHouses : List Operation :=
  [.create ⟨1⟩ ⟨1⟩ "first", .acquireThread ⟨1⟩ ⟨2⟩, .create ⟨2⟩ ⟨3⟩ "second",
    .charge ⟨1⟩ 4096 (.address 0x1000), .charge ⟨3⟩ 8 (.block 1)]

/-- The page is given back after other bytes are charged, which are then admitted. -/
def pageLast : List Operation :=
  [.charge ⟨2⟩ 100 (.address 0x2000), .charge ⟨1⟩ 0 (.address 0x3000), .charge ⟨1⟩ 64 (.block 1),
    .release (.address 0x1000), .admitBytes ⟨2⟩ 8000, .releasePartial (.address 0x2000) 40,
    .releasePartial (.address 0x1000) 1]

/-- The page is given back before, and the admission is refused. -/
def pageFirst : List Operation :=
  [.admitBytes ⟨2⟩ 8000, .charge ⟨1⟩ 64 (.block 1), .release (.address 0x1000), .rudeUnload,
    .charge ⟨2⟩ 100 (.address 0x2000), .releasePartial (.address 0x2000) 40,
    .releasePartial (.address 0x1000) 1, .charge ⟨1⟩ 0 (.address 0x3000)]

theorem order_immaterial_twoHouses :
    let start := Registry.run { limits := ⟨0, 8192⟩, events := {} } twoHouses
    start.Undisturbed pageLast ∧ start.Undisturbed pageFirst ∧
      (∀ site, pageLast.filter (Operation.isAt site) = pageFirst.filter (Operation.isAt site)) ∧
      start.answersAt (.address 0x1000) pageFirst =
        [(.release (.address 0x1000), some 4096),
          (.releasePartial (.address 0x1000) 1, some 0)] ∧
      ((start.run pageFirst).domains.get? ⟨1⟩).map Record.bytes = some 60 ∧
      ((start.run pageFirst).domains.get? ⟨2⟩).map Record.bytes = some 72 ∧
      (start.run pageFirst).threadMemory ⟨3⟩ = 72 := by
  intro start
  have undisturbed : start.Undisturbed pageLast :=
    ⟨.call rfl, .call rfl, .call rfl, .call rfl, .admitBytes _ _ _, .call rfl, .call rfl, trivial⟩
  have likewise : start.Undisturbed pageFirst :=
    ⟨.admitBytes _ _ _, .call rfl, .call rfl, .rudeUnload _, .call rfl, .call rfl,
      .call rfl, .call rfl, trivial⟩
  have same (site : Site) :
      pageLast.filter (Operation.isAt site) = pageFirst.filter (Operation.isAt site) := by
    by_cases page : site = .address 0x1000
    · rw [page]
      decide
    by_cases bytes : site = .address 0x2000
    · rw [bytes]
      decide
    by_cases nothing : site = .address 0x3000
    · rw [nothing]
      decide
    simp [pageLast, pageFirst, Operation.isAt, Operation.site?, Ne.symm page, Ne.symm bytes,
      Ne.symm nothing, List.filter]
  obtain ⟨answers, _, domains, threads⟩ :=
    order_immaterial ⟨0, 8192⟩ {} twoHouses pageLast pageFirst undisturbed likewise same
  refine ⟨undisturbed, likewise, same, ?_, ?_, ?_, ?_⟩
  · exact (answers (.address 0x1000)).symm.trans (by decide)
  · exact (congrArg (Option.map Record.bytes) (domains ⟨1⟩)).symm.trans (by decide)
  · exact (congrArg (Option.map Record.bytes) (domains ⟨2⟩)).symm.trans (by decide)
  · exact (threads ⟨3⟩).symm.trans (by decide)

end Registry

end Steward.Domain
