import Mathlib.Data.List.Induction
import Mathlib.Data.Prod.Lex
import Steward.Policy.Escalation

/-! What a runtime is told of an escalation table, by the settings that made the table. Every key
that was set is one call with the value it was set to last, in the order of the keys. A rejection
changes what the host hears in the end, but none of the calls. -/

set_option autoImplicit false

namespace Steward.Policy

/-- What an entry of the table is for. -/
inductive Key where
  | failure (failure : Failure)
  | timeout (operation : Operation)
  | default (operation : Operation)
  | unhandled
  deriving DecidableEq

namespace Key

/-- The group of a key, and its place in the order in which the group is declared. -/
def place : Key → Nat × Nat
  | .failure kind => (0, kind.ctorIdx)
  | .timeout operation => (1, operation.ctorIdx)
  | .default operation => (2, operation.ctorIdx)
  | .unhandled => (3, 0)

def Before (first second : Key) : Prop :=
  Prod.Lex (· < ·) (· < ·) first.place second.place

instance : DecidableRel Before := fun first second =>
  inferInstanceAs (Decidable (Prod.Lex (· < ·) (· < ·) first.place second.place))

def all : List Key :=
  Failure.all.map failure ++ Operation.all.map timeout ++ Operation.all.map default ++ [unhandled]

theorem mem_all (key : Key) : key ∈ all := by
  cases key with
  | failure failure => simp [all, Failure.mem_all]
  | timeout operation => simp [all, Operation.mem_all]
  | default operation => simp [all, Operation.mem_all]
  | unhandled => simp [all]

theorem all_pairwise_before : all.Pairwise Before := by decide

end Key

namespace Setting

def key : Setting → Key
  | .failure kind _ => .failure kind
  | .timeout operation _ => .timeout operation
  | .default operation _ => .default operation
  | .unhandled _ => .unhandled

/-- The call that hands a setting to a runtime, a timeout with its action where it has one. -/
def call : Setting → Call
  | .failure kind action => .failure kind action
  | .timeout operation ⟨nanoseconds, none⟩ => .timeout operation nanoseconds
  | .timeout operation ⟨nanoseconds, some action⟩ => .timeoutAndAction operation nanoseconds action
  | .default operation action => .default operation action
  | .unhandled policy => .unhandled policy

end Setting

def Call.key : Call → Key
  | .failure kind _ => .failure kind
  | .timeout operation _ => .timeout operation
  | .timeoutAndAction operation _ _ => .timeout operation
  | .default operation _ => .default operation
  | .unhandled _ => .unhandled

@[simp] theorem Setting.key_call (setting : Setting) : setting.call.key = setting.key := by
  cases setting with
  | timeout operation timeout =>
    obtain ⟨nanoseconds, action⟩ := timeout
    cases action <;> rfl
  | failure | default | unhandled => rfl

/-- A setting that no later one with its key replaces. -/
def Stands (settings : List Setting) (setting : Setting) : Prop :=
  ∃ before after, settings = before ++ setting :: after ∧
    ∀ later ∈ after, later.key ≠ setting.key

theorem stands_iff_find? {settings : List Setting} {setting : Setting} :
    Stands settings setting ↔
      settings.reverse.find? (fun other => other.key = setting.key) = some setting := by
  -- Read backwards, the last setting with a key is the first one.
  rw [List.find?_eq_some_iff_append]
  constructor
  · rintro ⟨before, after, rfl, stays⟩
    refine ⟨by simp, after.reverse, before.reverse, by simp, ?_⟩
    simpa using stays
  · rintro ⟨-, after, before, split, stays⟩
    refine ⟨before.reverse, after.reverse, ?_, by simpa using stays⟩
    rw [← List.reverse_reverse settings, split]
    simp

/-- Where a table starts. -/
inductive Start where
  | empty
  | standard

namespace Start

def table : Start → Escalation
  | .empty => .empty
  | .standard => .standard

def settings : Start → List Setting
  | .empty => []
  | .standard => Escalation.standardSettings

end Start

/-! ### The entries of a table -/

namespace Escalation

/-- The setting behind an entry, where the table has it. -/
def setting? (table : Escalation) : Key → Option Setting
  | .failure failure => (table.failures failure).map (.failure failure)
  | .timeout operation => (table.timeouts operation).map (.timeout operation)
  | .default operation => (table.defaults operation).map (.default operation)
  | .unhandled => table.unhandled.map .unhandled

theorem setting?_empty (key : Key) : empty.setting? key = none := by cases key <;> rfl

theorem setting?_set (table : Escalation) (setting : Setting) (key : Key) :
    (table.set setting).setting? key =
      if key = setting.key then some setting else table.setting? key := by
  cases setting <;> cases key <;> simp [set, setting?, Setting.key]
  all_goals
    split
    · next same => simp [same]
    · rfl

theorem setting?_setAll (table : Escalation) (settings : List Setting) (key : Key) :
    (table.setAll settings).setting? key =
      (settings.reverse.find? fun setting => setting.key = key).or (table.setting? key) := by
  induction settings generalizing table with
  | nil => rfl
  | cons setting settings ih =>
    have step : table.setAll (setting :: settings) = (table.set setting).setAll settings := rfl
    rw [step, ih, setting?_set, List.reverse_cons, List.find?_append, Option.or_assoc]
    by_cases same : setting.key = key
    · simp [same]
    · simp [same, Ne.symm same]

/-- The entries of a table are the settings that stand. -/
theorem setting?_setAll_empty {settings : List Setting} {key : Key} {setting : Setting} :
    (empty.setAll settings).setting? key = some setting ↔
      setting.key = key ∧ Stands settings setting := by
  rw [setting?_setAll, setting?_empty, Option.or_none, stands_iff_find?]
  constructor
  · intro found
    have same : setting.key = key := by simpa using List.find?_some found
    subst same
    exact ⟨rfl, found⟩
  · rintro ⟨rfl, found⟩
    exact found

theorem table_setAll (start : Start) (settings : List Setting) :
    start.table.setAll settings = empty.setAll (start.settings ++ settings) := by
  cases start with
  | empty => rfl
  | standard => exact List.foldl_append.symm

/-! ### The calls of a table -/

theorem calls_eq (table : Escalation) :
    table.calls = Key.all.filterMap fun key => (table.setting? key).map Setting.call := by
  have timeoutCall (operation : Operation) :
      timeoutCall operation = Setting.call ∘ Setting.timeout operation := by
    funext timeout
    obtain ⟨nanoseconds, action⟩ := timeout
    cases action <;> rfl
  have unhandled : (table.unhandled.map Call.unhandled).toList =
      [Key.unhandled].filterMap fun key => (table.setting? key).map Setting.call := by
    cases found : table.unhandled <;> simp [setting?, found, Setting.call]
  -- Each group of calls is read off one stretch of the keys.
  simp only [calls, timeoutCall, unhandled, Key.all, List.filterMap_append, List.filterMap_map]
  simp [Function.comp_def, setting?, Setting.call]

theorem size_eq_length_calls (table : Escalation) : table.size = table.calls.length := by
  have unhandled : table.unhandled.toList.length =
      (table.unhandled.map Call.unhandled).toList.length := by
    cases table.unhandled <;> rfl
  simp [size, calls, List.length_filterMap_eq_countP, unhandled, Nat.add_assoc]

theorem setting?_key {table : Escalation} {key : Key} {setting : Setting}
    (found : table.setting? key = some setting) : setting.key = key := by
  cases key
  all_goals
    obtain ⟨_, -, rfl⟩ := Option.map_eq_some_iff.1 found
    rfl

theorem calls_pairwise_before (table : Escalation) :
    table.calls.Pairwise fun first second => first.key.Before second.key := by
  rw [calls_eq, List.pairwise_filterMap]
  refine Key.all_pairwise_before.imp fun before call found other foundOther => ?_
  obtain ⟨setting, entry, rfl⟩ := Option.map_eq_some_iff.1 found
  obtain ⟨setting, entry', rfl⟩ := Option.map_eq_some_iff.1 foundOther
  rwa [Setting.key_call, Setting.key_call, setting?_key entry, setting?_key entry']

theorem mem_calls_setAll_empty {settings : List Setting} {call : Call} :
    call ∈ (empty.setAll settings).calls ↔
      ∃ setting, Stands settings setting ∧ setting.call = call := by
  rw [calls_eq, List.mem_filterMap]
  constructor
  · rintro ⟨key, -, found⟩
    obtain ⟨setting, entry, rfl⟩ := Option.map_eq_some_iff.1 found
    exact ⟨setting, (setting?_setAll_empty.1 entry).2, rfl⟩
  · rintro ⟨setting, stands, rfl⟩
    have entry := setting?_setAll_empty.2 ⟨rfl, stands⟩
    exact ⟨setting.key, Key.mem_all _, by rw [entry, Option.map_some]⟩

end Escalation

/-! ### The conversation with a runtime -/

/-- A call, and what the runtime answers. -/
abbrev Exchange := Call × Except Error Unit

section

variable {Runtime : Type} (respond : Call → Runtime → Except Error Unit × Runtime)

/-- The runtime answers one call after the other, each in the state that the one before left. -/
inductive Converses : Runtime → List Exchange → Runtime → Prop where
  | done {runtime : Runtime} : Converses runtime [] runtime
  | next {runtime next last : Runtime} {call : Call} {answer : Except Error Unit}
      {exchanges : List Exchange} : respond call runtime = (answer, next) →
      Converses next exchanges last → Converses runtime ((call, answer) :: exchanges) last

/-- A runtime that beside its answers keeps a record of what was said. -/
def recording (call : Call) (state : Runtime × List Exchange) :
    Except Error Unit × Runtime × List Exchange :=
  let (answer, runtime) := respond call state.1
  (answer, runtime, state.2 ++ [(call, answer)])

end

/-- All is well without a rejection; else the first one is what the host hears. -/
inductive Verdict : List Exchange → Except Error Unit → Prop where
  | accepted {exchanges : List Exchange} : (∀ exchange ∈ exchanges, exchange.2 = .ok ()) →
      Verdict exchanges (.ok ())
  | rejected {before after : List Exchange} {call : Call} {error : Error} :
      (∀ exchange ∈ before, exchange.2 = .ok ()) →
      Verdict (before ++ (call, .error error) :: after) (.error error)

theorem Verdict.cons {exchanges : List Exchange} {result : Except Error Unit}
    (verdict : Verdict exchanges result) (call : Call) :
    Verdict ((call, .ok ()) :: exchanges) result := by
  cases verdict with
  | accepted all => exact .accepted (List.forall_mem_cons.2 ⟨rfl, all⟩)
  | rejected before =>
    rw [← List.cons_append]
    exact .rejected (List.forall_mem_cons.2 ⟨rfl, before⟩)

section

variable {Runtime : Type} {respond : Call → Runtime → Except Error Unit × Runtime}
  {runtime last : Runtime} {exchanges : List Exchange}

theorem exists_converses (respond : Call → Runtime → Except Error Unit × Runtime)
    (calls : List Call) (runtime : Runtime) :
    ∃ exchanges last, Converses respond runtime exchanges last ∧
      exchanges.map Prod.fst = calls := by
  induction calls generalizing runtime with
  | nil => exact ⟨[], runtime, .done, rfl⟩
  | cons call calls ih =>
    obtain ⟨exchanges, last, converses, same⟩ := ih (respond call runtime).2
    exact ⟨(call, (respond call runtime).1) :: exchanges, last, .next rfl converses, by simp [same]⟩

/-- A record that is kept changes neither the result nor the runtime. -/
theorem Converses.makeCalls (converses : Converses respond runtime exchanges last) :
    ∃ result, Verdict exchanges result ∧
      Escalation.makeCalls respond (exchanges.map Prod.fst) runtime = (result, last) ∧
      ∀ heard, Escalation.makeCalls (recording respond) (exchanges.map Prod.fst)
        (runtime, heard) = (result, last, heard ++ exchanges) := by
  induction converses with
  | done => exact ⟨.ok (), .accepted (by simp), rfl, by simp [Escalation.makeCalls]⟩
  | @next runtime next last call answer exchanges answered _ ih =>
    obtain ⟨result, verdict, made, recorded⟩ := ih
    -- The later calls are made either way; their verdict counts where this call is accepted.
    cases answer with
    | ok =>
      refine ⟨result, verdict.cons call, ?_, fun heard => ?_⟩
      · simp [Escalation.makeCalls, answered, made]
      · simp [Escalation.makeCalls, recording, answered, recorded]
    | error error =>
      have before : ∀ exchange ∈ ([] : List Exchange), exchange.2 = .ok () := by simp
      refine ⟨.error error, .rejected before, ?_, fun heard => ?_⟩
      · simp [Escalation.makeCalls, answered, made]
      · simp [Escalation.makeCalls, recording, answered, recorded]

end

/-- Whatever a runtime answers, it is told every setting that stands, in the order of the keys, and
nothing else. These are as many calls as the table has entries, and what the host hears of them is
the first rejection. -/
theorem apply_tells_all {Runtime : Type} (respond : Call → Runtime → Except Error Unit × Runtime)
    (runtime : Runtime) (start : Start) (settings : List Setting) :
    let table := start.table.setAll settings
    ∃ exchanges result last,
      table.apply (recording respond) (runtime, []) = (result, last, exchanges) ∧
      table.apply respond runtime = (result, last) ∧
      Converses respond runtime exchanges last ∧
      exchanges.length = table.size ∧
      (exchanges.map Prod.fst).Pairwise (fun first second => first.key.Before second.key) ∧
      (∀ call, call ∈ exchanges.map Prod.fst ↔
        ∃ setting, Stands (start.settings ++ settings) setting ∧ setting.call = call) ∧
      Verdict exchanges result := by
  intro table
  obtain ⟨exchanges, last, converses, same⟩ := exists_converses respond table.calls runtime
  obtain ⟨result, verdict, made, recorded⟩ := converses.makeCalls
  rw [same] at made
  have heard := recorded []
  rw [same, List.nil_append] at heard
  refine ⟨exchanges, result, last, heard, made, converses, ?_, ?_, fun call => ?_, verdict⟩
  · rw [table.size_eq_length_calls, ← same, List.length_map]
  · rw [same]
    exact table.calls_pairwise_before
  · rw [same]
    have settled : table = Escalation.empty.setAll (start.settings ++ settings) :=
      Escalation.table_setAll start settings
    rw [settled]
    exact Escalation.mem_calls_setAll_empty

/-- A timeout that is set again loses the action that it had, and the failure comes first. -/
example : (Escalation.empty.setAll [.timeout .finalizerRun ⟨5, some .exitProcess⟩,
    .failure .stackOverflow .abortThread, .timeout .finalizerRun ⟨7, none⟩]).calls =
      [.failure .stackOverflow .abortThread, .timeout .finalizerRun 7] := by
  decide

end Steward.Policy
