import Steward.Error
import Steward.Policy.Vocabulary

/-! The escalation table, and how a runtime is told about it: every entry is one call, and a call
that the runtime rejects does not keep the later ones from being made. -/

set_option autoImplicit false

namespace Steward.Policy

/-- A time in nanoseconds, and what to do once it has passed. -/
structure Timeout where
  nanoseconds : Nat
  action : Option Action
  deriving DecidableEq

structure Escalation where
  failures : Failure → Option Action
  timeouts : Operation → Option Timeout
  defaults : Operation → Option Action
  unhandled : Option Unhandled

/-- One setting that a runtime is asked to adopt. -/
inductive Call where
  | failure (failure : Failure) (action : Action)
  | timeout (operation : Operation) (nanoseconds : Nat)
  | timeoutAndAction (operation : Operation) (nanoseconds : Nat) (action : Action)
  | default (operation : Operation) (action : Action)
  | unhandled (policy : Unhandled)
  deriving DecidableEq

/-- One change of the table. -/
inductive Setting where
  | failure (failure : Failure) (action : Action)
  | timeout (operation : Operation) (timeout : Timeout)
  | default (operation : Operation) (action : Action)
  | unhandled (policy : Unhandled)
  deriving DecidableEq

namespace Escalation

def empty : Escalation := ⟨fun _ => none, fun _ => none, fun _ => none, none⟩

def set (table : Escalation) : Setting → Escalation
  | .failure failure action =>
      { table with
        failures := fun other => if other = failure then some action else table.failures other }
  | .timeout operation timeout =>
      { table with
        timeouts := fun other => if other = operation then some timeout else table.timeouts other }
  | .default operation action =>
      { table with
        defaults := fun other => if other = operation then some action else table.defaults other }
  | .unhandled policy => { table with unhandled := some policy }

def setAll (table : Escalation) (settings : List Setting) : Escalation := settings.foldl set table

def second : Nat := 1000000000

/-- The settings that a host has unless it is told otherwise. -/
def standardSettings : List Setting :=
  [.failure .nonCriticalResource .throwException,
    .failure .criticalResource .unloadDomain,
    .failure .orphanedLock .unloadDomain,
    .failure .fatalRuntime .rudeExitProcess,
    .failure .stackOverflow .rudeUnloadDomain,
    .timeout .threadAbort ⟨20 * second, some .rudeAbortThread⟩,
    .timeout .finalizerRun ⟨10 * second, none⟩,
    .timeout .domainUnload ⟨30 * second, some .rudeUnloadDomain⟩,
    .default .rudeAbortInCriticalRegion .rudeUnloadDomain,
    .unhandled .hostDetermined]

def standard : Escalation := empty.setAll standardSettings

def timeoutCall (operation : Operation) (timeout : Timeout) : Call :=
  match timeout.action with
  | some action => .timeoutAndAction operation timeout.nanoseconds action
  | none => .timeout operation timeout.nanoseconds

/-- The calls that hand the table to a runtime: failures, timeouts and defaults, each in the order
of declaration, and the policy for unhandled exceptions last. -/
def calls (table : Escalation) : List Call :=
  (Failure.all.filterMap fun failure => (table.failures failure).map (Call.failure failure)) ++
    (Operation.all.filterMap fun operation =>
      (table.timeouts operation).map (timeoutCall operation)) ++
    (Operation.all.filterMap fun operation =>
      (table.defaults operation).map (Call.default operation)) ++
    (table.unhandled.map Call.unhandled).toList

/-- The number of entries. -/
def size (table : Escalation) : Nat :=
  Failure.all.countP (fun failure => (table.failures failure).isSome) +
    Operation.all.countP (fun operation => (table.timeouts operation).isSome) +
    Operation.all.countP (fun operation => (table.defaults operation).isSome) +
    table.unhandled.toList.length

/-- Make calls one after another; the first rejection is the result. -/
def makeCalls {Runtime : Type} (respond : Call → Runtime → Except Error Unit × Runtime) :
    List Call → Runtime → Except Error Unit × Runtime
  | [], runtime => (.ok (), runtime)
  | call :: rest, runtime =>
      let (answer, runtime) := respond call runtime
      let (later, runtime) := makeCalls respond rest runtime
      match answer with
      | .error error => (.error error, runtime)
      | .ok _ => (later, runtime)

/-- Hand the whole table to a runtime. -/
def apply {Runtime : Type} (table : Escalation)
    (respond : Call → Runtime → Except Error Unit × Runtime) (runtime : Runtime) :
    Except Error Unit × Runtime :=
  makeCalls respond table.calls runtime

end Escalation

end Steward.Policy
