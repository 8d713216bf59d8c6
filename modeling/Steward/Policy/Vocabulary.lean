/-! The failures and operations that a runtime can escalate, and what it is to do about them. -/

set_option autoImplicit false

namespace Steward.Policy

inductive Failure where
  | nonCriticalResource
  | criticalResource
  | fatalRuntime
  | orphanedLock
  | stackOverflow
  | accessViolation
  | codeContract
  deriving DecidableEq

namespace Failure

def all : List Failure :=
  [nonCriticalResource, criticalResource, fatalRuntime, orphanedLock, stackOverflow,
    accessViolation, codeContract]

theorem mem_all (failure : Failure) : failure ∈ all := by cases failure <;> decide

def label : Failure → String
  | nonCriticalResource => "NonCriticalResource"
  | criticalResource => "CriticalResource"
  | fatalRuntime => "FatalRuntime"
  | orphanedLock => "OrphanedLock"
  | stackOverflow => "StackOverflow"
  | accessViolation => "AccessViolation"
  | codeContract => "CodeContract"

end Failure

inductive Operation where
  | threadAbort
  | rudeAbortOutsideCriticalRegion
  | rudeAbortInCriticalRegion
  | domainUnload
  | rudeDomainUnload
  | processExit
  | finalizerRun
  deriving DecidableEq

namespace Operation

def all : List Operation :=
  [threadAbort, rudeAbortOutsideCriticalRegion, rudeAbortInCriticalRegion, domainUnload,
    rudeDomainUnload, processExit, finalizerRun]

theorem mem_all (operation : Operation) : operation ∈ all := by cases operation <;> decide

def label : Operation → String
  | threadAbort => "ThreadAbort"
  | rudeAbortOutsideCriticalRegion => "ThreadRudeAbortInNonCriticalRegion"
  | rudeAbortInCriticalRegion => "ThreadRudeAbortInCriticalRegion"
  | domainUnload => "AppDomainUnload"
  | rudeDomainUnload => "AppDomainRudeUnload"
  | processExit => "ProcessExit"
  | finalizerRun => "FinalizerRun"

end Operation

inductive Action where
  | none
  | throwException
  | abortThread
  | rudeAbortThread
  | unloadDomain
  | rudeUnloadDomain
  | exitProcess
  | fastExitProcess
  | rudeExitProcess
  | disableRuntime
  deriving DecidableEq

namespace Action

def all : List Action :=
  [none, throwException, abortThread, rudeAbortThread, unloadDomain, rudeUnloadDomain,
    exitProcess, fastExitProcess, rudeExitProcess, disableRuntime]

def label : Action → String
  | none => "NoAction"
  | throwException => "ThrowException"
  | abortThread => "AbortThread"
  | rudeAbortThread => "RudeAbortThread"
  | unloadDomain => "UnloadAppDomain"
  | rudeUnloadDomain => "RudeUnloadAppDomain"
  | exitProcess => "ExitProcess"
  | fastExitProcess => "FastExitProcess"
  | rudeExitProcess => "RudeExitProcess"
  | disableRuntime => "DisableRuntime"

end Action

/-- Who decides what an unhandled exception leads to. -/
inductive Unhandled where
  | runtimeDetermined
  | hostDetermined
  deriving DecidableEq

namespace Unhandled

def all : List Unhandled := [runtimeDetermined, hostDetermined]

def label : Unhandled → String
  | runtimeDetermined => "RuntimeDetermined"
  | hostDetermined => "HostDetermined"

end Unhandled

end Steward.Policy
