import Steward.Host.Watch

/-! The completion workers of a host, and its end. -/

set_option autoImplicit false

namespace Steward.Host

/-- A thread that waits for the end of workers. -/
def awaitsWorkers (wait : Wait) : Bool :=
  match wait.target with
  | .workers _ => true
  | _ => false

/-- Let the workers work until they rest. If one left, those look who wait for the end of some. -/
def restCrew (host : Host) : Host :=
  let crew := host.crew.rest
  { host with
    crew
    waits :=
      if crew.workers.size < host.crew.workers.size then
        host.waits.mapValues fun _ wait => if awaitsWorkers wait then wait.wake else wait
      else host.waits }

/-- Close every channel, and begin to wait for the end of the workers. -/
def startShutdown (host : Host) (thread : ThreadId) (timeout : Nat) : Host :=
  let (workers, crew) := host.crew.shutdown
  { host with crew }.startWait thread (.workers workers) (some timeout) {} .shutdown

end Steward.Host
