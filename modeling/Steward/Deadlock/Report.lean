import Steward.Ident

/-! A deadlock: threads that wait for each other's locks in a ring. -/

set_option autoImplicit false

namespace Steward.Deadlock

/-- A thread waits for a lock that the owner holds. -/
structure Edge where
  thread : ThreadId
  cookie : Cookie
  owner : ThreadId
  deriving DecidableEq

structure Report where
  cycle : List Edge
  deriving DecidableEq

namespace Report

/-- A ring of threads with the lock that each waits for, which the next one holds; the last lock
is held by the first thread. -/
def ofRing (ring : List (ThreadId × Cookie)) : Report :=
  ⟨ring.zipWith (fun member next => ⟨member.1, member.2, next.1⟩) (ring.drop 1 ++ ring.take 1)⟩

def participants (report : Report) : List ThreadId := report.cycle.map Edge.thread

def cookies (report : Report) : List Cookie := report.cycle.map Edge.cookie

def edgeText (edge : Edge) : String :=
  " [" ++ edge.thread.text ++ " waits on lock " ++ edge.cookie.text ++ " held by " ++
    edge.owner.text ++ "]"

def text (report : Report) : String :=
  "deadlock among " ++ toString report.cycle.length ++ " threads:" ++
    String.join (report.cycle.map edgeText)

end Report

end Steward.Deadlock
