/-! How a watched wait divides its time. It waits in slices and looks for a deadlock after each.
Slices double until half the time is spent; then one slice takes the rest. A wait without end
doubles up to a longest slice. Times are in nanoseconds. -/

set_option autoImplicit false

namespace Steward.Deadlock

structure Backoff where
  slice : Nat
  waited : Nat := 0
  /-- The whole time; none for a wait without end. -/
  total : Option Nat
  longest : Nat
  deriving DecidableEq

namespace Backoff

/-- The time of the next slice, at most what is left. -/
def current (backoff : Backoff) : Nat :=
  match backoff.total with
  | some total => min backoff.slice (total - backoff.waited)
  | none => backoff.slice

/-- Count a slice that passed. -/
def spend (backoff : Backoff) : Backoff :=
  { backoff with waited := backoff.waited + backoff.current }

/-- Choose the slice after one that passed; there is none when the time is spent. -/
def next? (backoff : Backoff) : Option Backoff :=
  match backoff.total with
  | some total =>
      if total ≤ backoff.waited then none
      else if total / 2 ≤ backoff.waited then
        some { backoff with slice := total - backoff.waited }
      else some { backoff with slice := 2 * backoff.slice }
  | none => some { backoff with slice := min (2 * backoff.slice) backoff.longest }

end Backoff

end Steward.Deadlock
