import Steward.Deadlock.Report

/-! How a wait ended. -/

set_option autoImplicit false

namespace Steward.Sync

inductive Outcome where
  | signaled
  /-- What was waited for is gone. -/
  | abandoned
  /-- An alert ended the wait. -/
  | interrupted
  | timedOut
  /-- The wait would never end, because it closes a ring. -/
  | deadlock (report : Deadlock.Report)
  deriving DecidableEq

namespace Outcome

def isSignaled : Outcome → Bool
  | signaled => true
  | _ => false

def isTimedOut : Outcome → Bool
  | timedOut => true
  | _ => false

def report? : Outcome → Option Deadlock.Report
  | deadlock report => some report
  | _ => none

end Outcome

end Steward.Sync
