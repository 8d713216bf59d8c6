import Steward.Policy.Escalation

/-! A runtime that notes every call, and rejects those whose text starts in a given way. -/

set_option autoImplicit false

namespace Steward.Policy

def Call.text : Call → String
  | .failure kind action => " ".intercalate ["failure", kind.label, action.label]
  | .timeout operation nanoseconds =>
      " ".intercalate ["timeout", operation.label, toString nanoseconds]
  | .timeoutAndAction operation nanoseconds action =>
      " ".intercalate ["timeout_and_action", operation.label, toString nanoseconds, action.label]
  | .default operation action => " ".intercalate ["default", operation.label, action.label]
  | .unhandled policy => " ".intercalate ["unhandled", policy.label]

structure Recorder where
  /-- A call is rejected when its text starts with one of these. -/
  rejected : List String
  calls : List String := []

def Recorder.respond (call : Call) (recorder : Recorder) : Except Error Unit × Recorder :=
  let heard := { recorder with calls := recorder.calls ++ [call.text] }
  if recorder.rejected.any fun start => start.toList.isPrefixOf call.text.toList then
    (.error (.invalidArgument (.rejected call.text)), heard)
  else (.ok (), heard)

end Steward.Policy
