/-! The levels of thread priority and their numbers. -/

set_option autoImplicit false

namespace Steward.Tasks

inductive Priority where
  | idle
  | lowest
  | belowNormal
  | normal
  | aboveNormal
  | highest
  | timeCritical
  deriving DecidableEq

namespace Priority

def all : List Priority :=
  [idle, lowest, belowNormal, normal, aboveNormal, highest, timeCritical]

def label : Priority → String
  | idle => "Idle"
  | lowest => "Lowest"
  | belowNormal => "BelowNormal"
  | normal => "Normal"
  | aboveNormal => "AboveNormal"
  | highest => "Highest"
  | timeCritical => "TimeCritical"

def value : Priority → Int
  | idle => -15
  | lowest => -2
  | belowNormal => -1
  | normal => 0
  | aboveNormal => 1
  | highest => 2
  | timeCritical => 15

instance : Inhabited Priority := ⟨normal⟩

def ofValue? (number : Int) : Option Priority := all.find? fun priority => priority.value = number

theorem ofValue?_value (priority : Priority) : ofValue? priority.value = some priority := by
  cases priority <;> rfl

theorem ofValue?_eq_some_iff {number : Int} {priority : Priority} :
    ofValue? number = some priority ↔ number = priority.value := by
  constructor
  · intro found
    have same := List.find?_some found
    exact (of_decide_eq_true same).symm
  · rintro rfl
    exact ofValue?_value priority

end Priority

end Steward.Tasks
