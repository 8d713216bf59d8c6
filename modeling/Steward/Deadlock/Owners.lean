import Steward.Deadlock.Walk

/-! What the runtime answers when it is asked for the owner of a lock. It has a table, and may have
answers prepared for a lock, which go before the table and are used up one by one. -/

set_option autoImplicit false

namespace Steward.Deadlock

/-- A prepared answer, with what happens while it is given. -/
structure Prepared where
  /-- This thread stops waiting. -/
  endEnter : Option ThreadId := none
  /-- The monitor that goes by this name then is set; if none does, nothing is. -/
  sets : Option String := none
  /-- The owner; without one the table answers. -/
  owner : Option (Option ThreadId) := none
  deriving DecidableEq

structure Owners where
  table : Assoc Cookie ThreadId := {}
  prepared : Assoc Cookie (List Prepared) := {}
  /-- The monitors by name, each with its signal and its lock. -/
  monitors : Assoc String (Nat × Cookie) := {}
  /-- The locks that were asked for since somebody looked, latest first. -/
  asked : List Cookie := []

namespace Owners

/-- Note the question, and use up an answer prepared for it. -/
def next (owners : Owners) (cookie : Cookie) : Prepared × Owners :=
  let noted := { owners with asked := cookie :: owners.asked }
  match owners.prepared.get? cookie with
  | some (answer :: rest) =>
      (answer, { noted with prepared := owners.prepared.insert cookie rest })
  | _ => ({}, noted)

/-- The owner that an answer names, or else the table. -/
def ownerIn (owners : Owners) (cookie : Cookie) (answer : Prepared) : Option ThreadId :=
  answer.owner.getD (owners.table.get? cookie)

def own (owners : Owners) (cookie : Cookie) (thread : ThreadId) : Owners :=
  { owners with table := owners.table.insert cookie thread }

def disown (owners : Owners) (cookie : Cookie) : Owners :=
  { owners with table := owners.table.erase cookie }

def prepare (owners : Owners) (cookie : Cookie) (answers : List Prepared) : Owners :=
  { owners with prepared := owners.prepared.insert cookie answers }

/-- Give a monitor a name, which another one may have had before. -/
def nameMonitor (owners : Owners) (name : String) (serial : Nat) (cookie : Cookie) : Owners :=
  { owners with monitors := owners.monitors.insert name (serial, cookie) }

/-- Look at what was asked, in order, and forget it. -/
def takeAsked (owners : Owners) : List Cookie × Owners :=
  (owners.asked.reverse, { owners with asked := [] })

end Owners

end Steward.Deadlock
