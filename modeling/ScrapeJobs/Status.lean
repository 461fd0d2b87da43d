import ScrapeJobs.Time

/-!
# Status of a resource

A status has at most one condition of each type when it is built with `Status.set`, which
keeps the time of a condition as long as its state does not change.
-/

namespace ScrapeJobs

/-- The state of a condition. -/
inductive Condition.State where
  | yes
  | no
  | unknown
  deriving DecidableEq, Repr

namespace Condition.State

def name : State → String
  | yes => "True"
  | no => "False"
  | unknown => "Unknown"

def all : List State := [yes, no, unknown]

def ofName? (s : String) : Option State := all.find? (·.name = s)

end Condition.State

/-- What is known about one aspect of a resource. -/
structure Condition where
  type : String
  state : Condition.State
  /-- A word for machines. -/
  reason : String
  /-- A text for people. -/
  message : String
  /-- When the state last changed. -/
  since : Time
  deriving DecidableEq

/-- The type of the condition that tells whether a resource was compiled. -/
def Condition.compiledType : String := "ConfigurationCreateSuccess"

/-- The status of a resource. -/
structure Status where
  observedGeneration : Option Int64 := none
  conditions : List Condition := []
  deriving DecidableEq

namespace Status

/-- The condition that takes the place of an older one of its type. -/
def renew (old new : Condition) : Condition :=
  if old.state = new.state then { new with since := old.since } else new

def setIn (c : Condition) : List Condition → List Condition
  | [] => [c]
  | d :: rest => if d.type = c.type then renew d c :: rest else d :: setIn c rest

/-- Sets the condition of a type. -/
def set (s : Status) (c : Condition) : Status := { s with conditions := setIn c s.conditions }

def find? (s : Status) (type : String) : Option Condition := s.conditions.find? (·.type = type)

end Status

end ScrapeJobs
