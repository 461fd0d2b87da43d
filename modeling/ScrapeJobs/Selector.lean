import ScrapeJobs.Label

/-!
# Selectors

A selector picks objects by their labels: by values that some labels must have and by
requirements on further labels. `Selector.holds` says which objects it picks.
-/

namespace ScrapeJobs

namespace Selector

inductive Operator where
  /-- The label has one of the values. -/
  | isIn
  /-- The label is missing or has none of the values. -/
  | notIn
  | present
  | absent
  deriving DecidableEq, Repr

namespace Operator

def name : Operator → String
  | isIn => "In"
  | notIn => "NotIn"
  | present => "Exists"
  | absent => "DoesNotExist"

def all : List Operator := [isIn, notIn, present, absent]

def ofName? (s : String) : Option Operator := all.find? (·.name = s)

def takesValues : Operator → Bool
  | isIn | notIn => true
  | present | absent => false

/-- Whether an operator with its values holds of a label, which may be missing. -/
def holds (op : Operator) (values : List String) (label : Option String) : Bool :=
  match op, label with
  | isIn, some v => values.contains v
  | isIn, none => false
  | notIn, some v => !values.contains v
  | notIn, none => true
  | present, l => l.isSome
  | absent, l => l.isNone

end Operator

/-- A requirement on one label. -/
structure Requirement where
  key : String
  operator : Operator
  values : List String := []
  deriving DecidableEq

/-- Why a requirement means nothing. -/
inductive Fault where
  | noKey
  | noValues (op : Operator)
  | values (op : Operator)
  deriving DecidableEq, Repr

def Fault.message : Fault → String
  | noKey => "key must not be empty"
  | noValues op => "operator " ++ op.name ++ " requires at least one value"
  | values op => "operator " ++ op.name ++ " takes no values"

namespace Requirement

def holds (r : Requirement) (ls : Labels) : Bool := r.operator.holds r.values (ls.get? r.key)

def fault? (r : Requirement) : Option Fault :=
  if r.key = "" then some .noKey
  else if r.operator.takesValues && r.values.isEmpty then some (.noValues r.operator)
  else if !r.operator.takesValues && !r.values.isEmpty then some (.values r.operator)
  else none

end Requirement

end Selector

/-- Picks objects by their labels; an empty selector picks all. -/
structure Selector where
  matchLabels : Dict String := ∅
  requirements : List Selector.Requirement := []
  deriving DecidableEq

namespace Selector

def isEmpty (s : Selector) : Bool := s.matchLabels.isEmpty && s.requirements.isEmpty

/-- Whether a selector picks an object with the given labels. -/
def holds (s : Selector) (ls : Labels) : Bool :=
  s.matchLabels.entries.all (fun (k, v) => ls.get? k = some v) &&
    s.requirements.all (·.holds ls)

/-- The selector of the objects with the given labels. -/
def ofLabels (pairs : List (String × String)) : Selector := { matchLabels := Dict.ofList pairs }

end Selector

end ScrapeJobs
