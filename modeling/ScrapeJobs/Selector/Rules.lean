import ScrapeJobs.Rejection

/-!
# Selectors as rules

`Selector.rules` turns a selector into rules that keep the discovered objects it picks:
first one for each label value, in the order of the keys, then one for each requirement.
The values of a requirement are taken as patterns.
-/

namespace ScrapeJobs.Selector

open Relabel

/-- The pattern for any of several values. -/
def anyOf (values : List String) : String := "|".intercalate values

/-- Checks the pattern of a requirement. -/
def Requirement.pattern (r : Requirement) : Except Cause String :=
  if (Regex.anchored? (anyOf r.values)).isSome then .ok (anyOf r.values)
  else .error (.requirementPattern r.key (anyOf r.values))

/-- The rule that keeps the objects for which a requirement holds. -/
def Requirement.rule (r : Requirement) (f : Label.Family) : Except Cause Rule :=
  match r.fault? with
  | some fault => .error (.requirement r.key fault)
  | none =>
    match r.operator with
    | .isIn => return .keep [f.valueOf r.key] (← r.pattern)
    | .notIn => return .drop [f.valueOf r.key] (← r.pattern)
    | .present => return .keep [f.presenceOf r.key] "true"
    | .absent => return .drop [f.presenceOf r.key] "true"

/-- The rule that keeps the objects with a label value. -/
def valueRule (f : Label.Family) (key value : String) : Rule :=
  .keep [f.valueOf key] (literal value)

/-- The rules that keep the objects a selector picks. -/
def rules (s : Selector) (f : Label.Family) : Except Cause (List Rule) := do
  let values := s.matchLabels.entries.map fun (k, v) => valueRule f k v
  return values ++ (← s.requirements.mapM (·.rule f))

end ScrapeJobs.Selector
