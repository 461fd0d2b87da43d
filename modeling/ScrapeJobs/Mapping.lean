import ScrapeJobs.Protected
import ScrapeJobs.Resource

/-!
# Label mappings as rules

A label mapping becomes one rule that copies a label of the discovered object.
-/

namespace ScrapeJobs.LabelMapping

open Relabel

/-- What is wrong with a mapping. -/
def fault? (m : LabelMapping) : Option MappingFault :=
  if m.source = "" then some .noSource
  else if !Label.isName m.target then some (.target m.target)
  else if Protected.isProtected m.target then some (.protectedTarget m.target)
  else none

/-- The rule of a mapping. -/
def rule (f : Label.Family) (m : LabelMapping) : Except Cause Rule :=
  match m.fault? with
  | some fault => .error (.labelMapping m.source fault)
  | none => .ok (.copy [f.valueOf m.source] m.target)

/-- The rules of mappings, in order. -/
def rules (f : Label.Family) (ms : List LabelMapping) : Except Cause (List Rule) :=
  ms.mapM (rule f)

end ScrapeJobs.LabelMapping
