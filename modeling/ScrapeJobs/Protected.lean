import ScrapeJobs.Rejection
import ScrapeJobs.Relabel.Draft

/-!
# Protected labels

The labels that the platform sets itself are not for users to write or to remove.
`Protected.check` accepts a rule only if it can do neither, whatever series it meets.
-/

namespace ScrapeJobs.Protected

open Relabel

/-- The labels that the platform sets. -/
def labels : List String :=
  [Label.projectId, Label.location, Label.cluster, Label.namespaceName, Label.job,
    Label.instanceName, Label.address]

def isProtected (name : String) : Bool := labels.contains name

/-- Refuses a rule that could write a protected label, or remove one. -/
def check (r : Rule) : Except Cause Unit :=
  match r.action with
  | .keep | .drop => .ok ()
  | .replace | .hashMod =>
    if r.targetLabel.toList.contains '$' then
      .error (.protectedLabel r.action (.computedTarget r.targetLabel))
    else if isProtected r.targetLabel then
      .error (.protectedLabel r.action (.writes r.targetLabel))
    else .ok ()
  | .labelDrop =>
    match Regex.anchored? r.regex with
    | none => .error (.relabeling (.regex r.regex))
    | some regex =>
      match labels.find? regex.isMatch with
      | some l => .error (.protectedLabel r.action (.drops r.regex l))
      | none => .ok ()
  | .labelKeep =>
    match Regex.anchored? r.regex with
    | none => .error (.relabeling (.regex r.regex))
    | some regex =>
      match labels.find? (!regex.isMatch ·) with
      | some l => .error (.protectedLabel r.action (.loses r.regex l))
      | none => .ok ()
  | .labelMap => .error (.protectedLabel r.action .maps)

/-- The rule of a draft, if it is well formed and leaves protected labels alone. -/
def acceptDraft (d : Draft) : Except Cause Rule := do
  let r := d.toRule
  r.check.mapError .relabeling
  check r
  return r

/-- The rules of drafts, if all of them are acceptable. -/
def accept (drafts : List Draft) : Except Cause (List Rule) := drafts.mapM acceptDraft

end ScrapeJobs.Protected
