import ScrapeJobs.Relabel.Run

/-!
# Controllers of pods

A pod knows the controller that owns it. The built-in controllers name what they create in
a way from which the controller above can be told: a replica set of a deployment and a
job of a cron job. Each step of inference that matches overwrites those before it.
-/

namespace ScrapeJobs

open Relabel

/-- A controller of pods. -/
structure Lineage where
  name : Option String
  type : Option String
  deriving DecidableEq, Repr

namespace Lineage

/-- A step of inference: what it reads, the pattern for it, and templates for the name and
the type of the controller. -/
structure Step where
  sources : List String
  regex : String
  name : String
  type : String

def templateHash : String := Label.Family.pod.valueOf "pod_template_hash"

/-- The controller itself. -/
def owner : Step :=
  ⟨[Label.metaPodControllerName, Label.metaPodControllerKind], "(.+);(.+)", "$1", "$2"⟩

/-- The deployment of a replica set. -/
def deployment : Step :=
  ⟨[Label.metaPodControllerKind, Label.metaPodControllerName, templateHash],
    "ReplicaSet;(.+)-[a-z0-9]+;.+", "$1", "Deployment"⟩

/-- The cron job of a job. -/
def cronJob : Step :=
  ⟨[Label.metaPodControllerKind, Label.metaPodControllerName], "Job;(.+)-[0-9]\x7b8\x7d", "$1",
    "CronJob"⟩

def steps : List Step := [owner, deployment, cronJob]

def Step.nameRule (s : Step) : Rule :=
  { Rule.copy s.sources Label.controllerName with regex := s.regex, replacement := s.name }

def Step.typeRule (s : Step) : Rule :=
  { Rule.copy s.sources Label.controllerType with regex := s.regex, replacement := s.type }

/-- The rules that write the name and the type of the controller, each if asked for. -/
def rules (withName withType : Bool) : List Rule :=
  steps.flatMap fun s =>
    (if withName then [s.nameRule] else []) ++ (if withType then [s.typeRule] else [])

/-- What discovery says of a pod with a controller and labels. -/
def discovered (kind name : String) (podLabels : Dict String) : Labels :=
  let ls := podLabels.entries.foldl
    (fun (ls : Labels) (k, v) => ls.insert (Label.Family.pod.valueOf k) v) ∅
  (ls.insert Label.metaPodControllerKind kind).insert Label.metaPodControllerName name

/-- The controller that the rules infer for a pod. -/
def resolve (kind name : String) (podLabels : Dict String) : Except Fault Lineage := do
  let ls := (← run (discovered kind name podLabels) (rules true true)).getD ∅
  return ⟨ls.get? Label.controllerName, ls.get? Label.controllerType⟩

end Lineage

end ScrapeJobs
