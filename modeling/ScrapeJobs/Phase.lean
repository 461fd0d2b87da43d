import ScrapeJobs.Mapping
import ScrapeJobs.MetadataLabel
import ScrapeJobs.Platform
import ScrapeJobs.Port
import ScrapeJobs.Selector.Rules

/-!
# Target relabeling

The rules for the targets of a job come in seven phases, always in the same order: the
identifiers of the platform, the choice of targets, metadata, the name of the job, the
filter of finished pods, the address, and the label mappings of the resource.
-/

namespace ScrapeJobs

open Relabel

/-! ## What a resource says -/

/-- An endpoint of a resource. -/
inductive Endpoint where
  | pod (e : PodEndpoint)
  | node (s : Settings)
  | probe (m : ProbeModule)
  deriving DecidableEq

def Endpoint.settings : Endpoint → Settings
  | pod e => e.settings
  | node s => s
  | probe m => m.settings

namespace Target

/-- The endpoints in order. -/
def endpoints : Target → List Endpoint
  | pod s | clusterPod s => s.endpoints.map .pod
  | clusterNode s => s.endpoints.map .node
  | probe s => s.modules.map .probe

/-- The field that holds the endpoints. -/
def endpointsField : Target → String
  | probe _ => "modules"
  | _ => "endpoints"

/-- What discovery looks for; nothing for probes. -/
def role? : Target → Option Role
  | pod _ | clusterPod _ => some .pod
  | clusterNode _ => some .node
  | probe _ => none

/-- The kind of objects whose labels discovery offers. -/
def family? (t : Target) : Option Label.Family :=
  t.role?.map fun
    | .pod => .pod
    | .node => .node

/-- The selector of the objects to scrape. -/
def selector? : Target → Option (Selector × Label.Family)
  | pod s | clusterPod s => some (s.selector, .pod)
  | clusterNode s => s.selector.map fun s => (s, .node)
  | probe _ => none

/-- The targets that a probe names. -/
def staticTargets : Target → List String
  | probe s => s.targets
  | _ => []

/-- The address of the prober. -/
def prober? : Target → Option String
  | probe s => some s.prober
  | _ => none

def limits? : Target → Option Limits
  | pod s | clusterPod s => s.limits
  | clusterNode s => s.limits
  | probe s => s.limits

/-- Whether finished pods are left out. -/
def filterRunning : Target → Bool
  | pod s | clusterPod s => s.filterRunning.getD true
  | clusterNode _ | probe _ => false

def labelMappings : Target → List LabelMapping
  | pod s | clusterPod s => s.targetLabels.fromPod
  | clusterNode _ | probe _ => []

/-- The metadata asked for. Resources of a namespace get none unless they ask, those of
the cluster the namespace. -/
def metadata : Target → Except Cause (List MetadataLabel)
  | pod s => MetadataLabel.resolve s.targetLabels.metadata [] MetadataLabel.namespaced
  | clusterPod s =>
    MetadataLabel.resolve s.targetLabels.metadata [.ofNamespace] MetadataLabel.all
  | clusterNode _ | probe _ => .ok []

end Target

namespace Resource

/-- The name of a resource. -/
def name (r : Resource) : Except Cause String :=
  match r.metadata.name.filter (· ≠ "") with
  | some n => .ok n
  | none => .error (.missingMetadata "name")

/-- The namespace of a resource, if its kind has one. -/
def namespace? (r : Resource) : Except Cause (Option String) :=
  if r.kind.isNamespaced then
    match r.metadata.inNamespace.filter (· ≠ "") with
    | some ns => .ok (some ns)
    | none => .error (.missingMetadata "namespace")
  else .ok none

/-- The key of a resource: its kind, its namespace if it has one, and its name. -/
def key (r : Resource) : Except Cause String := do
  let name ← r.name
  match ← r.namespace? with
  | some ns => return r.kind.name ++ "/" ++ ns ++ "/" ++ name
  | none => return r.kind.name ++ "/" ++ name

/-- Which secrets a resource may refer to. -/
def secretScope (r : Resource) (default : String) : Except Cause SecretScope := do
  match ← r.namespace? with
  | some ns => return .own ns
  | none => return .any default

end Resource

/-! ## Phases -/

/-- What the rules of a job depend on. -/
structure JobContext where
  platform : Platform
  target : Target
  name : String
  inNamespace : Option String
  endpoint : Endpoint
  /-- The port of an endpoint of pods. -/
  port : Option Port
  metadata : List MetadataLabel

/-- A group of rules. -/
inductive Phase where
  | forcedLabels
  | targetFilter
  | metadata
  | jobLabel
  | runningFilter
  | address
  | labelMapping
  deriving DecidableEq, Repr

namespace Phase

def name : Phase → String
  | forcedLabels => "forced-labels"
  | targetFilter => "target-filter"
  | metadata => "metadata"
  | jobLabel => "job-label"
  | runningFilter => "running-filter"
  | address => "address"
  | labelMapping => "label-mapping"

/-- All phases in order. -/
def all : List Phase :=
  [forcedLabels, targetFilter, metadata, jobLabel, runningFilter, address, labelMapping]

/-- Sets the identifiers of the platform. -/
def forcedLabelRules (p : Platform) : List Rule := [
  .set Label.projectId p.projectId,
  .set Label.location p.location,
  .set Label.cluster p.cluster]

/-- Keeps the pods of the resource's own namespace. -/
def namespaceFilter (c : JobContext) : List Rule :=
  match c.target, c.inNamespace with
  | .pod _, some ns => [.keep [Label.metaNamespace] (literal ns)]
  | _, _ => []

def selectorFilter (t : Target) : Except Cause (List Rule) :=
  match t.selector? with
  | some (s, f) => s.rules f
  | none => .ok []

def namespaceLabel (ns : Option String) : List Rule :=
  match ns with
  | some ns => [.set Label.namespaceName ns]
  | none => []

/-- Writes the instance and, where discovery has another address, the address. -/
def addressRules (c : JobContext) : Except Cause (List Rule) :=
  match c.endpoint with
  | .pod _ =>
    match c.port with
    | some port => .ok (Port.instanceRules ++ port.rules)
    | none => .error (.port .unresolved)
  | .node _ => .ok [
      .copy [Label.metaNodeName] Label.node,
      .copy [Label.metaNodeName] Label.instanceName]
  | .probe _ =>
    match c.target.prober? with
    | some prober => .ok [
        .copy [Label.address] Label.paramTarget,
        .copy [Label.paramTarget] Label.instanceName,
        .set Label.address prober]
    | none => .error (.empty "prober.address")

def mappingRules (t : Target) : Except Cause (List Rule) :=
  match t.family? with
  | some f => LabelMapping.rules f t.labelMappings
  | none => .ok []

/-- The rules of a phase. -/
def rules (c : JobContext) : Phase → Except Cause (List Rule)
  | forcedLabels => .ok (forcedLabelRules c.platform)
  | targetFilter => do return namespaceFilter c ++ (← selectorFilter c.target)
  | metadata => .ok (namespaceLabel c.inNamespace ++ MetadataLabel.rules c.metadata)
  | jobLabel => .ok [.set Label.job c.name]
  | runningFilter =>
    .ok (if c.target.filterRunning then [.drop [Label.metaPodPhase] "(Failed|Succeeded)"] else [])
  | address => addressRules c
  | labelMapping => mappingRules c.target

/-- The rules of all phases. -/
def allRules (c : JobContext) : Except Cause (List Rule) := do
  return (← all.mapM (rules c)).flatten

end Phase

end ScrapeJobs
