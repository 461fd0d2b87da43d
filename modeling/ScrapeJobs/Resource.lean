import ScrapeJobs.Http.Draft
import ScrapeJobs.Relabel.Draft
import ScrapeJobs.Selector
import ScrapeJobs.Status

/-!
# Monitoring resources

A resource asks for scrape jobs: for the pods of its namespace or of all namespaces, for
the nodes of the cluster, or for probes of fixed targets. Each of its endpoints, which
are called modules in a probe, becomes one job.
-/

namespace ScrapeJobs

/-! ## Endpoints -/

/-- How to scrape an endpoint, whatever it belongs to. Unset and empty texts take the
usual value. -/
structure Settings where
  scheme : Option String := none
  path : Option String := none
  params : Dict (List String) := ∅
  interval : Option String := none
  /-- The interval if unset. -/
  timeout : Option String := none
  metricRelabeling : List Relabel.Draft := []
  http : Http.Draft.Client := {}
  deriving DecidableEq

/-- The settings that scrape at an interval. -/
def Settings.every (interval : String) : Settings := { interval := some interval }

/-- A port by its name or its number. -/
inductive PortRef where
  | name (s : String)
  | number (n : Int32)
  deriving DecidableEq

/-- An endpoint of pods. -/
structure PodEndpoint where
  port : Option PortRef := none
  settings : Settings := {}
  deriving DecidableEq

/-- What a prober is asked for. -/
structure ProbeModule where
  name : String
  settings : Settings := {}
  deriving DecidableEq

/-! ## Specifications -/

/-- Copies a label of an object to its series, under its own name unless another one is
given. -/
structure LabelMapping where
  source : String
  /-- An empty name is unset. -/
  renamed : Option String := none
  deriving DecidableEq

/-- The label that a mapping writes. -/
def LabelMapping.target (m : LabelMapping) : String :=
  (m.renamed.filter (· ≠ "")).getD m.source

/-- Labels for the series of a resource. -/
structure TargetLabels where
  /-- Names of metadata; the usual ones if unset. -/
  metadata : Option (List String) := none
  fromPod : List LabelMapping := []
  deriving DecidableEq

/-- Limits on what is scraped; zero does not limit. -/
structure Limits where
  samples : UInt64 := 0
  labels : UInt64 := 0
  labelNameLength : UInt64 := 0
  labelValueLength : UInt64 := 0
  deriving DecidableEq

/-- What to scrape of pods. -/
structure PodSpec where
  selector : Selector := {}
  endpoints : List PodEndpoint
  targetLabels : TargetLabels := {}
  limits : Option Limits := none
  /-- Whether finished pods are left out, which they are if unset. -/
  filterRunning : Option Bool := none
  deriving DecidableEq

/-- What to scrape of nodes. -/
structure NodeSpec where
  /-- All nodes if unset. -/
  selector : Option Selector := none
  endpoints : List Settings
  limits : Option Limits := none
  deriving DecidableEq

/-- What to probe. -/
structure ProbeSpec where
  /-- Host and port of the prober. -/
  prober : String
  targets : List String
  modules : List ProbeModule
  limits : Option Limits := none
  deriving DecidableEq

/-! ## Resources -/

/-- The kinds of resources. -/
inductive Kind where
  | pod
  | clusterPod
  | clusterNode
  | probe
  deriving DecidableEq, Repr

namespace Kind

def name : Kind → String
  | pod => "PodMonitoring"
  | clusterPod => "ClusterPodMonitoring"
  | clusterNode => "ClusterNodeMonitoring"
  | probe => "ProbeMonitoring"

def all : List Kind := [pod, clusterPod, clusterNode, probe]

def ofName? (s : String) : Option Kind := all.find? (·.name = s)

/-- Whether resources of a kind live in a namespace. -/
def isNamespaced : Kind → Bool
  | pod | probe => true
  | clusterPod | clusterNode => false

def group : String := "monitoring.vigil.dev"

def version : String := "v1"

def apiVersion : String := group ++ "/" ++ version

def plural (k : Kind) : String := k.name.toLower ++ "s"

def shortName : Kind → String
  | pod => "pm"
  | clusterPod => "cpm"
  | clusterNode => "cnm"
  | probe => "probe"

/-- The columns of a listing: name, type and the path of the value. -/
def columns : List (String × String × String) := [("Age", "date", ".metadata.creationTimestamp")]

end Kind

/-- The name and the labels of a resource. -/
structure Metadata where
  name : Option String := none
  inNamespace : Option String := none
  labels : Option (Dict String) := none
  generation : Option Int64 := none
  deriving DecidableEq

/-- What a resource asks for. -/
inductive Target where
  | pod (spec : PodSpec)
  | clusterPod (spec : PodSpec)
  | clusterNode (spec : NodeSpec)
  | probe (spec : ProbeSpec)
  deriving DecidableEq

def Target.kind : Target → Kind
  | pod _ => .pod
  | clusterPod _ => .clusterPod
  | clusterNode _ => .clusterNode
  | probe _ => .probe

/-- A monitoring resource. -/
structure Resource where
  metadata : Metadata := {}
  target : Target
  status : Option Status := none
  deriving DecidableEq

def Resource.kind (r : Resource) : Kind := r.target.kind

end ScrapeJobs
