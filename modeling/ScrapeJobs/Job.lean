import ScrapeJobs.Duration
import ScrapeJobs.Http
import ScrapeJobs.Relabel

/-!
# Scrape jobs

A job tells a collector how to find targets, how to scrape them and how to relabel what it
finds. `Job.check` is the check that a collector makes of a job when it loads its
configuration, and `Config.check` the one of a whole configuration, whose jobs have
distinct names.
-/

namespace ScrapeJobs

/-- What discovery looks for. -/
inductive Role where
  /-- One target for each container port. -/
  | pod
  /-- One target for each node. -/
  | node
  deriving DecidableEq, Repr

def Role.name : Role → String
  | pod => "pod"
  | node => "node"

def Role.ofName? : String → Option Role
  | "pod" => some pod
  | "node" => some node
  | _ => none

/-- Narrows on the server's side what discovery sees. -/
structure ServerFilter where
  role : Role
  /-- An expression over labels. -/
  label : String := ""
  /-- An expression over fields. -/
  field : String := ""
  deriving DecidableEq

/-- A way to find targets in a cluster. -/
structure Discovery where
  role : Role
  filters : List ServerFilter := []
  deriving DecidableEq

/-- A fixed list of targets. -/
structure StaticTargets where
  targets : List String := []
  /-- Labels of every target. -/
  labels : Labels := ∅
  deriving DecidableEq

/-- A scrape job. Limits of zero do not limit. -/
structure Job where
  name : String := ""
  interval : Duration := .ofSeconds 60
  timeout : Duration := .ofSeconds 10
  path : String := "/metrics"
  scheme : String := "http"
  /-- Query parameters. -/
  params : Dict (List String) := ∅
  discovery : List Discovery := []
  staticTargets : List StaticTargets := []
  client : Http.Client := {}
  /-- Rules for targets when they are found. -/
  relabeling : List Relabel.Rule := []
  /-- Rules for each series. -/
  metricRelabeling : List Relabel.Rule := []
  sampleLimit : UInt64 := 0
  labelLimit : UInt64 := 0
  labelNameLengthLimit : UInt64 := 0
  labelValueLengthLimit : UInt64 := 0
  deriving DecidableEq

/-- The scrape part of a collector's configuration. -/
structure Config where
  jobs : List Job := []
  deriving DecidableEq

/-! ## Errors -/

/-- What is wrong with a job as a whole. -/
inductive Job.Fault where
  | noName
  | zeroInterval
  | zeroTimeout
  | longTimeout
  | scheme (text : String)
  | path (text : String)
  /-- A filter is for another role than its discovery. -/
  | filterRole (filter discovery : Role)
  deriving DecidableEq, Repr

/-- The name of a role in messages. -/
def Role.title : Role → String
  | pod => "Pod"
  | node => "Node"

open Text in
def Job.Fault.message (job : String) : Job.Fault → String
  | noName => "job_name is empty"
  | zeroInterval => "scrape_interval must be greater than zero"
  | zeroTimeout => "scrape_timeout must be greater than zero"
  | longTimeout =>
    "scrape timeout greater than scrape interval for scrape config with job name " ++ quoted job
  | scheme t => "unsupported scheme " ++ quoted t
  | path t => "metrics_path " ++ quoted t ++ " must start with '/'"
  | filterRole f d =>
    "role " ++ f.title ++ " is not supported in selectors for discovery role " ++ d.title

/-- Why a configuration, or a value in one, is refused. -/
inductive ConfigError where
  | duration (text : String) (fault : Duration.Fault)
  | relabel (fault : Relabel.Fault)
  | httpClient (fault : Http.Fault)
  | job (name : String) (fault : Job.Fault)
  | duplicateJob (name : String)
  /-- The text is no configuration at all. Its message is left open. -/
  | yaml
  deriving DecidableEq, Repr

open Text in
def ConfigError.message : ConfigError → String
  | duration t f => "invalid duration " ++ quoted t ++ ": " ++ f.message
  | relabel f => "invalid relabel config: " ++ f.message
  | httpClient f => "invalid HTTP client config: " ++ f.message
  | job n f => "invalid scrape config for job " ++ quoted n ++ ": " ++ f.message n
  | duplicateJob n => "found multiple scrape configs with job name " ++ quoted n
  | yaml => "yaml error: <yaml>"

/-! ## Checks -/

def Duration.read (s : String) : Except ConfigError Duration :=
  (Duration.parse s).mapError (.duration s)

/-- The first fault in a list of discoveries. -/
def Discovery.fault? (d : Discovery) : Option Job.Fault :=
  (d.filters.find? (·.role ≠ d.role)).map fun f => .filterRole f.role d.role

namespace Job

/-- Fills in what a collector takes for granted. -/
def normalize (j : Job) : Job :=
  { j with
    path := if j.path = "" then "/metrics" else j.path
    scheme := if j.scheme = "" then "http" else j.scheme
    client := j.client.normalize }

/-- What is wrong with a job apart from its client and its rules. -/
def fault? (j : Job) : Option Fault :=
  if j.name = "" then some .noName
  else if j.interval.isZero then some .zeroInterval
  else if j.timeout.isZero then some .zeroTimeout
  else if j.interval < j.timeout then some .longTimeout
  else if j.scheme ≠ "http" ∧ j.scheme ≠ "https" then some (.scheme j.scheme)
  else if j.path.toList.head? ≠ some '/' then some (.path j.path)
  else j.discovery.findSome? Discovery.fault?

/-- Checks rules in order. -/
def checkRules : List Relabel.Rule → Except Relabel.Fault Unit
  | [] => .ok ()
  | r :: rest => do
    r.check
    checkRules rest

/-- The check that a collector makes of a job. -/
def check (j : Job) : Except ConfigError Unit :=
  match j.fault? with
  | some f => .error (.job j.name f)
  | none => do
    j.client.check.mapError .httpClient
    (checkRules (j.relabeling ++ j.metricRelabeling)).mapError .relabel

end Job

/-- Checks jobs in order after filling in what is taken for granted; `names` has the names
of the jobs before. -/
def Config.checkJobs (names : List String) : List Job → Except ConfigError (List Job)
  | [] => .ok []
  | j :: rest => do
    let j := j.normalize
    j.check
    if j.name ∈ names then throw (.duplicateJob j.name)
    return j :: (← checkJobs (j.name :: names) rest)

/-- The check of a whole configuration; the jobs come out with what is taken for granted
filled in. -/
def Config.check (c : Config) : Except ConfigError Config := do
  return ⟨← checkJobs [] c.jobs⟩

end ScrapeJobs
