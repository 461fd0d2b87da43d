import ScrapeJobs.Http.Resolve
import ScrapeJobs.Job.Codec
import ScrapeJobs.Job.Registry
import ScrapeJobs.Phase

/-!
# Compiling resources to jobs

Each endpoint of a resource becomes one job. A resource compiles completely or not at
all: one that is rejected leaves nothing in the batch but its rejection, and the others
are not affected. Within a batch no two jobs have one name; of two resources whose jobs
collide the later one is rejected.
-/

namespace ScrapeJobs

open Relabel

/-- What compiles resources: a platform and its rules for every series. -/
structure Compiler where
  platform : Platform
  metricRules : List Rule

/-- The compiler for a platform, if the platform is fit. -/
def Compiler.new (p : Platform) : Except Platform.Fault Compiler := do
  p.check
  let rules ← (Protected.accept p.metricRelabeling).mapError .metricRelabeling
  return ⟨p, rules⟩

/-! ## Times -/

/-- A text that is set: empty ones are not. -/
def set? (s : Option String) : Option String := s.filter (· ≠ "")

namespace Timing

/-- Reads a time that is not zero. -/
def read (t : Timing) (text : String) : Except Cause Duration :=
  match Duration.parse text with
  | .error f => .error (.timing t (.text text f))
  | .ok d => if d.isZero then .error (.timing t .zero) else .ok d

/-- The interval and the timeout of an endpoint; an unset timeout is the interval. -/
def both (s : Settings) : Except Cause (Duration × Duration) := do
  match set? s.interval with
  | none => throw (.timing .interval .unset)
  | some i =>
    let d ← interval.read i
    match set? s.timeout with
    | none => return (d, d)
    | some t =>
      let e ← timeout.read t
      if d < e then throw (.timing .timeout (.exceeds t i))
      return (d, e)

end Timing

/-! ## Jobs -/

/-- Writes a job and reads it back as a collector would. -/
def Job.roundTrip (j : Job) : Except Cause Job := (load j.encode).mapError .refused

namespace Endpoint

/-- The scheme if none is set. -/
def defaultScheme : Endpoint → String
  | node _ => "https"
  | _ => "http"

/-- The path if none is set. -/
def defaultPath : Endpoint → String
  | probe _ => "/probe"
  | _ => "/metrics"

/-- The query parameters of a job: a probe adds the name of its module, which must not be
empty. -/
def params : Endpoint → Except Cause (Dict (List String))
  | probe m =>
    if m.name = "" then .error (.empty "module")
    else .ok (m.settings.params.insert "module" [m.name])
  | e => .ok e.settings.params

/-- The client of a job: nodes are talked to with the service account by default. -/
def client (scope : SecretScope) (e : Endpoint) : Http.Resolving Http.Client := do
  let c ← e.settings.http.resolve scope
  match e with
  | node _ => return c.withServiceAccount
  | _ => return c

end Endpoint

/-- How a collector finds the targets of a resource: on its own node only. -/
def Target.discovery (t : Target) (p : Platform) : List Discovery :=
  match t.role? with
  | none => []
  | some role =>
    let field := match role with
      | .node => "metadata.name=$("
      | .pod => "spec.nodeName=$("
    [{ role, filters := [{ role, field := field ++ p.nodeVariable ++ ")" }] }]

/-- The fixed targets of a resource. -/
def Target.staticLists (t : Target) : List StaticTargets :=
  match t.role? with
  | none => [{ targets := t.staticTargets }]
  | some _ => []

namespace Compiler

/-- The part of a job's name behind the key of its resource: the port of the endpoint, or
its place. -/
def suffix (ctx : JobContext) (index : Nat) : String :=
  match ctx.port with
  | some port => port.suffix
  | none => toString index

/-- The job of an endpoint. -/
def compileJob (c : Compiler) (key : String) (index : Nat) (ctx : JobContext)
    (scope : SecretScope) : Http.Resolving Job := do
  let settings := ctx.endpoint.settings
  let (interval, timeout) ← liftExcept (Timing.both settings)
  let relabeling ← liftExcept (Phase.allRules ctx)
  let metricRelabeling ← liftExcept (Protected.accept settings.metricRelabeling)
  let client ← ctx.endpoint.client scope
  let params ← liftExcept ctx.endpoint.params
  let limits := ctx.target.limits?.getD {}
  let job : Job := {
    name := key ++ "/" ++ suffix ctx index
    interval
    timeout
    path := (set? settings.path).getD ctx.endpoint.defaultPath
    scheme := (set? settings.scheme).getD ctx.endpoint.defaultScheme
    params
    discovery := ctx.target.discovery c.platform
    staticTargets := ctx.target.staticLists
    client
    relabeling
    metricRelabeling := metricRelabeling ++ c.metricRules
    sampleLimit := limits.samples
    labelLimit := limits.labels
    labelNameLengthLimit := limits.labelNameLength
    labelValueLengthLimit := limits.labelValueLength }
  discard <| liftExcept job.roundTrip
  return job
where
  liftExcept {α : Type} (e : Except Cause α) : Http.Resolving α :=
    match e with
    | .ok a => return a
    | .error c => throw c

/-- The port of an endpoint of pods. -/
def portOf : Endpoint → Except Cause (Option Port)
  | .pod e => do return some (← Port.resolve e.port)
  | .node _ | .probe _ => .ok none

/-- What a resource must have as a whole. -/
def checkTarget (t : Target) : Except Cause Unit :=
  if t.endpoints.isEmpty then .error (.empty t.endpointsField)
  else if t.role?.isNone && t.staticTargets.isEmpty then .error (.empty "targets")
  else if t.prober? = some "" then .error (.empty "prober.address")
  else .ok ()

/-- The jobs of the endpoints from a place on; a failure comes with its place. -/
def compileEndpoints (c : Compiler) (key : String) (scope : SecretScope)
    (context : Endpoint → Option Port → JobContext) (pool : SecretPool) :
    Nat → List Endpoint → Except (Nat × Cause) (List Job × SecretPool)
  | _, [] => .ok ([], pool)
  | i, e :: rest =>
    match portOf e with
    | .error cause => .error (i, cause)
    | .ok port =>
      match (c.compileJob key i (context e port) scope).run pool with
      | (.error cause, _) => .error (i, cause)
      | (.ok job, pool) => do
        let (jobs, pool) ← compileEndpoints c key scope context pool (i + 1) rest
        return (job :: jobs, pool)

/-- What a resource compiles to. -/
structure Compiled where
  key : String
  jobs : List Job
  secrets : SecretPool

/-- What the endpoints of a resource have in common. -/
structure Prepared where
  name : String
  inNamespace : Option String
  metadata : List MetadataLabel
  scope : SecretScope

/-- Checks a resource as a whole. -/
def prepare (c : Compiler) (r : Resource) : Except Cause Prepared := do
  let name ← r.name
  let inNamespace ← r.namespace?
  let metadata ← r.target.metadata
  let scope ← r.secretScope c.platform.secretNamespace
  checkTarget r.target
  return { name, inNamespace, metadata, scope }

/-- Compiles a resource. -/
def compileResource (c : Compiler) (r : Resource) : Except Rejection Compiled :=
  match r.key with
  | .error cause => .error ⟨r.kind.name, none, cause⟩
  | .ok key =>
    match c.prepare r with
    | .error cause => .error ⟨key, none, cause⟩
    | .ok p =>
      let context (endpoint : Endpoint) (port : Option Port) : JobContext := {
        platform := c.platform, target := r.target, name := p.name
        inNamespace := p.inNamespace, endpoint, port, metadata := p.metadata }
      match compileEndpoints c key p.scope context ∅ 0 r.target.endpoints with
      | .error (i, cause) => .error ⟨key, some i, cause⟩
      | .ok (jobs, secrets) => .ok { key, jobs, secrets }

/-! ## Batches -/

/-- What a list of resources compiles to. -/
structure Batch where
  /-- In the order of the resources and their endpoints. -/
  jobs : List Job := []
  rejections : List Rejection := []
  /-- The secrets that the jobs refer to. -/
  secrets : SecretPool := ∅

/-- A resource with its jobs registered. -/
def enroll (c : Compiler) (names : Registry) (r : Resource) :
    Except Rejection (Compiled × Registry) := do
  let compiled ← c.compileResource r
  let names ← names.register compiled.key (compiled.jobs.map (·.name))
  return (compiled, names)

/-- Adds a resource to a batch. -/
def addResource (c : Compiler) (acc : Batch × Registry) (r : Resource) : Batch × Registry :=
  let (batch, names) := acc
  match c.enroll names r with
  | .ok (compiled, names) =>
    ({ batch with
        jobs := batch.jobs ++ compiled.jobs
        secrets := batch.secrets.union compiled.secrets }, names)
  | .error rejection => ({ batch with rejections := batch.rejections ++ [rejection] }, names)

/-- Compiles resources. -/
def compile (c : Compiler) (rs : List Resource) : Batch := (rs.foldl c.addResource ({}, {})).1

/-- Tells whether a resource compiles on its own. -/
def validate (c : Compiler) (r : Resource) : Except Rejection Unit :=
  (c.enroll {} r).map fun _ => ()

end Compiler

/-- The rejections of the resource with a key. -/
def Compiler.Batch.rejectionsOf (b : Batch) (key : String) : List Rejection :=
  b.rejections.filter (·.resource = key)

/-- The configuration with the jobs of a batch. -/
def Compiler.Batch.config (b : Batch) : Config := ⟨b.jobs⟩

end ScrapeJobs
