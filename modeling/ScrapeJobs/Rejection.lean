import ScrapeJobs.Job
import ScrapeJobs.Secret
import ScrapeJobs.Selector
import ScrapeJobs.Status

/-!
# Why resources are rejected

`Cause` has the reasons for which a resource does not compile, each with a kind, a word
for the condition of the resource and a message. A `Rejection` attributes a cause to a
resource and, where it is known, to one of its endpoints. A `Failure` is the form in which
errors of all kinds are reported in the end.
-/

namespace ScrapeJobs

/-! ## Causes -/

/-- The two times that an endpoint names. -/
inductive Timing where
  | interval
  | timeout
  deriving DecidableEq, Repr

def Timing.name : Timing → String
  | interval => "interval"
  | timeout => "timeout"

/-- What is wrong with the time an endpoint names. -/
inductive Timing.Fault where
  | unset
  | text (text : String) (fault : Duration.Fault)
  | zero
  /-- The timeout is above the interval. -/
  | exceeds (timeout interval : String)
  deriving DecidableEq, Repr

def Timing.Fault.message (t : Timing) : Timing.Fault → String
  | unset => t.name ++ " must be set"
  | text s f => (ConfigError.duration s f).message
  | zero => t.name ++ " must be greater than zero"
  | exceeds t i => "timeout " ++ t ++ " exceeds interval " ++ i

/-- What a rule could do to a protected label. -/
inductive Protected.Fault where
  /-- The target label depends on what the rule matches. -/
  | computedTarget (template : String)
  | writes (label : String)
  | drops (regex label : String)
  | loses (regex label : String)
  /-- The rule makes label names from label names. -/
  | maps
  deriving DecidableEq, Repr

open Text in
def Protected.Fault.message : Protected.Fault → String
  | computedTarget t =>
    "target label " ++ quoted t ++
      " is computed from the input and may name a protected label"
  | writes l => "writes protected label " ++ quoted l
  | drops r l => "regex " ++ quoted r ++ " would drop protected label " ++ quoted l
  | loses r l => "regex " ++ quoted r ++ " does not keep protected label " ++ quoted l
  | maps => "labelmap cannot be checked against protected labels"

/-- What is wrong with a port. -/
inductive PortFault where
  | unset
  | outOfRange (n : Int32)
  /-- An endpoint of pods came without its port. -/
  | unresolved
  deriving DecidableEq, Repr

def PortFault.message : PortFault → String
  | unset => "exactly one of a port name or a port number must be set"
  | outOfRange n => "port number " ++ toString n.toInt ++ " is out of range"
  | unresolved => "pod endpoint compiled without a resolved port"

/-- What is wrong with a label mapping. -/
inductive MappingFault where
  | noSource
  | target (name : String)
  | protectedTarget (name : String)
  deriving DecidableEq, Repr

/-- Why a resource does not compile. -/
inductive Cause where
  | requirement (key : String) (fault : Selector.Fault)
  /-- The values of a requirement make no pattern. -/
  | requirementPattern (key pattern : String)
  | timing (timing : Timing) (fault : Timing.Fault)
  | protectedLabel (action : Relabel.Action) (fault : Protected.Fault)
  | port (fault : PortFault)
  | tenancy (violation : SecretScope.Violation)
  /-- A job has the name of another one; both by their places in the batch. -/
  | duplicateJob (name : String) (first second : Nat)
  /-- The collector refuses the job. -/
  | refused (error : ConfigError)
  | missingMetadata (field : String)
  | metadataLabel (name : String) (allowed : List String)
  | labelMapping (source : String) (fault : MappingFault)
  | relabeling (fault : Relabel.Fault)
  | httpClient (fault : Http.Fault)
  | empty (field : String)
  deriving DecidableEq, Repr

namespace Cause

/-- The kind of a cause. -/
def kind : Cause → String
  | requirement .. | requirementPattern .. => "selector"
  | timing .. => "duration"
  | protectedLabel .. => "protected_label"
  | port _ => "port"
  | tenancy _ => "tenancy"
  | duplicateJob .. => "duplicate_job_name"
  | refused _ => "round_trip"
  | missingMetadata _ => "missing_metadata"
  | metadataLabel .. => "invalid_metadata_label"
  | labelMapping .. => "label_mapping"
  | relabeling _ => "invalid_relabeling"
  | httpClient _ => "http_client"
  | empty _ => "empty"

/-- The word for a cause in the condition of a resource. -/
def reason : Cause → String
  | requirement .. | requirementPattern .. => "InvalidSelector"
  | timing .. => "InvalidDuration"
  | protectedLabel .. => "ProtectedLabel"
  | port _ => "InvalidPort"
  | tenancy _ => "SecretNamespaceNotAllowed"
  | duplicateJob .. => "DuplicateJobName"
  | refused _ => "CollectorConfigRejected"
  | missingMetadata _ => "MissingMetadata"
  | metadataLabel .. => "InvalidMetadataLabel"
  | labelMapping .. => "InvalidLabelMapping"
  | relabeling _ => "InvalidRelabeling"
  | httpClient _ => "InvalidHttpClient"
  | empty _ => "MissingField"

def protectedMessage (a : Relabel.Action) (f : Protected.Fault) : String :=
  "relabeling rule with action " ++ a.name ++ " is not allowed: " ++ f.message

end Cause

open Text in
def MappingFault.message : MappingFault → String
  | noSource => "invalid relabeling rule: source label must not be empty"
  | target t => "invalid relabeling rule: " ++ quoted t ++ " is not a valid label name"
  | protectedTarget t => Cause.protectedMessage .replace (.writes t)

open Text in
def Cause.message : Cause → String
  | requirement k f => "invalid selector on key " ++ quoted k ++ ": " ++ f.message
  | requirementPattern k p =>
    "invalid selector on key " ++ quoted k ++ ": " ++ (ConfigError.relabel (.regex p)).message
  | timing t f => "invalid " ++ t.name ++ ": " ++ f.message t
  | protectedLabel a f => protectedMessage a f
  | port f => "invalid port: " ++ f.message
  | tenancy v =>
    "secret " ++ quoted v.secret ++ " must be in namespace " ++ quoted v.own ++ ", found " ++
      quoted v.requested
  | duplicateJob n first second =>
    "job name " ++ quoted n ++ " at index " ++ toString second ++ " duplicates the job at index " ++
      toString first
  | refused e => "generated config rejected by collector: " ++ e.message
  | missingMetadata f => "resource missing " ++ f
  | metadataLabel n allowed =>
    "metadata label " ++ quoted n ++ " is not supported, allowed: " ++ ", ".intercalate allowed
  | labelMapping s f => "invalid label mapping from " ++ quoted s ++ ": " ++ f.message
  | relabeling f => "invalid relabeling rule: " ++ (ConfigError.relabel f).message
  | httpClient f => "invalid HTTP client settings: " ++ (ConfigError.httpClient f).message
  | empty f => f ++ " must not be empty"

/-! ## Failures -/

/-- An error as it is reported. -/
inductive Failure where
  /-- A resource, or the field of one, is not valid. -/
  | validation (resource message : String) (field : Option String)
  /-- A document of a kind cannot be read or written. -/
  | serialization (message : String) (kind : Option String)
  deriving DecidableEq, Repr

namespace Failure

/-- Stands for a resource that is not known. -/
def unknown : String := "unknown"

def invalid (message : String) : Failure := validation unknown message none

def message : Failure → String
  | validation r m _ => "validation error for " ++ r ++ ": " ++ m
  | serialization m _ => "serialization error: " ++ m

def resource? : Failure → Option String
  | validation r _ _ => some r
  | serialization _ _ => none

def field? : Failure → Option String
  | validation _ _ f => f
  | serialization _ _ => none

/-- Errors depend on the input alone, so no second attempt can succeed. -/
def isRetryable (_ : Failure) : Bool := false

end Failure

def ConfigError.toFailure : ConfigError → Failure
  | .yaml => .serialization "<yaml>" none
  | e => .invalid e.message

def Cause.toFailure (c : Cause) : Failure := .invalid c.message

/-! ## Rejections -/

/-- A cause with the resource and the endpoint that it comes from. -/
structure Rejection where
  /-- The key of the resource. -/
  resource : String
  /-- The place of the endpoint in the resource. -/
  endpoint : Option Nat
  cause : Cause
  deriving DecidableEq, Repr

namespace Rejection

def message (r : Rejection) : String :=
  match r.endpoint with
  | some i => r.resource ++ " endpoint " ++ toString i ++ ": " ++ r.cause.message
  | none => r.resource ++ ": " ++ r.cause.message

/-- The condition of a rejected resource. -/
def condition (r : Rejection) (now : Time) : Condition where
  type := Condition.compiledType
  state := .no
  reason := r.cause.reason
  message := r.message
  since := now

/-- The field with the endpoints of a resource, by the kind in its key. -/
def endpointsField (resource : String) : String :=
  if resource.startsWith "ProbeMonitoring/" then "modules" else "endpoints"

def toFailure (r : Rejection) : Failure :=
  .validation r.resource r.cause.message <|
    r.endpoint.map fun i => "spec." ++ endpointsField r.resource ++ "[" ++ toString i ++ "]"

end Rejection

end ScrapeJobs
