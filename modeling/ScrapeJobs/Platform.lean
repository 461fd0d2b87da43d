import ScrapeJobs.Protected
import ScrapeJobs.Resource.Codec

/-!
# The platform

`Platform` has what all resources of a cluster share: the identifiers that every series
carries, rules for every series and some names. It is read from a document or from
variables, and checked.
-/

namespace ScrapeJobs

open Doc

/-- What all resources of a cluster share. -/
structure Platform where
  projectId : String
  location : String
  cluster : String
  /-- Rules for every series, after those of its endpoint. -/
  metricRelabeling : List Relabel.Draft := []
  /-- The variable in which a collector finds the name of its node. -/
  nodeVariable : String := "NODE_NAME"
  /-- The namespace of secrets that resources outside of namespaces refer to. -/
  secretNamespace : String := "default"
  deriving DecidableEq

namespace Platform

/-- Why there is no platform. -/
inductive Fault where
  | missingVariable (name : String)
  | empty (field : String)
  | nodeVariable (name : String)
  | metricRelabeling (cause : Cause)
  /-- The text is no description of a platform. Its message is left open. -/
  | document
  deriving DecidableEq, Repr

def Fault.toFailure : Fault → Failure
  | missingVariable v => .invalid (v ++ " must be set")
  | empty f => .invalid (f ++ " must not be empty")
  | nodeVariable v =>
    .invalid ("nodeNameEnv " ++ Text.quoted v ++ " is not a valid environment variable name")
  | metricRelabeling c => .validation "CompilerConfig" c.message (some "metricRelabeling")
  | document => .serialization "<yaml>" (some "CompilerConfig")

/-- Checks that the names are there and that the variable can be one. -/
def check (p : Platform) : Except Fault Unit :=
  if p.projectId = "" then .error (.empty "projectId")
  else if p.location = "" then .error (.empty "location")
  else if p.cluster = "" then .error (.empty "cluster")
  else if !Label.isName p.nodeVariable then .error (.nodeVariable p.nodeVariable)
  else if p.secretNamespace = "" then .error (.empty "defaultSecretNamespace")
  else .ok ()

/-! ## Documents -/

def encode (p : Platform) : Doc := record [
  ("projectId", some (str p.projectId)),
  ("location", some (str p.location)),
  ("cluster", some (str p.cluster)),
  ("metricRelabeling", some (list Relabel.Draft.encode p.metricRelabeling)),
  ("nodeNameEnv", some (str p.nodeVariable)),
  ("defaultSecretNamespace", some (str p.secretNamespace))]

def fields : List String :=
  ["projectId", "location", "cluster", "metricRelabeling", "nodeNameEnv", "defaultSecretNamespace"]

def decode? (d : Doc) : Option Platform := do
  let fs ← d.record? fields
  return {
    projectId := ← fs.need "projectId" text?
    location := ← fs.need "location" text?
    cluster := ← fs.need "cluster" text?
    metricRelabeling := ← fs.get "metricRelabeling" (list? Relabel.Draft.decode?) []
    nodeVariable := ← fs.get "nodeNameEnv" text? "NODE_NAME"
    secretNamespace := ← fs.get "defaultSecretNamespace" text? "default" }

/-- Reads and checks a platform. -/
def load (d : Doc) : Except Fault Platform :=
  match decode? d with
  | none => .error .document
  | some p => do
    p.check
    return p

/-! ## Variables -/

/-- The value of a variable that must be set. -/
def required (vars : String → Option String) (name : String) : Except Fault String :=
  match (vars name).filter (· ≠ "") with
  | some v => .ok v
  | none => .error (.missingVariable name)

/-- Reads a platform from variables; empty ones are unset. -/
def ofVariables (vars : String → Option String) : Except Fault Platform := do
  let p : Platform := {
    projectId := ← required vars "VIGIL_PROJECT_ID"
    location := ← required vars "VIGIL_LOCATION"
    cluster := ← required vars "VIGIL_CLUSTER" }
  let p := match (vars "VIGIL_NODE_NAME_ENV").filter (· ≠ "") with
    | some v => { p with nodeVariable := v }
    | none => p
  p.check
  return p

end Platform

end ScrapeJobs
