import ScrapeJobs.Job.Codec
import ScrapeJobs.Resource

/-!
# Resources as documents

The form in which a cluster stores resources: a decoder and an encoder for each part. The
HTTP settings of an endpoint stand in the mapping of its settings, and these in the
mapping of the endpoint.
-/

namespace ScrapeJobs

open Doc

/-! ## Secrets and rules -/

namespace SecretRef

def encode (r : SecretRef) : Doc := record [
  ("name", some (str r.name)), ("key", some (str r.key)), ("namespace", r.inNamespace.map str)]

def fields : List String := ["name", "key", "namespace"]

def decode? (d : Doc) : Option SecretRef := do
  let fs ← d.record? fields
  return {
    name := ← fs.need "name" text?
    key := ← fs.need "key" text?
    inNamespace := ← fs.find "namespace" text? }

end SecretRef

namespace Relabel.Draft

def encode (r : Draft) : Doc := record [
  ("sourceLabels", someList str r.sourceLabels),
  ("separator", r.separator.map str),
  ("targetLabel", r.targetLabel.map str),
  ("regex", r.regex.map str),
  ("modulus", r.modulus.map word),
  ("replacement", r.replacement.map str),
  ("action", r.action.map (·.encode))]

def fields : List String :=
  ["sourceLabels", "separator", "targetLabel", "regex", "modulus", "replacement", "action"]

def decode? (d : Doc) : Option Draft := do
  let fs ← d.record? fields
  return {
    sourceLabels := ← fs.get "sourceLabels" (list? text?) []
    separator := ← fs.find "separator" text?
    targetLabel := ← fs.find "targetLabel" text?
    regex := ← fs.find "regex" text?
    modulus := ← fs.find "modulus" word?
    replacement := ← fs.find "replacement" text?
    action := ← fs.find "action" Action.decode? }

end Relabel.Draft

/-! ## HTTP settings -/

namespace Http.Draft

namespace Authorization

def encode (a : Authorization) : Doc :=
  record [("type", a.scheme.map str), ("credentials", a.credentials.map (·.encode))]

def fields : List String := ["type", "credentials"]

def decode? (d : Doc) : Option Authorization := do
  let fs ← d.record? fields
  return {
    scheme := ← fs.find "type" text?
    credentials := ← fs.find "credentials" SecretRef.decode? }

end Authorization

namespace BasicAuth

def encode (b : BasicAuth) : Doc :=
  record [("username", some (str b.username)), ("password", b.password.map (·.encode))]

def fields : List String := ["username", "password"]

def decode? (d : Doc) : Option BasicAuth := do
  let fs ← d.record? fields
  return {
    username := ← fs.get "username" text? ""
    password := ← fs.find "password" SecretRef.decode? }

end BasicAuth

namespace Tls

def encode (t : Tls) : Doc := record [
  ("serverName", t.serverName.map str),
  ("insecureSkipVerify", some (bool t.insecureSkipVerify)),
  ("minVersion", t.minVersion.map str),
  ("maxVersion", t.maxVersion.map str),
  ("ca", t.ca.map (·.encode)),
  ("cert", t.cert.map (·.encode)),
  ("key", t.key.map (·.encode))]

def fields : List String :=
  ["serverName", "insecureSkipVerify", "minVersion", "maxVersion", "ca", "cert", "key"]

def decode? (d : Doc) : Option Tls := do
  let fs ← d.record? fields
  return {
    serverName := ← fs.find "serverName" text?
    insecureSkipVerify := ← fs.get "insecureSkipVerify" bool? false
    minVersion := ← fs.find "minVersion" text?
    maxVersion := ← fs.find "maxVersion" text?
    ca := ← fs.find "ca" SecretRef.decode?
    cert := ← fs.find "cert" SecretRef.decode?
    key := ← fs.find "key" SecretRef.decode? }

end Tls

namespace OAuth2

def encode (o : OAuth2) : Doc := record [
  ("clientId", some (str o.clientId)),
  ("clientSecret", o.clientSecret.map (·.encode)),
  ("scopes", someList str o.scopes),
  ("tokenUrl", some (str o.tokenUrl)),
  ("endpointParams", someDict str o.endpointParams),
  ("tls", o.tls.map (·.encode)),
  ("proxyUrl", o.proxyUrl.map str)]

def fields : List String :=
  ["clientId", "clientSecret", "scopes", "tokenUrl", "endpointParams", "tls", "proxyUrl"]

def decode? (d : Doc) : Option OAuth2 := do
  let fs ← d.record? fields
  return {
    clientId := ← fs.get "clientId" text? ""
    clientSecret := ← fs.find "clientSecret" SecretRef.decode?
    scopes := ← fs.get "scopes" (list? text?) []
    tokenUrl := ← fs.get "tokenUrl" text? ""
    endpointParams := ← fs.get "endpointParams" (dict? text?) ∅
    tls := ← fs.find "tls" Tls.decode?
    proxyUrl := ← fs.find "proxyUrl" text? }

end OAuth2

namespace Client

def written (c : Client) : List (String × Option Doc) := [
  ("authorization", c.authorization.map (·.encode)),
  ("basicAuth", c.basicAuth.map (·.encode)),
  ("oauth2", c.oauth2.map (·.encode)),
  ("tls", c.tls.map (·.encode)),
  ("proxyUrl", c.proxyUrl.map str)]

def fields : List String := ["authorization", "basicAuth", "oauth2", "tls", "proxyUrl"]

def ofFields? (fs : Fields) : Option Client := do
  return {
    authorization := ← fs.find "authorization" Authorization.decode?
    basicAuth := ← fs.find "basicAuth" BasicAuth.decode?
    oauth2 := ← fs.find "oauth2" OAuth2.decode?
    tls := ← fs.find "tls" Tls.decode?
    proxyUrl := ← fs.find "proxyUrl" text? }

def decode? (d : Doc) : Option Client := (d.record? fields).bind ofFields?

end Client

end Http.Draft

/-! ## Endpoints -/

namespace Settings

def written (s : Settings) : List (String × Option Doc) := [
  ("scheme", s.scheme.map str),
  ("path", s.path.map str),
  ("params", someDict (list str) s.params),
  ("interval", s.interval.map str),
  ("timeout", s.timeout.map str),
  ("metricRelabeling", someList Relabel.Draft.encode s.metricRelabeling)] ++ s.http.written

def encode (s : Settings) : Doc := record s.written

def fields : List String :=
  ["scheme", "path", "params", "interval", "timeout", "metricRelabeling"]

def decode? (d : Doc) : Option Settings := do
  let (fs, others) ← d.openRecord? fields
  return {
    scheme := ← fs.find "scheme" text?
    path := ← fs.find "path" text?
    params := ← fs.get "params" (dict? (list? text?)) ∅
    interval := ← fs.find "interval" text?
    timeout := ← fs.find "timeout" text?
    metricRelabeling := ← fs.get "metricRelabeling" (list? Relabel.Draft.decode?) []
    http := ← (innerFields? Http.Draft.Client.fields others).bind Http.Draft.Client.ofFields? }

end Settings

namespace PortRef

def encode : PortRef → Doc
  | name s => str s
  | number n => int n.toInt

def decode? : Doc → Option PortRef
  | str s => some (name s)
  | int n => (int32? (int n)).map number
  | _ => none

end PortRef

namespace PodEndpoint

def encode (e : PodEndpoint) : Doc := record <|
  ("port", e.port.map (·.encode)) :: e.settings.written

def fields : List String := ["port"]

def decode? (d : Doc) : Option PodEndpoint := do
  let (fs, others) ← d.openRecord? fields
  return {
    port := ← fs.find "port" PortRef.decode?
    settings := ← Settings.decode? (map others) }

end PodEndpoint

namespace ProbeModule

def encode (m : ProbeModule) : Doc := record <|
  ("module", some (str m.name)) :: m.settings.written

def fields : List String := ["module"]

def decode? (d : Doc) : Option ProbeModule := do
  let (fs, others) ← d.openRecord? fields
  return {
    name := ← fs.need "module" text?
    settings := ← Settings.decode? (map others) }

end ProbeModule

/-! ## Selectors -/

namespace Selector

def Operator.encode (op : Operator) : Doc := str op.name

def Operator.decode? (d : Doc) : Option Operator := d.choice?.bind ofName?

namespace Requirement

def encode (r : Requirement) : Doc := record [
  ("key", some (str r.key)), ("operator", some r.operator.encode),
  ("values", some (list str r.values))]

def fields : List String := ["key", "operator", "values"]

def decode? (d : Doc) : Option Requirement := do
  let fs ← d.record? fields
  return {
    key := ← fs.need "key" text?
    operator := ← fs.need "operator" Operator.decode?
    values := ← fs.get "values" (list? text?) [] }

end Requirement

def encode (s : Selector) : Doc := record [
  ("matchLabels", someDict str s.matchLabels),
  ("matchExpressions", someList Requirement.encode s.requirements)]

def fields : List String := ["matchLabels", "matchExpressions"]

def decode? (d : Doc) : Option Selector := do
  let fs ← d.record? fields
  return {
    matchLabels := ← fs.get "matchLabels" (dict? text?) ∅
    requirements := ← fs.get "matchExpressions" (list? Requirement.decode?) [] }

end Selector

/-! ## Specifications -/

namespace LabelMapping

def encode (m : LabelMapping) : Doc :=
  record [("from", some (str m.source)), ("to", m.renamed.map str)]

def fields : List String := ["from", "to"]

def decode? (d : Doc) : Option LabelMapping := do
  let fs ← d.record? fields
  return { source := ← fs.need "from" text?, renamed := ← fs.find "to" text? }

end LabelMapping

namespace TargetLabels

def encode (t : TargetLabels) : Doc := record [
  ("metadata", t.metadata.map (list str)),
  ("fromPod", someList LabelMapping.encode t.fromPod)]

def fields : List String := ["metadata", "fromPod"]

def decode? (d : Doc) : Option TargetLabels := do
  let fs ← d.record? fields
  return {
    metadata := ← fs.find "metadata" (list? text?)
    fromPod := ← fs.get "fromPod" (list? LabelMapping.decode?) [] }

end TargetLabels

namespace Limits

def encode (l : Limits) : Doc := record [
  ("samples", some (word l.samples)),
  ("labels", some (word l.labels)),
  ("labelNameLength", some (word l.labelNameLength)),
  ("labelValueLength", some (word l.labelValueLength))]

def fields : List String := ["samples", "labels", "labelNameLength", "labelValueLength"]

def decode? (d : Doc) : Option Limits := do
  let fs ← d.record? fields
  return {
    samples := ← fs.get "samples" word? 0
    labels := ← fs.get "labels" word? 0
    labelNameLength := ← fs.get "labelNameLength" word? 0
    labelValueLength := ← fs.get "labelValueLength" word? 0 }

end Limits

namespace PodSpec

def encode (s : PodSpec) : Doc := record [
  ("selector", some s.selector.encode),
  ("endpoints", some (list PodEndpoint.encode s.endpoints)),
  ("targetLabels", some s.targetLabels.encode),
  ("limits", s.limits.map (·.encode)),
  ("filterRunning", s.filterRunning.map bool)]

def fields : List String := ["selector", "endpoints", "targetLabels", "limits", "filterRunning"]

def decode? (d : Doc) : Option PodSpec := do
  let fs ← d.record? fields
  return {
    selector := ← fs.get "selector" Selector.decode? {}
    endpoints := ← fs.need "endpoints" (list? PodEndpoint.decode?)
    targetLabels := ← fs.get "targetLabels" TargetLabels.decode? {}
    limits := ← fs.find "limits" Limits.decode?
    filterRunning := ← fs.find "filterRunning" bool? }

end PodSpec

namespace NodeSpec

def encode (s : NodeSpec) : Doc := record [
  ("selector", s.selector.map (·.encode)),
  ("endpoints", some (list Settings.encode s.endpoints)),
  ("limits", s.limits.map (·.encode))]

def fields : List String := ["selector", "endpoints", "limits"]

def decode? (d : Doc) : Option NodeSpec := do
  let fs ← d.record? fields
  return {
    selector := ← fs.find "selector" Selector.decode?
    endpoints := ← fs.need "endpoints" (list? Settings.decode?)
    limits := ← fs.find "limits" Limits.decode? }

end NodeSpec

namespace ProbeSpec

def encodeProber (address : String) : Doc := record [("address", some (str address))]

def decodeProber? (d : Doc) : Option String := do
  (← d.record? ["address"]).need "address" text?

def encode (s : ProbeSpec) : Doc := record [
  ("prober", some (encodeProber s.prober)),
  ("targets", some (list str s.targets)),
  ("modules", some (list ProbeModule.encode s.modules)),
  ("limits", s.limits.map (·.encode))]

def fields : List String := ["prober", "targets", "modules", "limits"]

def decode? (d : Doc) : Option ProbeSpec := do
  let fs ← d.record? fields
  return {
    prober := ← fs.need "prober" decodeProber?
    targets := ← fs.need "targets" (list? text?)
    modules := ← fs.need "modules" (list? ProbeModule.decode?)
    limits := ← fs.find "limits" Limits.decode? }

end ProbeSpec

/-! ## Status -/

namespace Time

def encode (t : Time) : Doc := str t.render

def decode? (d : Doc) : Option Time := d.text?.bind parse?

end Time

namespace Condition

def State.encode (s : State) : Doc := str s.name

def State.decode? (d : Doc) : Option State := d.choice?.bind ofName?

def encode (c : Condition) : Doc := record [
  ("type", some (str c.type)),
  ("status", some c.state.encode),
  ("reason", some (str c.reason)),
  ("message", some (str c.message)),
  ("lastTransitionTime", some c.since.encode)]

def fields : List String := ["type", "status", "reason", "message", "lastTransitionTime"]

def decode? (d : Doc) : Option Condition := do
  let fs ← d.record? fields
  return {
    type := ← fs.need "type" text?
    state := ← fs.need "status" State.decode?
    reason := ← fs.need "reason" text?
    message := ← fs.need "message" text?
    since := ← fs.need "lastTransitionTime" Time.decode? }

end Condition

namespace Status

def encode (s : Status) : Doc := record [
  ("observedGeneration", s.observedGeneration.map fun n => int n.toInt),
  ("conditions", someList Condition.encode s.conditions)]

def fields : List String := ["observedGeneration", "conditions"]

def decode? (d : Doc) : Option Status := do
  let fs ← d.record? fields
  return {
    observedGeneration := ← fs.find "observedGeneration" int64?
    conditions := ← fs.get "conditions" (list? Condition.decode?) [] }

end Status

/-! ## Resources -/

namespace Metadata

def encode (m : Metadata) : Doc := record [
  ("generation", m.generation.map fun n => int n.toInt),
  ("labels", m.labels.map (dict str)),
  ("name", m.name.map str),
  ("namespace", m.inNamespace.map str)]

def fields : List String := ["generation", "labels", "name", "namespace"]

/-- Metadata are a mapping always. -/
def decode? (d : Doc) : Option Metadata :=
  match d with
  | map _ => do
    let fs ← d.record? fields
    return {
      generation := ← fs.find "generation" int64?
      labels := ← fs.find "labels" (dict? text?)
      name := ← fs.find "name" text?
      inNamespace := ← fs.find "namespace" text? }
  | _ => none

end Metadata

namespace Target

def encode : Target → Doc
  | pod s => s.encode
  | clusterPod s => s.encode
  | clusterNode s => s.encode
  | probe s => s.encode

def decode? (k : Kind) (d : Doc) : Option Target :=
  match k with
  | .pod => (PodSpec.decode? d).map pod
  | .clusterPod => (PodSpec.decode? d).map clusterPod
  | .clusterNode => (NodeSpec.decode? d).map clusterNode
  | .probe => (ProbeSpec.decode? d).map probe

end Target

namespace Resource

def encode (r : Resource) : Doc := record [
  ("apiVersion", some (str Kind.apiVersion)),
  ("kind", some (str r.kind.name)),
  ("metadata", some r.metadata.encode),
  ("spec", some r.target.encode),
  ("status", r.status.map (·.encode))]

def fields : List String := ["metadata", "spec", "status"]

/-- Reads a resource of a known kind. -/
def decodeAs? (k : Kind) (d : Doc) : Option Resource := do
  let fs ← d.record? fields
  return {
    metadata := ← fs.need "metadata" Metadata.decode?
    target := ← fs.need "spec" (Target.decode? k)
    status := ← fs.find "status" Status.decode? }

/-- The kind that a document names. -/
def kind? : Doc → Option Kind
  | map entries => do
    let kinds := entries.filterMap fun (k, v) =>
      match k, v with
      | str "kind", str s => some s
      | _, _ => none
    Kind.ofName? (← kinds.head?)
  | _ => none

/-- Reads a resource of the kind that it names. -/
def decode? (d : Doc) : Option Resource := do decodeAs? (← kind? d) d

end Resource

end ScrapeJobs
