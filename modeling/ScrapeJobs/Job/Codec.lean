import ScrapeJobs.Doc.Decode
import ScrapeJobs.Job

/-!
# Jobs as documents

The form of jobs in a collector's configuration: a decoder and an encoder for each part.
The settings of the HTTP client stand in the mapping of their job, and those of a proxy in
the mapping of their client. Fields with their usual value are left out where that value
is empty, zero or false.
-/

namespace ScrapeJobs

open Doc

/-! ## Durations and rules -/

namespace Duration

def encode (d : Duration) : Doc := str d.render

def decode? (d : Doc) : Option Duration := do
  match parse (← d.text?) with
  | .ok d => some d
  | .error _ => none

end Duration

namespace Relabel

def Action.encode (a : Action) : Doc := str a.name

def Action.decode? (d : Doc) : Option Action := d.choice?.bind ofName?

def Rule.encode (r : Rule) : Doc := record [
  ("source_labels", someList str r.sourceLabels),
  ("separator", str r.separator),
  ("regex", str r.regex),
  ("modulus", someWord r.modulus),
  ("target_label", someText r.targetLabel),
  ("replacement", str r.replacement),
  ("action", r.action.encode)]

def Rule.fields : List String :=
  ["source_labels", "separator", "regex", "modulus", "target_label", "replacement", "action"]

def Rule.decode? (d : Doc) : Option Rule := do
  let fs ← d.record? fields
  return {
    sourceLabels := ← fs.get "source_labels" (list? text?) []
    separator := ← fs.get "separator" text? defaultSeparator
    regex := ← fs.get "regex" text? defaultRegex
    modulus := ← fs.get "modulus" word? 0
    targetLabel := ← fs.get "target_label" text? ""
    replacement := ← fs.get "replacement" text? defaultReplacement
    action := ← fs.get "action" Action.decode? .replace }

end Relabel

/-! ## HTTP clients -/

namespace Http

/-- The three fields in which a value may be given. -/
def Source.written (name : String) (s : Source) : List (String × Option Doc) :=
  [(name, someText s.inline), (name ++ "_file", someText s.file), (name ++ "_ref", someText s.ref)]

def Source.get? (name : String) (fs : Fields) : Option Source := do
  return {
    inline := ← fs.get name text? ""
    file := ← fs.get (name ++ "_file") text? ""
    ref := ← fs.get (name ++ "_ref") text? "" }

def TlsVersion.encode (v : TlsVersion) : Doc := str v.name

def TlsVersion.decode? (d : Doc) : Option TlsVersion := d.text?.bind ofName?

namespace Tls

def encode (t : Tls) : Doc := record <|
  t.ca.written "ca" ++ t.cert.written "cert" ++ t.key.written "key" ++ [
    ("server_name", someText t.serverName),
    ("insecure_skip_verify", someTrue t.insecureSkipVerify),
    ("min_version", t.minVersion.map (·.encode)),
    ("max_version", t.maxVersion.map (·.encode))]

def fields : List String :=
  ["ca", "ca_file", "ca_ref", "cert", "cert_file", "cert_ref", "key", "key_file", "key_ref",
    "server_name", "insecure_skip_verify", "min_version", "max_version"]

def decode? (d : Doc) : Option Tls := do
  let fs ← d.record? fields
  return {
    ca := ← Source.get? "ca" fs
    cert := ← Source.get? "cert" fs
    key := ← Source.get? "key" fs
    serverName := ← fs.get "server_name" text? ""
    insecureSkipVerify := ← fs.get "insecure_skip_verify" bool? false
    minVersion := ← fs.find "min_version" TlsVersion.decode?
    maxVersion := ← fs.find "max_version" TlsVersion.decode? }

/-- TLS settings that are left out when none is made. -/
def written (t : Tls) : Option Doc := leaveOut t.isEmpty t.encode

end Tls

namespace Proxy

def written (p : Proxy) : List (String × Option Doc) := [
  ("proxy_url", p.url.map str),
  ("no_proxy", someText p.noProxy),
  ("proxy_from_environment", someTrue p.fromEnvironment),
  ("proxy_connect_header", someDict (list str) p.connectHeader)]

def fields : List String :=
  ["proxy_url", "no_proxy", "proxy_from_environment", "proxy_connect_header"]

def ofFields? (fs : Fields) : Option Proxy := do
  return {
    url := ← fs.find "proxy_url" text?
    noProxy := ← fs.get "no_proxy" text? ""
    fromEnvironment := ← fs.get "proxy_from_environment" bool? false
    connectHeader := ← fs.get "proxy_connect_header" (dict? (list? text?)) ∅ }

end Proxy

namespace BasicAuth

def encode (b : BasicAuth) : Doc := record <|
  ("username", some (str b.username)) :: b.password.written "password"

def fields : List String := ["username", "password", "password_file", "password_ref"]

def decode? (d : Doc) : Option BasicAuth := do
  let fs ← d.record? fields
  return {
    username := ← fs.get "username" text? ""
    password := ← Source.get? "password" fs }

end BasicAuth

namespace Authorization

def encode (a : Authorization) : Doc := record <|
  ("type", someText a.scheme) :: a.credentials.written "credentials"

def fields : List String := ["type", "credentials", "credentials_file", "credentials_ref"]

def decode? (d : Doc) : Option Authorization := do
  let fs ← d.record? fields
  return {
    scheme := ← fs.get "type" text? ""
    credentials := ← Source.get? "credentials" fs }

end Authorization

namespace OAuth2

def encode (o : OAuth2) : Doc := record <|
  ("client_id", some (str o.clientId)) :: o.clientSecret.written "client_secret" ++ [
    ("scopes", someList str o.scopes),
    ("token_url", str o.tokenUrl),
    ("endpoint_params", someDict str o.endpointParams),
    ("tls_config", o.tls.written)] ++ o.proxy.written

def fields : List String :=
  ["client_id", "client_secret", "client_secret_file", "client_secret_ref", "scopes", "token_url",
    "endpoint_params", "tls_config"]

def decode? (d : Doc) : Option OAuth2 := do
  let (fs, others) ← d.openRecord? fields
  return {
    clientId := ← fs.get "client_id" text? ""
    clientSecret := ← Source.get? "client_secret" fs
    scopes := ← fs.get "scopes" (list? text?) []
    tokenUrl := ← fs.get "token_url" text? ""
    endpointParams := ← fs.get "endpoint_params" (dict? text?) ∅
    tls := ← fs.get "tls_config" Tls.decode? {}
    proxy := ← (innerFields? Proxy.fields others).bind Proxy.ofFields? }

end OAuth2

namespace Client

def written (c : Client) : List (String × Option Doc) := [
    ("basic_auth", c.basicAuth.map (·.encode)),
    ("authorization", c.authorization.map (·.encode)),
    ("oauth2", c.oauth2.map (·.encode)),
    ("tls_config", c.tls.written)] ++ c.proxy.written ++ [
    ("follow_redirects", some (bool c.followRedirects)),
    ("enable_http2", some (bool c.enableHttp2))]

def encode (c : Client) : Doc := record c.written

def fields : List String :=
  ["basic_auth", "authorization", "oauth2", "tls_config", "follow_redirects", "enable_http2"]

def decode? (d : Doc) : Option Client := do
  let (fs, others) ← d.openRecord? fields
  return {
    basicAuth := ← fs.find "basic_auth" BasicAuth.decode?
    authorization := ← fs.find "authorization" Authorization.decode?
    oauth2 := ← fs.find "oauth2" OAuth2.decode?
    tls := ← fs.get "tls_config" Tls.decode? {}
    proxy := ← (innerFields? Proxy.fields others).bind Proxy.ofFields?
    followRedirects := ← fs.get "follow_redirects" bool? true
    enableHttp2 := ← fs.get "enable_http2" bool? true }

end Client

end Http

/-! ## Discovery -/

namespace Role

def encode (r : Role) : Doc := str r.name

def decode? (d : Doc) : Option Role := d.choice?.bind ofName?

end Role

namespace ServerFilter

def encode (f : ServerFilter) : Doc :=
  record [("role", f.role.encode), ("label", someText f.label), ("field", someText f.field)]

def fields : List String := ["role", "label", "field"]

def decode? (d : Doc) : Option ServerFilter := do
  let fs ← d.record? fields
  return {
    role := ← fs.need "role" Role.decode?
    label := ← fs.get "label" text? ""
    field := ← fs.get "field" text? "" }

end ServerFilter

namespace Discovery

def encode (d : Discovery) : Doc :=
  record [("role", d.role.encode), ("selectors", someList ServerFilter.encode d.filters)]

def fields : List String := ["role", "selectors"]

def decode? (d : Doc) : Option Discovery := do
  let fs ← d.record? fields
  return {
    role := ← fs.need "role" Role.decode?
    filters := ← fs.get "selectors" (list? ServerFilter.decode?) [] }

end Discovery

namespace StaticTargets

def encode (t : StaticTargets) : Doc :=
  record [("targets", list str t.targets), ("labels", someDict str t.labels)]

def fields : List String := ["targets", "labels"]

def decode? (d : Doc) : Option StaticTargets := do
  let fs ← d.record? fields
  return {
    targets := ← fs.get "targets" (list? text?) []
    labels := ← fs.get "labels" (dict? text?) ∅ }

end StaticTargets

/-! ## Jobs -/

namespace Job

def encode (j : Job) : Doc := record <| [
    ("job_name", some (str j.name)),
    ("scrape_interval", some j.interval.encode),
    ("scrape_timeout", some j.timeout.encode),
    ("metrics_path", some (str j.path)),
    ("scheme", some (str j.scheme)),
    ("params", someDict (list str) j.params),
    ("kubernetes_sd_configs", someList Discovery.encode j.discovery),
    ("static_configs", someList StaticTargets.encode j.staticTargets)] ++ j.client.written ++ [
    ("relabel_configs", someList Relabel.Rule.encode j.relabeling),
    ("metric_relabel_configs", someList Relabel.Rule.encode j.metricRelabeling),
    ("sample_limit", someWord j.sampleLimit),
    ("label_limit", someWord j.labelLimit),
    ("label_name_length_limit", someWord j.labelNameLengthLimit),
    ("label_value_length_limit", someWord j.labelValueLengthLimit)]

def fields : List String :=
  ["job_name", "scrape_interval", "scrape_timeout", "metrics_path", "scheme", "params",
    "kubernetes_sd_configs", "static_configs", "relabel_configs", "metric_relabel_configs",
    "sample_limit", "label_limit", "label_name_length_limit", "label_value_length_limit"]

def decode? (d : Doc) : Option Job := do
  let (fs, others) ← d.openRecord? fields
  return {
    name := ← fs.get "job_name" text? ""
    interval := ← fs.get "scrape_interval" Duration.decode? (.ofSeconds 60)
    timeout := ← fs.get "scrape_timeout" Duration.decode? (.ofSeconds 10)
    path := ← fs.get "metrics_path" text? "/metrics"
    scheme := ← fs.get "scheme" text? "http"
    params := ← fs.get "params" (dict? (list? text?)) ∅
    discovery := ← fs.get "kubernetes_sd_configs" (list? Discovery.decode?) []
    staticTargets := ← fs.get "static_configs" (list? StaticTargets.decode?) []
    client := ← Http.Client.decode? (map others)
    relabeling := ← fs.get "relabel_configs" (list? Relabel.Rule.decode?) []
    metricRelabeling := ← fs.get "metric_relabel_configs" (list? Relabel.Rule.decode?) []
    sampleLimit := ← fs.get "sample_limit" word? 0
    labelLimit := ← fs.get "label_limit" word? 0
    labelNameLengthLimit := ← fs.get "label_name_length_limit" word? 0
    labelValueLengthLimit := ← fs.get "label_value_length_limit" word? 0 }

/-- Reads a job as a collector does: filled in and checked. -/
def load (d : Doc) : Except ConfigError Job :=
  match decode? d with
  | none => .error .yaml
  | some j => do
    let j := j.normalize
    j.check
    return j

end Job

namespace Config

def encode (c : Config) : Doc := record [("scrape_configs", list Job.encode c.jobs)]

def fields : List String := ["scrape_configs"]

def decode? (d : Doc) : Option Config := do
  let fs ← d.record? fields
  return { jobs := ← fs.get "scrape_configs" (list? Job.decode?) [] }

/-- Reads a configuration as a collector does: filled in and checked. -/
def load (d : Doc) : Except ConfigError Config :=
  match decode? d with
  | none => .error .yaml
  | some c => c.check

end Config

end ScrapeJobs
