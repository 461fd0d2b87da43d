import ScrapeJobs.Http.Draft
import ScrapeJobs.Rejection

/-!
# HTTP clients of jobs

`Draft.Client.resolve` makes the client of a job from the settings of an endpoint. Each
secret it refers to goes into the pool, in the order of the settings: authorization, basic
authentication, client credentials, TLS.
-/

namespace ScrapeJobs.Http

/-- Steps that may fail and that add to a pool of secrets. The pool keeps what was added
before a failure. -/
abbrev Resolving := ExceptT Cause (StateM SecretPool)

/-- The token of a reference; empty without one. -/
def token (scope : SecretScope) (r : Option SecretRef) : Resolving String := do
  let (result, pool) := (← getThe SecretPool).resolve scope r
  set pool
  match result with
  | .ok t => return t
  | .error v => throw (.tenancy v)

/-- A source that is a reference to a secret. -/
def refSource (scope : SecretScope) (r : Option SecretRef) : Resolving Source := do
  return { ref := ← token scope r }

namespace Draft

/-- A version of TLS; an empty one is unset. -/
def version (text : Option String) : Resolving (Option TlsVersion) :=
  match text.filter (· ≠ "") with
  | none => return none
  | some s =>
    match TlsVersion.parse s with
    | .ok v => return some v
    | .error f => throw (.httpClient f)

def Tls.resolve (scope : SecretScope) : Option Tls → Resolving Http.Tls
  | none => return {}
  | some t => do
    return {
      ca := ← refSource scope t.ca
      cert := ← refSource scope t.cert
      key := ← refSource scope t.key
      serverName := t.serverName.getD ""
      insecureSkipVerify := t.insecureSkipVerify
      minVersion := ← version t.minVersion
      maxVersion := ← version t.maxVersion }

/-- The proxy at a URL; an empty one is unset. -/
def proxy (url : Option String) : Proxy := { url := url.filter (· ≠ "") }

def Authorization.resolve (scope : SecretScope) (a : Authorization) :
    Resolving Http.Authorization := do
  return { scheme := a.scheme.getD "", credentials := ← refSource scope a.credentials }

def BasicAuth.resolve (scope : SecretScope) (b : BasicAuth) : Resolving Http.BasicAuth := do
  return { username := b.username, password := ← refSource scope b.password }

def OAuth2.resolve (scope : SecretScope) (o : OAuth2) : Resolving Http.OAuth2 := do
  return {
    clientId := o.clientId
    clientSecret := ← refSource scope o.clientSecret
    scopes := o.scopes
    tokenUrl := o.tokenUrl
    endpointParams := o.endpointParams
    tls := ← Tls.resolve scope o.tls
    proxy := proxy o.proxyUrl }

/-- Resolves a part of the settings if it is there. -/
def resolvePart (resolve : α → Resolving β) : Option α → Resolving (Option β)
  | none => return none
  | some a => do return some (← resolve a)

/-- The client of a job, checked as a collector does. -/
def Client.resolve (scope : SecretScope) (c : Client) : Resolving Http.Client := do
  let client : Http.Client := {
    authorization := ← resolvePart (Authorization.resolve scope) c.authorization
    basicAuth := ← resolvePart (BasicAuth.resolve scope) c.basicAuth
    oauth2 := ← resolvePart (OAuth2.resolve scope) c.oauth2
    tls := ← Tls.resolve scope c.tls
    proxy := proxy c.proxyUrl }
  match client.normalize.check with
  | .ok () => return client.normalize
  | .error f => throw (.httpClient f)

end Draft

/-! ## Service accounts -/

def serviceAccountCa : String := "/var/run/secrets/kubernetes.io/serviceaccount/ca.crt"

def serviceAccountToken : String := "/var/run/secrets/kubernetes.io/serviceaccount/token"

/-- Verifies the server with the authority of the service account, unless the settings
name another one or do not verify at all. -/
def Tls.withServiceAccount (t : Tls) : Tls :=
  if t.ca.isSet || t.insecureSkipVerify then t
  else { t with ca := { t.ca with file := serviceAccountCa } }

/-- Talks to nodes with the service account of the collector, unless the settings bring
credentials of their own. -/
def Client.withServiceAccount (c : Client) : Client where
  basicAuth := c.basicAuth
  authorization :=
    if c.schemes = 0 then
      some { scheme := "Bearer", credentials := { file := serviceAccountToken } }
    else c.authorization
  oauth2 := c.oauth2
  tls := c.tls.withServiceAccount
  proxy := c.proxy
  followRedirects := c.followRedirects
  enableHttp2 := c.enableHttp2

end ScrapeJobs.Http
