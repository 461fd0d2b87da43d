import ScrapeJobs.Dict
import ScrapeJobs.Text.Quoted
import ScrapeJobs.Url

/-!
# HTTP clients

How a collector talks to a target: credentials, TLS and proxy. No secret has to stand in
the settings themselves; each one may be given in place, as a file or as a reference to a
secret that is stored elsewhere (`Source`), but only in one of these ways.
`Client.check` is the check that a collector makes of the settings.
-/

namespace ScrapeJobs.Http

/-! ## Settings -/

/-- Where a secret value comes from; empty texts are unset. -/
structure Source where
  /-- The value itself. -/
  inline : String := ""
  /-- A file with the value. -/
  file : String := ""
  /-- A reference to a stored secret. -/
  ref : String := ""
  deriving DecidableEq

namespace Source

def isSet (s : Source) : Bool := s ≠ {}

/-- Whether a value is given in more than one way. -/
def isAmbiguous (s : Source) : Bool := 1 < ([s.inline, s.file, s.ref].filter (· ≠ "")).length

end Source

/-- A version of TLS. -/
inductive TlsVersion where
  | tls10
  | tls11
  | tls12
  | tls13
  deriving DecidableEq, Repr

namespace TlsVersion

def name : TlsVersion → String
  | tls10 => "TLS10"
  | tls11 => "TLS11"
  | tls12 => "TLS12"
  | tls13 => "TLS13"

def all : List TlsVersion := [tls10, tls11, tls12, tls13]

def ofName? (s : String) : Option TlsVersion := all.find? (·.name = s)

/-- The place of a version among all, oldest first. -/
def rank : TlsVersion → Nat
  | tls10 => 0
  | tls11 => 1
  | tls12 => 2
  | tls13 => 3

end TlsVersion

/-- TLS settings. -/
structure Tls where
  /-- The certificate authorities that the server is verified with. -/
  ca : Source := {}
  /-- The client's certificate. -/
  cert : Source := {}
  /-- The client's key. -/
  key : Source := {}
  /-- The name that the server is to have. -/
  serverName : String := ""
  insecureSkipVerify : Bool := false
  minVersion : Option TlsVersion := none
  maxVersion : Option TlsVersion := none
  deriving DecidableEq

/-- Proxy settings. -/
structure Proxy where
  url : Option String := none
  /-- Hosts that are reached without the proxy. -/
  noProxy : String := ""
  /-- Whether the environment names the proxy. -/
  fromEnvironment : Bool := false
  /-- Headers of requests for a connection through the proxy. -/
  connectHeader : Dict (List String) := ∅
  deriving DecidableEq

/-- A user name with a password. -/
structure BasicAuth where
  username : String := ""
  password : Source := {}
  deriving DecidableEq

/-- An authorization header. -/
structure Authorization where
  /-- The word before the credentials. -/
  scheme : String := ""
  credentials : Source := {}
  deriving DecidableEq

/-- Client credentials for which a token is requested. -/
structure OAuth2 where
  clientId : String := ""
  clientSecret : Source := {}
  scopes : List String := []
  tokenUrl : String := ""
  /-- More parameters of the request for a token. -/
  endpointParams : Dict String := ∅
  tls : Tls := {}
  proxy : Proxy := {}
  deriving DecidableEq

/-- The HTTP settings of a job. -/
structure Client where
  basicAuth : Option BasicAuth := none
  authorization : Option Authorization := none
  oauth2 : Option OAuth2 := none
  tls : Tls := {}
  proxy : Proxy := {}
  followRedirects : Bool := true
  enableHttp2 : Bool := true
  deriving DecidableEq

/-! ## Checks -/

/-- What is wrong with settings. -/
inductive Fault where
  | severalSchemes
  | basicAuthorization
  | noClientId
  | noTokenUrl
  /-- The value `field` is given in more than one way. -/
  | ambiguous (field : String)
  | certWithoutKey
  | keyWithoutCert
  | versionOrder (min max : TlsVersion)
  | unknownVersion (text : String)
  | proxyUrl (text : String) (fault : Url.Fault)
  | environmentAndUrl
  | environmentAndNoProxy
  | noProxyWithoutUrl
  | headerWithoutProxy
  deriving DecidableEq, Repr

def Fault.message : Fault → String
  | severalSchemes => "at most one of basic_auth, oauth2 & authorization must be configured"
  | basicAuthorization =>
    "authorization type cannot be set to \"basic\", use \"basic_auth\" instead"
  | noClientId => "oauth2 client_id must be configured"
  | noTokenUrl => "oauth2 token_url must be configured"
  | ambiguous f =>
    "at most one of " ++ f ++ ", " ++ f ++ "_file & " ++ f ++ "_ref must be configured"
  | certWithoutKey =>
    "exactly one of key or key_file must be configured when a client certificate is configured"
  | keyWithoutCert =>
    "exactly one of cert or cert_file must be configured when a client key is configured"
  | versionOrder min max =>
    "tls_config.max_version must be greater than or equal to tls_config.min_version " ++
      "if both are specified (" ++ max.name ++ " < " ++ min.name ++ ")"
  | unknownVersion t => "unknown TLS version: " ++ t
  | proxyUrl t f => "invalid proxy_url " ++ Text.quoted t ++ ": " ++ f.message
  | environmentAndUrl => "if proxy_from_environment is configured, proxy_url must not be configured"
  | environmentAndNoProxy =>
    "if proxy_from_environment is configured, no_proxy must not be configured"
  | noProxyWithoutUrl => "if no_proxy is configured, proxy_url must also be configured"
  | headerWithoutProxy =>
    "if proxy_connect_header is configured, " ++
      "proxy_url or proxy_from_environment must also be configured"

/-- Fails with a fault if a condition holds. -/
def refuse (f : Fault) (condition : Bool) : Except Fault Unit :=
  if condition then .error f else .ok ()

def TlsVersion.parse (s : String) : Except Fault TlsVersion :=
  match ofName? s with
  | some v => .ok v
  | none => .error (.unknownVersion s)

namespace Tls

def isEmpty (t : Tls) : Bool := t = {}

/-- Whether the oldest version is above the newest. -/
def wrongOrder? (t : Tls) : Option Fault :=
  match t.minVersion, t.maxVersion with
  | some min, some max => if max.rank < min.rank then some (.versionOrder min max) else none
  | _, _ => none

def check (t : Tls) : Except Fault Unit := do
  refuse (.ambiguous "ca") t.ca.isAmbiguous
  refuse (.ambiguous "cert") t.cert.isAmbiguous
  refuse (.ambiguous "key") t.key.isAmbiguous
  refuse .certWithoutKey (t.cert.isSet && !t.key.isSet)
  refuse .keyWithoutCert (t.key.isSet && !t.cert.isSet)
  match t.wrongOrder? with
  | some f => .error f
  | none => .ok ()

end Tls

namespace Proxy

/-- The URL of the proxy; an empty one is unset. -/
def url? (p : Proxy) : Option String := p.url.filter (· ≠ "")

def checkUrl (p : Proxy) : Except Fault Unit :=
  match p.url? with
  | some u => (Url.check u).mapError (.proxyUrl u)
  | none => .ok ()

def check (p : Proxy) : Except Fault Unit := do
  p.checkUrl
  refuse .environmentAndUrl (p.fromEnvironment && p.url?.isSome)
  refuse .environmentAndNoProxy (p.fromEnvironment && p.noProxy ≠ "")
  refuse .noProxyWithoutUrl (p.url?.isNone && p.noProxy ≠ "")
  refuse .headerWithoutProxy (!p.connectHeader.isEmpty && p.url?.isNone && !p.fromEnvironment)

end Proxy

def BasicAuth.check (b : BasicAuth) : Except Fault Unit :=
  refuse (.ambiguous "password") b.password.isAmbiguous

def Authorization.check (a : Authorization) : Except Fault Unit := do
  refuse .basicAuthorization (a.scheme.toLower = "basic")
  refuse (.ambiguous "credentials") a.credentials.isAmbiguous

def OAuth2.check (o : OAuth2) : Except Fault Unit := do
  refuse .noClientId (o.clientId = "")
  refuse .noTokenUrl (o.tokenUrl = "")
  refuse (.ambiguous "client_secret") o.clientSecret.isAmbiguous
  o.tls.check
  o.proxy.check

/-- Checks a part of the settings if it is there. -/
def checkPart (check : α → Except Fault Unit) : Option α → Except Fault Unit
  | some a => check a
  | none => .ok ()

namespace Client

/-- How many ways to authenticate the settings name. -/
def schemes (c : Client) : Nat :=
  ([c.basicAuth.isSome, c.authorization.isSome, c.oauth2.isSome].filter id).length

/-- The check that a collector makes. -/
def check (c : Client) : Except Fault Unit := do
  refuse .severalSchemes (1 < c.schemes)
  checkPart BasicAuth.check c.basicAuth
  checkPart Authorization.check c.authorization
  checkPart OAuth2.check c.oauth2
  c.tls.check
  c.proxy.check

def defaultScheme : String := "Bearer"

/-- Fills in what a collector takes for granted: the scheme of an authorization header. -/
def normalize (c : Client) : Client :=
  { c with authorization := c.authorization.map fun a =>
      if a.scheme = "" then { a with scheme := defaultScheme } else a }

end Client

end ScrapeJobs.Http
