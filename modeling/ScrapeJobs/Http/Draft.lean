import ScrapeJobs.Http
import ScrapeJobs.Secret

/-!
# HTTP clients as resources write them

The settings of an endpoint hold references to secrets where those of a job hold tokens.
-/

namespace ScrapeJobs.Http.Draft

/-- An authorization header. -/
structure Authorization where
  scheme : Option String := none
  credentials : Option SecretRef := none
  deriving DecidableEq

/-- A user name with a password. -/
structure BasicAuth where
  username : String := ""
  password : Option SecretRef := none
  deriving DecidableEq

/-- TLS settings. -/
structure Tls where
  serverName : Option String := none
  insecureSkipVerify : Bool := false
  minVersion : Option String := none
  maxVersion : Option String := none
  ca : Option SecretRef := none
  cert : Option SecretRef := none
  key : Option SecretRef := none
  deriving DecidableEq

/-- Client credentials. -/
structure OAuth2 where
  clientId : String := ""
  clientSecret : Option SecretRef := none
  scopes : List String := []
  tokenUrl : String := ""
  endpointParams : Dict String := ∅
  tls : Option Tls := none
  proxyUrl : Option String := none
  deriving DecidableEq

/-- The HTTP settings of an endpoint. -/
structure Client where
  authorization : Option Authorization := none
  basicAuth : Option BasicAuth := none
  oauth2 : Option OAuth2 := none
  tls : Option Tls := none
  proxyUrl : Option String := none
  deriving DecidableEq

end ScrapeJobs.Http.Draft
