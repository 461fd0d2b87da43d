import ScrapeJobs.Job.Codec
import ScrapeJobs.Proofs.Doc.Records

/-!
# Written clients

The settings of an HTTP client are read from their document, and from every reading of it, as
they were (`Client.reads`). The settings of a proxy have no mapping of their own: they are read
from what the record around them leaves.
-/

namespace ScrapeJobs.Http

open Doc

/-! ## Values -/

@[simp] theorem Source.settledTable_written (name : String) (s : Source) :
    SettledTable (s.written name) := by
  simp [Source.written]

/-- A value that may be given in three fields is read from them. -/
theorem Source.get?_of_has {names : List String} {table : List (String × Option Doc)} {fs : Fields}
    (has : Has names table fs) (name : String) (s : Source)
    (hnames : [name, name ++ "_file", name ++ "_ref"] ⊆ names := by decide)
    (hinline : table.lookup name = some (someText s.inline) := by rfl)
    (hfile : table.lookup (name ++ "_file") = some (someText s.file) := by rfl)
    (href : table.lookup (name ++ "_ref") = some (someText s.ref) := by rfl) :
    Source.get? name fs = some s := by
  obtain ⟨hname, hnames⟩ := List.cons_subset.mp hnames
  obtain ⟨hnameFile, hnames⟩ := List.cons_subset.mp hnames
  obtain ⟨hnameRef, -⟩ := List.cons_subset.mp hnames
  rw [Source.get?, bind_read (has.get name (gives_someText s.inline) hname hinline),
    bind_read (has.get _ (gives_someText s.file) hnameFile hfile),
    bind_read (has.get _ (gives_someText s.ref) hnameRef href)]
  rfl

theorem TlsVersion.ofName?_name (v : TlsVersion) : TlsVersion.ofName? v.name = some v := by
  cases v <;> rfl

@[simp] theorem TlsVersion.settled_encode (v : TlsVersion) : v.encode.Settled :=
  settled_str v.name

theorem TlsVersion.reads : Reads TlsVersion.encode TlsVersion.decode? := by
  intro v e h
  rw [TlsVersion.decode?, text?_of_readsAs h, Option.bind_some, TlsVersion.ofName?_name]

/-! ## TLS -/

namespace Tls

/-- The fields of TLS settings with their values. -/
def table (t : Tls) : List (String × Option Doc) :=
  t.ca.written "ca" ++ t.cert.written "cert" ++ t.key.written "key" ++ [
    ("server_name", someText t.serverName),
    ("insecure_skip_verify", someTrue t.insecureSkipVerify),
    ("min_version", t.minVersion.map (·.encode)),
    ("max_version", t.maxVersion.map (·.encode))]

@[simp] theorem settled_encode (t : Tls) : t.encode.Settled := by
  simp [encode]

theorem reads : Reads Tls.encode Tls.decode? := by
  intro t e h
  have hnodup : (t.table.map (·.1)).Nodup := show Tls.fields.Nodup by decide
  obtain ⟨fs, hfs, has⟩ := record?_of_readsAs fields hnodup h
  rw [decode?, bind_read hfs,
    bind_read (Source.get?_of_has has "ca" t.ca),
    bind_read (Source.get?_of_has has "cert" t.cert),
    bind_read (Source.get?_of_has has "key" t.key),
    bind_read (has.get "server_name" (gives_someText t.serverName)),
    bind_read (has.get "insecure_skip_verify" (gives_someTrue t.insecureSkipVerify)),
    bind_read (has.find "min_version" TlsVersion.reads t.minVersion),
    bind_read (has.find "max_version" TlsVersion.reads t.maxVersion)]
  rfl

theorem gives_written (t : Tls) : Gives t.written Tls.decode? {} t :=
  reads.gives_leaveOut fun h => (of_decide_eq_true h).symm

@[simp] theorem settledValue_written (t : Tls) : SettledValue t.written :=
  settledValue_leaveOut t.settled_encode

end Tls

/-! ## Proxies and credentials -/

/-- The settings of a proxy are read from what the record around them leaves. -/
theorem Proxy.ofFields?_of_settled {table : List (String × Option Doc)} (own : List String)
    (hown : ∀ name ∈ Proxy.fields, name ∉ own) (hnodup : (table.map (·.1)).Nodup)
    (h : (record table).Settled) (p : Proxy)
    (hurl : table.lookup "proxy_url" = some (p.url.map str) := by rfl)
    (hno : table.lookup "no_proxy" = some (someText p.noProxy) := by rfl)
    (henv : table.lookup "proxy_from_environment" = some (someTrue p.fromEnvironment) := by rfl)
    (hheader : table.lookup "proxy_connect_header" =
      some (someDict (list str) p.connectHeader) := by rfl) :
    (innerFields? Proxy.fields (entries (without own (Doc.written table)))).bind
      Proxy.ofFields? = some p := by
  obtain ⟨fs, hfs, has⟩ := innerFields?_of_settled own Proxy.fields hown hnodup h
  rw [hfs, Option.bind_some, Proxy.ofFields?,
    bind_read (has.find "proxy_url" reads_text p.url nofun (by decide) hurl),
    bind_read (has.get "no_proxy" (gives_someText p.noProxy) (by decide) hno),
    bind_read (has.get "proxy_from_environment" (gives_someTrue p.fromEnvironment) (by decide)
      henv),
    bind_read (has.get "proxy_connect_header" (reads_text.list.gives_someDict p.connectHeader)
      (by decide) hheader)]
  rfl

@[simp] theorem Proxy.settledTable_written (p : Proxy) : SettledTable p.written := by
  simp [Proxy.written]

namespace BasicAuth

def table (b : BasicAuth) : List (String × Option Doc) :=
  ("username", some (str b.username)) :: b.password.written "password"

@[simp] theorem settled_encode (b : BasicAuth) : b.encode.Settled := by
  simp [encode]

theorem reads : Reads BasicAuth.encode BasicAuth.decode? := by
  intro b e h
  have hnodup : (b.table.map (·.1)).Nodup := show BasicAuth.fields.Nodup by decide
  obtain ⟨fs, hfs, has⟩ := record?_of_readsAs fields hnodup h
  rw [decode?, bind_read hfs,
    bind_read (has.get "username" (reads_text.gives b.username "")),
    bind_read (Source.get?_of_has has "password" b.password)]
  rfl

end BasicAuth

namespace Authorization

def table (a : Authorization) : List (String × Option Doc) :=
  ("type", someText a.scheme) :: a.credentials.written "credentials"

@[simp] theorem settled_encode (a : Authorization) : a.encode.Settled := by
  simp [encode]

theorem reads : Reads Authorization.encode Authorization.decode? := by
  intro a e h
  have hnodup : (a.table.map (·.1)).Nodup := show Authorization.fields.Nodup by decide
  obtain ⟨fs, hfs, has⟩ := record?_of_readsAs fields hnodup h
  rw [decode?, bind_read hfs,
    bind_read (has.get "type" (gives_someText a.scheme)),
    bind_read (Source.get?_of_has has "credentials" a.credentials)]
  rfl

end Authorization

namespace OAuth2

def table (o : OAuth2) : List (String × Option Doc) :=
  ("client_id", some (str o.clientId)) :: o.clientSecret.written "client_secret" ++ [
    ("scopes", someList str o.scopes),
    ("token_url", str o.tokenUrl),
    ("endpoint_params", someDict str o.endpointParams),
    ("tls_config", o.tls.written)] ++ o.proxy.written

@[simp] theorem settled_encode (o : OAuth2) : o.encode.Settled := by
  simp [encode]

theorem reads : Reads OAuth2.encode OAuth2.decode? := by
  intro o e h
  have hnodup : (o.table.map (·.1)).Nodup :=
    show (OAuth2.fields ++ Proxy.fields).Nodup by decide
  obtain ⟨fs, hfs, has⟩ := openRecord?_of_readsAs fields hnodup h
  have hproxy := Proxy.ofFields?_of_settled fields (by decide) hnodup o.settled_encode o.proxy
  rw [decode?, bind_read hfs]
  dsimp only
  rw [bind_read (has.get "client_id" (reads_text.gives o.clientId "")),
    bind_read (Source.get?_of_has has "client_secret" o.clientSecret),
    bind_read (has.get "scopes" (reads_text.gives_someList o.scopes)),
    bind_read (has.get "token_url" (reads_text.gives o.tokenUrl "")),
    bind_read (has.get "endpoint_params" (reads_text.gives_someDict o.endpointParams)),
    bind_read (has.get "tls_config" o.tls.gives_written),
    bind_read hproxy]
  rfl

end OAuth2

/-! ## Clients -/

namespace Client

@[simp] theorem settledTable_written (c : Client) : SettledTable c.written := by
  simp [written]

theorem reads : Reads Client.encode Client.decode? := by
  intro c e h
  have hnodup : (c.written.map (·.1)).Nodup := show ["basic_auth", "authorization", "oauth2",
      "tls_config", "proxy_url", "no_proxy", "proxy_from_environment", "proxy_connect_header",
      "follow_redirects", "enable_http2"].Nodup by decide
  obtain ⟨fs, hfs, has⟩ := openRecord?_of_readsAs fields hnodup h
  have hproxy := Proxy.ofFields?_of_settled fields (by decide) hnodup
    (settled_record.mpr c.settledTable_written) c.proxy
  rw [decode?, bind_read hfs]
  dsimp only
  rw [bind_read (has.find "basic_auth" BasicAuth.reads c.basicAuth fun _ => record_ne_null _),
    bind_read (has.find "authorization" Authorization.reads c.authorization
      fun _ => record_ne_null _),
    bind_read (has.find "oauth2" OAuth2.reads c.oauth2 fun _ => record_ne_null _),
    bind_read (has.get "tls_config" c.tls.gives_written),
    bind_read hproxy,
    bind_read (has.get "follow_redirects" (reads_bool.gives c.followRedirects true)),
    bind_read (has.get "enable_http2" (reads_bool.gives c.enableHttp2 true))]
  rfl

end Client

end ScrapeJobs.Http
