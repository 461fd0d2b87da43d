import ScrapeJobs.Proofs.Http.Check
import ScrapeJobs.Proofs.Secret

/-!
# Secrets of clients

A client has a source for each of nine secrets (`SecretField`), for which the settings of an
endpoint may have a reference. A client that is resolved has a token for every reference and
nothing else in its sources, and the secret keys are added to the pool in the order of the fields
(`Draft.Client.fills_of_resolve`). The service account brings a file for the authority or the
credentials, and only where there was nothing (`Client.source_withServiceAccount`).
-/

namespace ScrapeJobs.Http

open Outcome

/-! ## Fields -/

/-- The secrets of a client. -/
inductive SecretField where
  /-- Behind the scheme of an authorization header. -/
  | credentials
  | password
  | clientSecret
  /-- The authorities that the server of tokens is verified with. -/
  | tokenCa
  | tokenCert
  | tokenKey
  | ca
  | cert
  | key
  deriving DecidableEq, Repr

/-- All secrets, in the order in which they are resolved. -/
def SecretField.all : List SecretField :=
  [credentials, password, clientSecret, tokenCa, tokenCert, tokenKey, ca, cert, key]

theorem SecretField.mem_all (f : SecretField) : f ∈ all := by
  cases f <;> decide

/-- Where a client has a secret from; nowhere if it lacks the part of the settings. -/
def Client.source (c : Client) : SecretField → Source
  | .credentials => (c.authorization.map (·.credentials)).getD {}
  | .password => (c.basicAuth.map (·.password)).getD {}
  | .clientSecret => (c.oauth2.map (·.clientSecret)).getD {}
  | .tokenCa => (c.oauth2.map (·.tls.ca)).getD {}
  | .tokenCert => (c.oauth2.map (·.tls.cert)).getD {}
  | .tokenKey => (c.oauth2.map (·.tls.key)).getD {}
  | .ca => c.tls.ca
  | .cert => c.tls.cert
  | .key => c.tls.key

/-- The reference to a secret in the settings of an endpoint. -/
def Draft.Client.secret? (d : Draft.Client) : SecretField → Option SecretRef
  | .credentials => d.authorization.bind (·.credentials)
  | .password => d.basicAuth.bind (·.password)
  | .clientSecret => d.oauth2.bind (·.clientSecret)
  | .tokenCa => (d.oauth2.bind (·.tls)).bind (·.ca)
  | .tokenCert => (d.oauth2.bind (·.tls)).bind (·.cert)
  | .tokenKey => (d.oauth2.bind (·.tls)).bind (·.key)
  | .ca => d.tls.bind (·.ca)
  | .cert => d.tls.bind (·.cert)
  | .key => d.tls.bind (·.key)

/-! ## Filling sources -/

variable {scope : SecretScope} {r : Option SecretRef} {refs refs' : List (Option SecretRef)}
  {src : Source} {sources sources' : List Source} {s t u : SecretPool}

/-- The source has the token of the secret key that the reference means, and nothing without a
reference. -/
inductive StandsFor (scope : SecretScope) : Option SecretRef → Source → Prop
  | unset : StandsFor scope none {}
  | token {r : SecretRef} {k : SecretKey} (h : r.resolve scope = .ok k) :
    StandsFor scope (some r) { ref := k.token }

namespace StandsFor

theorem inline_eq (h : StandsFor scope r src) : src.inline = "" := by
  cases h <;> rfl

theorem file_eq (h : StandsFor scope r src) : src.file = "" := by
  cases h <;> rfl

/-- A source is empty only if there is no reference. -/
theorem eq_none_of_empty (h : StandsFor scope r {}) : r = none := by
  generalize hsrc : ({} : Source) = src at h
  cases h with
  | unset => rfl
  | @token r k h =>
    have hempty : "" = k.token := congrArg Source.ref hsrc
    exact (k.token_ne_empty hempty.symm).elim

end StandsFor

/-- The secret keys that references mean, as far as they mean any. -/
def keysOf (scope : SecretScope) (refs : List (Option SecretRef)) : List SecretKey :=
  refs.filterMap fun r => r.bind fun r => (r.resolve scope).toOption

theorem mem_keysOf_iff {k : SecretKey} :
    k ∈ keysOf scope refs ↔ ∃ r : SecretRef, some r ∈ refs ∧ r.resolve scope = .ok k := by
  unfold keysOf
  rw [List.mem_filterMap]
  constructor
  · rintro ⟨r?, hr, h⟩
    obtain ⟨r, rfl, hk⟩ := Option.bind_eq_some_iff.mp h
    exact ⟨r, hr, eq_ok_of_toOption hk⟩
  · rintro ⟨r, hr, hk⟩
    refine ⟨some r, hr, ?_⟩
    rw [Option.bind_some, hk]
    rfl

/-- The sources stand for the references one by one, and the secret keys are added to the pool in
the same order. -/
structure Fills (scope : SecretScope) (refs : List (Option SecretRef)) (sources : List Source)
    (s t : SecretPool) : Prop where
  sources : List.Forall₂ (StandsFor scope) refs sources
  pool : t = s.addAll (keysOf scope refs)

namespace Fills

theorem nil (s : SecretPool) : Fills scope [] [] s s := ⟨.nil, rfl⟩

theorem append (h : Fills scope refs sources s t) (h' : Fills scope refs' sources' t u) :
    Fills scope (refs ++ refs') (sources ++ sources') s u := by
  refine ⟨List.rel_append h.sources h'.sources, ?_⟩
  have hkeys : keysOf scope (refs ++ refs') = keysOf scope refs ++ keysOf scope refs' :=
    List.filterMap_append
  rw [hkeys, SecretPool.addAll_append, ← h.pool, ← h'.pool]

/-- References that are not there leave everything empty. -/
theorem nones (n : Nat) (s : SecretPool) :
    Fills scope (List.replicate n none) (List.replicate n {}) s s := by
  induction n with
  | zero => exact nil s
  | succ n ih => exact append ⟨.cons .unset .nil, rfl⟩ ih

end Fills

/-! ## Resolving -/

/-- A reference that means a secret key is resolved to its token. -/
theorem run_token_of_ok {r : SecretRef} {k : SecretKey} (h : r.resolve scope = .ok k)
    (s : SecretPool) : (token scope (some r)).run s = (.ok k.token, s.add k) := by
  rw [run_token, SecretPool.resolve, h]
  rfl

/-- A reference that is refused leaves the pool as it is. -/
theorem run_token_of_error {r : SecretRef} {v : SecretScope.Violation}
    (h : r.resolve scope = .error v) (s : SecretPool) :
    (token scope (some r)).run s = (.error (.tenancy v), s) := by
  rw [run_token, SecretPool.resolve, h]
  rfl

/-- A reference that is resolved fills its source. -/
theorem fills_of_refSource (h : (refSource scope r).run s = (.ok src, t)) :
    Fills scope [r] [src] s t := by
  unfold refSource at h
  obtain ⟨text, u, htoken, h⟩ := run_bind_eq_ok h
  cases h
  cases r with
  | none =>
    cases htoken
    exact ⟨.cons .unset .nil, rfl⟩
  | some r =>
    cases hk : r.resolve scope with
    | error v =>
      rw [run_token_of_error hk] at htoken
      cases htoken
    | ok k =>
      rw [run_token_of_ok hk] at htoken
      cases htoken
      refine ⟨.cons (.token hk) .nil, ?_⟩
      have hkeys : keysOf scope [some r] = [k] := by
        simp [keysOf, hk, Except.toOption]
      rw [hkeys]
      rfl

namespace Draft

/-- The versions have nothing to do with secrets. -/
theorem pool_eq_of_version {text : Option String} {v : Option TlsVersion}
    (h : (version text).run s = (.ok v, t)) : t = s := by
  unfold version at h
  split at h
  · cases h
    rfl
  · split at h
    · cases h
      rfl
    · cases h

theorem fills_of_tls {d : Option Tls} {tls : Http.Tls}
    (h : (Tls.resolve scope d).run s = (.ok tls, t)) :
    Fills scope [d.bind (·.ca), d.bind (·.cert), d.bind (·.key)] [tls.ca, tls.cert, tls.key] s t := by
  cases d with
  | none =>
    cases h
    exact .nones 3 s
  | some d =>
    unfold Tls.resolve at h
    obtain ⟨ca, _, hca, h⟩ := run_bind_eq_ok h
    obtain ⟨cert, _, hcert, h⟩ := run_bind_eq_ok h
    obtain ⟨key, _, hkey, h⟩ := run_bind_eq_ok h
    obtain ⟨min, _, hmin, h⟩ := run_bind_eq_ok h
    obtain ⟨max, _, hmax, htls⟩ := run_bind_eq_ok h
    obtain rfl := pool_eq_of_version hmin
    obtain rfl := pool_eq_of_version hmax
    cases htls
    have hcerts := (fills_of_refSource hcert).append (fills_of_refSource hkey)
    exact (fills_of_refSource hca).append hcerts

/-- A part of the settings that is not there has nothing to fill. -/
theorem fills_of_resolvePart {α β : Type} {resolve : α → Resolving β} {d : Option α}
    {part : Option β} (refs : Option α → List (Option SecretRef))
    (sources : Option β → List Source) {n : Nat} (hrefs : refs none = List.replicate n none)
    (hsources : sources none = List.replicate n {})
    (hresolve : ∀ {a b s t}, (resolve a).run s = (.ok b, t) →
      Fills scope (refs (some a)) (sources (some b)) s t)
    (h : (resolvePart resolve d).run s = (.ok part, t)) :
    Fills scope (refs d) (sources part) s t := by
  cases d with
  | none =>
    cases h
    rw [hrefs, hsources]
    exact .nones n s
  | some a =>
    unfold resolvePart at h
    obtain ⟨b, u, hb, h⟩ := run_bind_eq_ok h
    cases h
    exact hresolve hb

theorem fills_of_authorization {a : Authorization} {authorization : Http.Authorization}
    (h : (a.resolve scope).run s = (.ok authorization, t)) :
    Fills scope [a.credentials] [authorization.credentials] s t := by
  unfold Authorization.resolve at h
  obtain ⟨credentials, u, hcredentials, h⟩ := run_bind_eq_ok h
  cases h
  exact fills_of_refSource hcredentials

theorem fills_of_basicAuth {b : BasicAuth} {basicAuth : Http.BasicAuth}
    (h : (b.resolve scope).run s = (.ok basicAuth, t)) :
    Fills scope [b.password] [basicAuth.password] s t := by
  unfold BasicAuth.resolve at h
  obtain ⟨password, u, hpassword, h⟩ := run_bind_eq_ok h
  cases h
  exact fills_of_refSource hpassword

theorem fills_of_oauth2 {o : OAuth2} {oauth2 : Http.OAuth2}
    (h : (o.resolve scope).run s = (.ok oauth2, t)) :
    Fills scope [o.clientSecret, o.tls.bind (·.ca), o.tls.bind (·.cert), o.tls.bind (·.key)]
      [oauth2.clientSecret, oauth2.tls.ca, oauth2.tls.cert, oauth2.tls.key] s t := by
  unfold OAuth2.resolve at h
  obtain ⟨clientSecret, u, hsecret, h⟩ := run_bind_eq_ok h
  obtain ⟨tls, v, htls, h⟩ := run_bind_eq_ok h
  cases h
  exact (fills_of_refSource hsecret).append (fills_of_tls htls)

end Draft

/-! ## Clients -/

/-- The scheme of an authorization header is no secret. -/
theorem Client.source_normalize (c : Client) : c.normalize.source = c.source := by
  funext f
  obtain ⟨basicAuth, authorization, oauth2, tls, proxy, followRedirects, enableHttp2⟩ := c
  cases f with
  | credentials =>
    cases authorization with
    | none => rfl
    | some a =>
      unfold normalize source
      simp only [Option.map_some, Option.getD_some]
      split <;> rfl
  | _ => rfl

/-- A client that is resolved has the tokens of its references in its sources. -/
theorem Draft.Client.fills_of_resolve {d : Draft.Client} {c : Http.Client}
    (h : (d.resolve scope).run s = (.ok c, t)) :
    Fills scope (SecretField.all.map d.secret?) (SecretField.all.map c.source) s t := by
  obtain ⟨made, _, _, _, hauthorization, hbasicAuth, hoauth2, htls, rfl, -⟩ := exists_of_resolve h
  have hauthorization := fills_of_resolvePart (fun d => [d.bind (·.credentials)])
    (fun a => [(a.map (·.credentials)).getD {}]) (n := 1) rfl rfl fills_of_authorization
    hauthorization
  have hbasicAuth := fills_of_resolvePart (fun d => [d.bind (·.password)])
    (fun b => [(b.map (·.password)).getD {}]) (n := 1) rfl rfl fills_of_basicAuth hbasicAuth
  have hoauth2 := fills_of_resolvePart
    (fun d => [d.bind (·.clientSecret), (d.bind (·.tls)).bind (·.ca),
      (d.bind (·.tls)).bind (·.cert), (d.bind (·.tls)).bind (·.key)])
    (fun o => [(o.map (·.clientSecret)).getD {}, (o.map (·.tls.ca)).getD {},
      (o.map (·.tls.cert)).getD {}, (o.map (·.tls.key)).getD {}]) (n := 4) rfl rfl fills_of_oauth2
    hoauth2
  rw [Http.Client.source_normalize]
  exact hauthorization.append (hbasicAuth.append (hoauth2.append (fills_of_tls htls)))

theorem Draft.Client.standsFor_of_resolve {d : Draft.Client} {c : Http.Client}
    (h : (d.resolve scope).run s = (.ok c, t)) (f : SecretField) :
    StandsFor scope (d.secret? f) (c.source f) := by
  have hsources := (fills_of_resolve h).sources
  rw [List.forall₂_map_left_iff, List.forall₂_map_right_iff, List.forall₂_same] at hsources
  exact hsources f f.mem_all

/-- The service account brings a file with an authority or with credentials where there is nothing,
and leaves all else as it is. -/
theorem Client.source_withServiceAccount (c : Client) (f : SecretField) :
    c.withServiceAccount.source f = c.source f ∨
      c.source f = {} ∧
        (f = .ca ∧ c.withServiceAccount.source f = { file := serviceAccountCa } ∨
          f = .credentials ∧ c.withServiceAccount.source f = { file := serviceAccountToken }) := by
  have htls := c.tls.withServiceAccount_cases
  have hcerts : c.tls.withServiceAccount.cert = c.tls.cert ∧
      c.tls.withServiceAccount.key = c.tls.key := by
    rcases htls with hsame | ⟨-, hadded⟩
    · rw [hsame]
      exact ⟨rfl, rfl⟩
    · rw [hadded]
      exact ⟨rfl, rfl⟩
  cases f with
  | credentials =>
    by_cases hnone : c.schemes = 0
    · obtain ⟨-, hauthorization, -⟩ := eq_none_of_schemes hnone
      refine .inr ⟨?_, .inr ⟨rfl, ?_⟩⟩
      · rw [source, hauthorization]
        rfl
      · simp only [source, withServiceAccount, if_pos hnone]
        rfl
    · left
      simp only [source, withServiceAccount, if_neg hnone]
  | ca =>
    rcases htls with hsame | ⟨hca, hadded⟩
    · exact .inl (congrArg Tls.ca hsame)
    · exact .inr ⟨hca, .inl ⟨rfl, congrArg Tls.ca hadded⟩⟩
  | cert => exact .inl hcerts.1
  | key => exact .inl hcerts.2
  | password | clientSecret | tokenCa | tokenCert | tokenKey => exact .inl rfl

end ScrapeJobs.Http
