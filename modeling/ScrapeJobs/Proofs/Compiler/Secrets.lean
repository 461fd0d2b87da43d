import ScrapeJobs.Proofs.Compiler.Outcomes
import ScrapeJobs.Proofs.Http.Secrets

/-!
# Secrets of a batch

The sources of a job have the tokens of the references of its endpoint, and files only from the
service account of nodes (`Endpoint.Supplies`). The pool of a resource has the secret keys of its
references and no others, in order, and so has the pool of a batch with those of its accepted
resources (`Compiler.secrets_compile_eq`). So the pool and the jobs agree
(`Compiler.secrets_agree_with_jobs`).
-/

namespace ScrapeJobs

open Outcome Http

/-! ## Endpoints -/

namespace Endpoint

variable {scope : SecretScope} {e : Endpoint} {f : SecretField} {src : Source} {k : SecretKey}

/-- The source stands for the reference of the endpoint, or there is none and the service account
supplies a file on a node. -/
inductive Supplies (scope : SecretScope) (e : Endpoint) (f : SecretField) (src : Source) : Prop
  | reference (h : StandsFor scope (e.settings.http.secret? f) src)
  | account (settings : Settings) (hnode : e = .node settings)
    (hnone : e.settings.http.secret? f = none)
    (hfile : f = .ca ∧ src = { file := serviceAccountCa } ∨
      f = .credentials ∧ src = { file := serviceAccountToken })

namespace Supplies

theorem inline_eq (h : e.Supplies scope f src) : src.inline = "" := by
  cases h with
  | reference h => exact h.inline_eq
  | account _ _ _ hfile => rcases hfile with ⟨-, rfl⟩ | ⟨-, rfl⟩ <;> rfl

/-- Only the service account supplies files, and only on nodes. -/
theorem file_eq (h : e.Supplies scope f src) :
    src.file = "" ∨
      (∃ settings, e = .node settings) ∧
        (f = .ca ∧ src.file = serviceAccountCa ∨
          f = .credentials ∧ src.file = serviceAccountToken) := by
  cases h with
  | reference h => exact .inl h.file_eq
  | account settings hnode _ hfile =>
    refine .inr ⟨⟨settings, hnode⟩, ?_⟩
    rcases hfile with ⟨hf, rfl⟩ | ⟨hf, rfl⟩
    · exact .inl ⟨hf, rfl⟩
    · exact .inr ⟨hf, rfl⟩

/-- A reference means a secret key, whose token the source has. -/
theorem exists_key {r : SecretRef} (h : e.Supplies scope f src)
    (hr : e.settings.http.secret? f = some r) :
    ∃ k, r.resolve scope = .ok k ∧ src.ref = k.token := by
  cases h with
  | reference h =>
    rw [hr] at h
    cases h with
    | token hk => exact ⟨_, hk, rfl⟩
  | account _ _ hnone _ => cases hr.symm.trans hnone

/-- A token comes from a reference. -/
theorem exists_ref (h : e.Supplies scope f src) (hset : src.ref ≠ "") :
    ∃ r k, e.settings.http.secret? f = some r ∧ r.resolve scope = .ok k ∧ src.ref = k.token := by
  cases hr : e.settings.http.secret? f with
  | some r =>
    obtain ⟨k, hk, hsrc⟩ := h.exists_key hr
    exact ⟨r, k, rfl, hk, hsrc⟩
  | none =>
    cases h with
    | reference h =>
      rw [hr] at h
      cases h
      exact (hset rfl).elim
    | account _ _ _ hfile => rcases hfile with ⟨-, rfl⟩ | ⟨-, rfl⟩ <;> exact (hset rfl).elim

end Supplies

/-- The secret keys that an endpoint refers to, in the order of the fields. -/
def secretKeys (scope : SecretScope) (e : Endpoint) : List SecretKey :=
  keysOf scope (SecretField.all.map e.settings.http.secret?)

theorem mem_secretKeys_iff :
    k ∈ e.secretKeys scope ↔
      ∃ f r, e.settings.http.secret? f = some r ∧ r.resolve scope = .ok k := by
  rw [secretKeys, mem_keysOf_iff]
  constructor
  · rintro ⟨r, hr, hk⟩
    obtain ⟨f, -, hf⟩ := List.mem_map.mp hr
    exact ⟨f, r, hf, hk⟩
  · rintro ⟨f, r, hf, hk⟩
    exact ⟨r, List.mem_map.mpr ⟨f, f.mem_all, hf⟩, hk⟩

/-- The client of an endpoint has its sources from the references, and the pool gets their secret
keys. -/
theorem supplies_of_client {client : Http.Client} {s t : SecretPool}
    (h : (e.client scope).run s = (.ok client, t)) :
    (∀ f, e.Supplies scope f (client.source f)) ∧ t = s.addAll (e.secretKeys scope) := by
  unfold Endpoint.client at h
  obtain ⟨resolved, u, hresolved, h⟩ := run_bind_eq_ok h
  have hstands := Draft.Client.standsFor_of_resolve hresolved
  have hpool : u = s.addAll (e.secretKeys scope) := (Draft.Client.fills_of_resolve hresolved).pool
  cases e with
  | node settings =>
    cases h
    refine ⟨fun f => ?_, hpool⟩
    have hf := hstands f
    rcases resolved.source_withServiceAccount f with hsame | ⟨hempty, hfile⟩
    · rw [hsame]
      exact .reference hf
    · rw [hempty] at hf
      exact .account settings rfl hf.eq_none_of_empty hfile
  | pod | probe =>
    cases h
    exact ⟨fun f => .reference (hstands f), hpool⟩

end Endpoint

namespace Compiler

variable {c : Compiler} {r : Resource} {rs : List Resource} {i : Nat} {out : Compiled} {j : Job}
  {e : Endpoint} {scope : SecretScope} {k : SecretKey} {s t : SecretPool}

/-! ## Resources -/

theorem supplies_of_compileJob {key : String} {ctx : JobContext}
    (h : (c.compileJob key i ctx scope).run s = (.ok j, t)) :
    (∀ f, ctx.endpoint.Supplies scope f (j.client.source f)) ∧
      t = s.addAll (ctx.endpoint.secretKeys scope) := by
  obtain ⟨parts, hparts, rfl, -⟩ := exists_parts_of_compileJob h
  exact Endpoint.supplies_of_client hparts.client

/-- The jobs of endpoints have their sources from the references of these, and the pool gets the
secret keys of all of them in order. -/
theorem supplies_of_compileEndpoints {key : String} {context : Endpoint → Option Port → JobContext}
    (hcontext : ∀ e port, (context e port).endpoint = e) {es : List Endpoint} {jobs : List Job}
    (h : compileEndpoints c key scope context s i es = .ok (jobs, t)) :
    List.Forall₂ (fun e j => ∀ f, e.Supplies scope f (j.client.source f)) es jobs ∧
      t = s.addAll (es.flatMap (·.secretKeys scope)) := by
  induction es generalizing i s jobs with
  | nil =>
    cases h
    exact ⟨.nil, rfl⟩
  | cons e rest ih =>
    unfold compileEndpoints at h
    split at h
    · cases h
    · rename_i port hport
      split at h
      · cases h
      · rename_i job u hjob
        obtain ⟨⟨jobs', v⟩, hrest, h⟩ := bind_eq_ok h
        cases h
        obtain ⟨hsupplies, hu⟩ := supplies_of_compileJob hjob
        obtain ⟨hjobs, ht⟩ := ih hrest
        rw [hcontext] at hsupplies hu
        refine ⟨.cons hsupplies hjobs, ?_⟩
        rw [List.flatMap_cons, SecretPool.addAll_append, ← hu, ht]

/-- The secret keys that a resource refers to, in order. -/
def secretKeys (c : Compiler) (r : Resource) : List SecretKey :=
  match r.secretScope c.platform.secretNamespace with
  | .ok scope => r.target.endpoints.flatMap (·.secretKeys scope)
  | .error _ => []

theorem mem_secretKeys_iff :
    k ∈ c.secretKeys r ↔
      ∃ scope, r.secretScope c.platform.secretNamespace = .ok scope ∧
        ∃ e ∈ r.target.endpoints, ∃ f ref, e.settings.http.secret? f = some ref ∧
          ref.resolve scope = .ok k := by
  unfold secretKeys
  cases hscope : r.secretScope c.platform.secretNamespace with
  | error cause => simp
  | ok scope => simp [List.mem_flatMap, Endpoint.mem_secretKeys_iff]

theorem secretScope_of_prepare {p : Prepared} (h : c.prepare r = .ok p) :
    r.secretScope c.platform.secretNamespace = .ok p.scope := by
  unfold prepare at h
  obtain ⟨name, -, h⟩ := bind_eq_ok h
  obtain ⟨ns, -, h⟩ := bind_eq_ok h
  obtain ⟨metadata, -, h⟩ := bind_eq_ok h
  obtain ⟨scope, hscope, h⟩ := bind_eq_ok h
  obtain ⟨u, -, h⟩ := bind_eq_ok h
  cases h
  exact hscope

/-- The secrets of a resource that compiles are those it refers to, and the sources of its jobs come
from these references. -/
theorem supplies_of_compileResource (h : c.compileResource r = .ok out) :
    ∃ scope, r.secretScope c.platform.secretNamespace = .ok scope ∧
      List.Forall₂ (fun e j => ∀ f, e.Supplies scope f (j.client.source f))
        r.target.endpoints out.jobs ∧
      out.secrets = .ofKeys (c.secretKeys r) := by
  obtain ⟨p, -, hp, hruns⟩ := exists_runs_of_compileResource h
  have hscope := secretScope_of_prepare hp
  obtain ⟨hjobs, hsecrets⟩ := supplies_of_compileEndpoints (fun _ _ => rfl) hruns
  refine ⟨p.scope, hscope, hjobs, ?_⟩
  rw [secretKeys, hscope, hsecrets]
  rfl

/-! ## Batches -/

/-- Pools that are merged in order have the secret keys of the kept resources in order. -/
theorem foldl_union_accepted {os : List (Except Rejection Compiled)}
    (h : List.Forall₂ (fun r o => ∀ out, o = .ok out → c.compileResource r = .ok out) rs os)
    (pool : SecretPool) :
    (accepted os).foldl (fun pool out => pool.union out.secrets) pool =
      pool.addAll ((kept rs os).flatMap c.secretKeys) := by
  induction h generalizing pool with
  | nil => rfl
  | @cons r o rest os' hout _ ih =>
    cases o with
    | error rejection => exact ih pool
    | ok out =>
      obtain ⟨-, -, -, hsecrets⟩ := supplies_of_compileResource (hout out rfl)
      have hkept : kept (r :: rest) (.ok out :: os') = r :: kept rest os' := rfl
      rw [accepted_ok, List.foldl_cons, ih, hkept, List.flatMap_cons, SecretPool.addAll_append,
        hsecrets, SecretPool.union_ofKeys]

/-- The secret keys that the accepted resources of a batch refer to, in order. -/
def referenced (c : Compiler) (rs : List Resource) : List SecretKey :=
  (kept rs (c.outcomes {} rs)).flatMap c.secretKeys

theorem mem_referenced_iff :
    k ∈ c.referenced rs ↔ ∃ i r out, c.Accepts rs i r out ∧ k ∈ c.secretKeys r := by
  rw [referenced, List.mem_flatMap]
  constructor
  · rintro ⟨r, hr, hk⟩
    obtain ⟨i, out, hresource, houtcome⟩ := mem_kept_iff.mp hr
    exact ⟨i, r, out, ⟨hresource, houtcome⟩, hk⟩
  · rintro ⟨i, r, out, haccepts, hk⟩
    exact ⟨r, mem_kept_iff.mpr ⟨i, out, haccepts.resource, haccepts.outcome⟩, hk⟩

/-- The pool of a batch has the secret keys that its accepted resources refer to. -/
theorem secrets_compile_eq (c : Compiler) (rs : List Resource) :
    (c.compile rs).secrets = .ofKeys (c.referenced rs) := by
  have hcompiled : List.Forall₂ (fun r o => ∀ out, o = .ok out → c.compileResource r = .ok out)
      rs (c.outcomes {} rs) := by
    refine (forall₂_accounts_outcomes c rs).imp ?_
    rintro r o ho out rfl
    exact ho.compiled
  rw [secrets_compile, foldl_union_accepted hcompiled]
  rfl

/-! ## Pool and jobs -/

/-- A resource that compiles refers to the tokens that its jobs have. -/
theorem mem_tokens_iff_mem_refs (h : c.compileResource r = .ok out) {token : String} :
    (∃ k ∈ c.secretKeys r, k.token = token) ↔
      token ≠ "" ∧ ∃ j ∈ out.jobs, ∃ f, (j.client.source f).ref = token := by
  obtain ⟨scope, hscope, hjobs, -⟩ := supplies_of_compileResource h
  constructor
  · rintro ⟨k, hk, rfl⟩
    obtain ⟨scope', hscope', e, he, f, ref, href, hresolve⟩ := mem_secretKeys_iff.mp hk
    cases hscope.symm.trans hscope'
    obtain ⟨n, hn⟩ := List.mem_iff_getElem?.mp he
    obtain ⟨j, hj, hsupplies⟩ := exists_rel_of_getElem? hjobs hn
    obtain ⟨k', hk', hsource⟩ := (hsupplies f).exists_key href
    cases hresolve.symm.trans hk'
    exact ⟨k.token_ne_empty, j, List.mem_of_getElem? hj, f, hsource⟩
  · rintro ⟨hset, j, hj, f, rfl⟩
    obtain ⟨n, e, he, hn⟩ := exists_getElem?_of_mem hjobs hj
    have hsupplies := rel_of_getElem? hjobs he hn
    obtain ⟨ref, k, href, hk, hsource⟩ := (hsupplies f).exists_ref hset
    exact ⟨k, mem_secretKeys_iff.mpr ⟨scope, hscope, e, List.mem_of_getElem? he, f, ref, href, hk⟩,
      hsource.symm⟩

/-- The pool of a batch has exactly the tokens that stand in the jobs of the batch. No secret stands
in a job itself, and the only files are those of the service account, in the jobs of nodes. -/
theorem secrets_agree_with_jobs (c : Compiler) (rs : List Resource) :
    (∀ token, token ∈ (c.compile rs).secrets.keys ↔
      token ≠ "" ∧ ∃ j ∈ (c.compile rs).jobs, ∃ f, (j.client.source f).ref = token) ∧
    ∀ j ∈ (c.compile rs).jobs, ∃ r ∈ rs, ∃ i e, c.Emits r i e j ∧
      ∀ f, (j.client.source f).inline = "" ∧
        ((j.client.source f).file = "" ∨
          (∃ settings, e = .node settings) ∧
            (f = .ca ∧ (j.client.source f).file = serviceAccountCa ∨
              f = .credentials ∧ (j.client.source f).file = serviceAccountToken)) := by
  constructor
  · intro token
    rw [secrets_compile_eq, SecretPool.mem_keys_ofKeys_iff]
    constructor
    · rintro ⟨k, hk, htoken⟩
      obtain ⟨i, r, out, haccepts, hk⟩ := mem_referenced_iff.mp hk
      obtain ⟨hset, j, hj, hf⟩ :=
        (mem_tokens_iff_mem_refs haccepts.isComplete.compiled).mp ⟨k, hk, htoken⟩
      exact ⟨hset, j, mem_jobs_iff.mpr ⟨i, r, out, haccepts, hj⟩, hf⟩
    · rintro ⟨hset, j, hj, hf⟩
      obtain ⟨i, r, out, haccepts, hj⟩ := mem_jobs_iff.mp hj
      obtain ⟨k, hk, htoken⟩ :=
        (mem_tokens_iff_mem_refs haccepts.isComplete.compiled).mpr ⟨hset, j, hj, hf⟩
      exact ⟨k, mem_referenced_iff.mpr ⟨i, r, out, haccepts, hk⟩, htoken⟩
  · intro j hj
    obtain ⟨i, r, out, haccepts, hj⟩ := mem_jobs_iff.mp hj
    have hout := haccepts.isComplete.compiled
    obtain ⟨scope, -, hjobs, -⟩ := supplies_of_compileResource hout
    obtain ⟨n, e, he, hn⟩ := exists_getElem?_of_mem hjobs hj
    have hsupplies := rel_of_getElem? hjobs he hn
    refine ⟨r, List.mem_of_getElem? haccepts.resource, n, e, ⟨out, hout, he, hn⟩, fun f => ?_⟩
    exact ⟨(hsupplies f).inline_eq, (hsupplies f).file_eq⟩

end Compiler

namespace Sample

/-- A resource of the namespace `shop` with credentials and with an authority of its own. -/
def guarded : Resource where
  metadata := { name := some "web", inNamespace := some "shop" }
  target := .pod { endpoints := [{
    port := some (.name "http")
    settings := { interval := some "30s", http := {
      authorization := some { credentials := some ⟨"scrape", "token", none⟩ }
      tls := some { ca := some ⟨"scrape", "ca.crt", some "shop"⟩ } } } }] }

/-- The pool has the token of the credentials, and the service account brings the authority of the
job for nodes. -/
theorem tokens_guarded :
    "shop/scrape/token" ∈ (compiler.compile [guarded, nodes]).secrets.keys ∧
      ∃ j ∈ (compiler.compile [guarded, nodes]).jobs,
        (j.client.source .ca).file = serviceAccountCa ∧
          ∀ f, (j.client.source f).inline = "" := by
  obtain ⟨hkeys, hjobs⟩ := Compiler.secrets_agree_with_jobs compiler [guarded, nodes]
  obtain ⟨hcredentials, hca⟩ :
      (compiler.compile [guarded, nodes]).jobs.any
          (fun j => (j.client.source .credentials).ref = "shop/scrape/token") = true ∧
        (compiler.compile [guarded, nodes]).jobs.any
          (fun j => (j.client.source .ca).file = serviceAccountCa) = true := by
    decide +kernel
  obtain ⟨j, hj, href⟩ := List.any_eq_true.mp hcredentials
  obtain ⟨k, hk, hfile⟩ := List.any_eq_true.mp hca
  obtain ⟨r, -, i, e, -, hsources⟩ := hjobs k hk
  exact ⟨(hkeys _).mpr ⟨by decide, j, hj, .credentials, of_decide_eq_true href⟩, k, hk,
    of_decide_eq_true hfile, fun f => (hsources f).1⟩

end Sample

end ScrapeJobs
