import ScrapeJobs.Proofs.Compiler.Assembly
import ScrapeJobs.Proofs.Job.Codec
import ScrapeJobs.Proofs.Job.Normal
import ScrapeJobs.Proofs.Relabel.Effects

/-!
# Jobs and what they come from

`Compiler.Emits` says that a resource is accepted and that a job is the one of a given
endpoint of it. Every job of a batch is one of these (`exists_emits_of_mem_jobs`), and each
has its rules from the phases of a context that the resource and the endpoint determine
(`Emits.exists_context`), followed by a check of each rule.
-/

namespace ScrapeJobs

open Outcome Relabel

/-! ## Texts that are set -/

theorem ne_empty_of_filter {s : Option String} {t : String}
    (h : s.filter (· ≠ "") = some t) : t ≠ "" := by
  simpa using (Option.filter_eq_some_iff.mp h).2

theorem getD_set?_ne_empty (s : Option String) {default : String} (h : default ≠ "") :
    (set? s).getD default ≠ "" := by
  unfold set?
  cases hs : s.filter (· ≠ "") with
  | none => exact h
  | some t => exact ne_empty_of_filter hs

theorem Resource.name_ne_empty {r : Resource} {name : String} (h : r.name = .ok name) :
    name ≠ "" := by
  unfold Resource.name at h
  split at h
  · rename_i n hn
    cases h
    exact ne_empty_of_filter hn
  · cases h

theorem Resource.namespace_ne_empty {r : Resource} {ns : String}
    (h : r.namespace? = .ok (some ns)) : ns ≠ "" := by
  unfold Resource.namespace? at h
  split at h
  · split at h
    · rename_i n hn
      cases h
      exact ne_empty_of_filter hn
    · cases h
  · cases h

/-! ## Ports -/

namespace Port

variable {port : Port}

theorem eq_named_of_resolve {s : String} (h : resolve (some (.name s)) = .ok port) :
    port = .named s ∧ s ≠ "" := by
  unfold resolve at h
  simp only at h
  split at h
  · cases h
  · cases h
    exact ⟨rfl, by assumption⟩

theorem exists_numeric_of_resolve {n : Int32} (h : resolve (some (.number n)) = .ok port) :
    ∃ m, port = .numeric m := by
  unfold resolve at h
  simp only at h
  split at h
  · cases h
  · split at h
    · cases h
      exact ⟨_, rfl⟩
    · cases h

end Port

namespace Compiler

variable {c : Compiler} {r : Resource} {e : Endpoint} {i : Nat} {j : Job}

/-- The resource is accepted, and the job is the one of its endpoint at a place. -/
def Emits (c : Compiler) (r : Resource) (i : Nat) (e : Endpoint) (j : Job) : Prop :=
  ∃ out, c.compileResource r = .ok out ∧ r.target.endpoints[i]? = some e ∧ out.jobs[i]? = some j

/-- The context of an endpoint of a prepared resource. -/
def Prepared.context (p : Prepared) (c : Compiler) (r : Resource) (e : Endpoint)
    (port : Option Port) : JobContext where
  platform := c.platform
  target := r.target
  name := p.name
  inNamespace := p.inNamespace
  endpoint := e
  port := port
  metadata := p.metadata

/-- What the rules of an endpoint depend on is what its resource and its compiler say. -/
structure IsContext (c : Compiler) (r : Resource) (e : Endpoint) (ctx : JobContext) : Prop where
  platform : ctx.platform = c.platform
  target : ctx.target = r.target
  name : r.name = .ok ctx.name
  inNamespace : r.namespace? = .ok ctx.inNamespace
  metadata : r.target.metadata = .ok ctx.metadata
  endpoint : ctx.endpoint = e
  port : portOf e = .ok ctx.port
  checked : checkTarget r.target = .ok ()

/-- The port of an endpoint of pods is the one that it refers to. -/
theorem IsContext.exists_port {spec : PodEndpoint} {ctx : JobContext}
    (h : IsContext c r (.pod spec) ctx) :
    ∃ port, ctx.port = some port ∧ Port.resolve spec.port = .ok port := by
  obtain ⟨port, hresolve, hport⟩ := bind_eq_ok h.port
  exact ⟨port, (Except.ok.inj hport).symm, hresolve⟩

/-- The job has the rules of its context and leaves nothing to a collector, which accepts it. -/
structure IsJobOf (c : Compiler) (ctx : JobContext) (j : Job) : Prop where
  relabeling : Phase.allRules ctx = .ok j.relabeling
  metricRelabeling : ∃ own, Protected.accept ctx.endpoint.settings.metricRelabeling = .ok own ∧
    j.metricRelabeling = own ++ c.metricRules
  normalized : j.normalize = j
  accepted : ∃ k, Job.load j.encode = .ok k

theorem IsJobOf.check {ctx : JobContext} (h : IsJobOf c ctx j) {rule : Rule}
    (hr : rule ∈ j.relabeling ++ j.metricRelabeling) : rule.check = .ok () := by
  obtain ⟨k, hk⟩ := h.accepted
  exact Job.check_of_load hk hr

/-- A collector takes the job as it is. -/
theorem IsJobOf.check_eq_ok {ctx : JobContext} (h : IsJobOf c ctx j) : j.check = .ok () := by
  obtain ⟨k, hk⟩ := h.accepted
  exact h.normalized ▸ Job.check_normalize_of_load hk

/-- The rules of a job for its targets can be read, so a run of them is their pass. -/
theorem IsJobOf.isReadable {ctx : JobContext} (h : IsJobOf c ctx j) {rule : Rule}
    (hr : rule ∈ j.relabeling) : rule.IsReadable :=
  isReadable_of_check (h.check (List.mem_append_left _ hr))

theorem IsJobOf.run_eq_pass {ctx : JobContext} (h : IsJobOf c ctx j) (ls : Labels) :
    run ls j.relabeling = .ok (pass ls j.relabeling) :=
  Relabel.run_eq_pass (fun _ hr => h.isReadable hr) ls

/-! ## Endpoints -/

theorem defaultPath_ne_empty (e : Endpoint) : e.defaultPath ≠ "" := by
  cases e <;> simp [Endpoint.defaultPath]

theorem defaultScheme_ne_empty (e : Endpoint) : e.defaultScheme ≠ "" := by
  cases e <;> simp [Endpoint.defaultScheme]

/-- The client of an endpoint leaves nothing to a collector. -/
theorem normalize_of_client {scope : SecretScope} {client : Http.Client} {s t : SecretPool}
    (h : (e.client scope).run s = (.ok client, t)) : client.normalize = client := by
  unfold Endpoint.client at h
  obtain ⟨resolved, u, hresolved, h⟩ := run_bind_eq_ok h
  have hnormal := Http.Draft.Client.normalize_of_resolve hresolved
  split at h
  · rw [← run_pure_eq_ok h, Http.Client.normalize_withServiceAccount hnormal]
  · rw [← run_pure_eq_ok h, hnormal]

/-- The job that is made of parts leaves nothing to a collector. -/
theorem normalize_job {parts : JobParts} {ctx : JobContext} {scope : SecretScope}
    {s t : SecretPool} (h : parts.MadeFrom ctx scope s t) (key : String) (i : Nat) :
    (parts.job c key i ctx).normalize = parts.job c key i ctx := by
  have hpath : ctx.endpoint.path ≠ "" := getD_set?_ne_empty _ (defaultPath_ne_empty _)
  have hscheme : ctx.endpoint.scheme ≠ "" := getD_set?_ne_empty _ (defaultScheme_ne_empty _)
  exact Job.normalize_eq_self_iff.mpr ⟨hpath, hscheme, normalize_of_client h.client⟩

theorem isJobOf_of_compileJob {key : String} {ctx : JobContext} {scope : SecretScope}
    {s t : SecretPool} (h : (c.compileJob key i ctx scope).run s = (.ok j, t)) :
    IsJobOf c ctx j := by
  obtain ⟨parts, hparts, rfl, k, hk⟩ := exists_parts_of_compileJob h
  exact ⟨hparts.relabeling, ⟨parts.own, hparts.own, rfl⟩, normalize_job hparts key i,
    ⟨k, mapError_eq_ok hk⟩⟩

/-- Jobs and endpoints go together in order, and each job is compiled at the place of its
endpoint. -/
theorem runs_of_compileEndpoints {key : String} {scope : SecretScope}
    {context : Endpoint → Option Port → JobContext} {s t : SecretPool} {es : List Endpoint}
    {jobs : List Job} (h : compileEndpoints c key scope context s i es = .ok (jobs, t)) :
    List.Forall₂ (fun e j => ∃ port u v, portOf e.1 = .ok port ∧
      (c.compileJob key e.2 (context e.1 port) scope).run u = (.ok j, v)) (es.zipIdx i) jobs := by
  induction es generalizing i s jobs with
  | nil =>
    cases h
    exact .nil
  | cons e rest ih =>
    unfold compileEndpoints at h
    split at h
    · cases h
    · rename_i port hport
      split at h
      · cases h
      · rename_i job u hjob
        obtain ⟨⟨jobs', v⟩, hrest, h⟩ := bind_eq_ok h
        cases h
        rw [List.zipIdx_cons]
        exact .cons ⟨port, s, u, hport, hjob⟩ (ih hrest)

theorem forall₂_of_compileEndpoints {key : String} {scope : SecretScope}
    {context : Endpoint → Option Port → JobContext} {s t : SecretPool} {es : List Endpoint}
    {jobs : List Job} (h : compileEndpoints c key scope context s i es = .ok (jobs, t)) :
    List.Forall₂ (fun e j => ∃ port, portOf e = .ok port ∧ IsJobOf c (context e port) j)
      es jobs := by
  rw [← List.zipIdx_map_fst i es, List.forall₂_map_left_iff]
  refine (runs_of_compileEndpoints h).imp ?_
  rintro ⟨e, k⟩ j ⟨port, u, v, hport, hjob⟩
  exact ⟨port, hport, isJobOf_of_compileJob hjob⟩

/-! ## Resources -/

/-- An accepted resource has a key and has passed its checks, and all its endpoints are
compiled. -/
theorem exists_runs_of_compileResource {out : Compiled} (h : c.compileResource r = .ok out) :
    ∃ p, r.key = .ok out.key ∧ c.prepare r = .ok p ∧
      compileEndpoints c out.key p.scope (p.context c r) ∅ 0 r.target.endpoints =
        .ok (out.jobs, out.secrets) := by
  unfold compileResource at h
  split at h
  · cases h
  · rename_i key hkey
    split at h
    · cases h
    · rename_i p hp
      simp only at h
      split at h
      · cases h
      · rename_i jobs secrets hjobs
        cases h
        exact ⟨p, hkey, hp, hjobs⟩

/-- What becomes of a resource that passes its own checks is up to its endpoints. -/
theorem compileResource_eq {key : String} {p : Prepared} (hkey : r.key = .ok key)
    (hp : c.prepare r = .ok p) :
    c.compileResource r =
      match compileEndpoints c key p.scope (p.context c r) ∅ 0 r.target.endpoints with
      | .error (i, cause) => .error ⟨key, some i, cause⟩
      | .ok (jobs, secrets) => .ok { key, jobs, secrets } := by
  simp only [compileResource, hkey, hp]
  rfl

theorem compileResource_of_runs {key : String} {p : Prepared} {jobs : List Job}
    {secrets : SecretPool} (hkey : r.key = .ok key) (hp : c.prepare r = .ok p)
    (h : compileEndpoints c key p.scope (p.context c r) ∅ 0 r.target.endpoints =
      .ok (jobs, secrets)) :
    c.compileResource r = .ok { key, jobs, secrets } := by
  rw [compileResource_eq hkey hp, h]

theorem exists_prepared_of_compileResource {out : Compiled}
    (h : c.compileResource r = .ok out) :
    ∃ p, c.prepare r = .ok p ∧
      List.Forall₂ (fun e j => ∃ port, portOf e = .ok port ∧ IsJobOf c (p.context c r e port) j)
        r.target.endpoints out.jobs := by
  obtain ⟨p, -, hp, hjobs⟩ := exists_runs_of_compileResource h
  exact ⟨p, hp, forall₂_of_compileEndpoints hjobs⟩

theorem isContext_of_prepare {p : Prepared} (h : c.prepare r = .ok p) {e : Endpoint}
    {port : Option Port} (hport : portOf e = .ok port) :
    IsContext c r e (p.context c r e port) := by
  unfold prepare at h
  obtain ⟨name, hname, h⟩ := bind_eq_ok h
  obtain ⟨ns, hns, h⟩ := bind_eq_ok h
  obtain ⟨metadata, hmetadata, h⟩ := bind_eq_ok h
  obtain ⟨scope, -, h⟩ := bind_eq_ok h
  obtain ⟨u, hchecked, h⟩ := bind_eq_ok h
  cases h
  exact ⟨rfl, rfl, hname, hns, hmetadata, rfl, hport, hchecked⟩

/-- A job has the rules of a context that its resource and its endpoint determine. -/
theorem Emits.exists_context (h : c.Emits r i e j) :
    ∃ ctx, IsContext c r e ctx ∧ IsJobOf c ctx j := by
  obtain ⟨out, hout, he, hj⟩ := h
  obtain ⟨p, hp, hjobs⟩ := exists_prepared_of_compileResource hout
  obtain ⟨port, hport, hjob⟩ := rel_of_getElem? hjobs he hj
  exact ⟨_, isContext_of_prepare hp hport, hjob⟩

theorem exists_emits_of_mem_compiled {out : Compiled} (h : c.compileResource r = .ok out)
    (hj : j ∈ out.jobs) : ∃ i e, c.Emits r i e j := by
  obtain ⟨p, -, hjobs⟩ := exists_prepared_of_compileResource h
  obtain ⟨i, e, he, hj⟩ := exists_getElem?_of_mem hjobs hj
  exact ⟨i, e, out, h, he, hj⟩

/-- Each endpoint of an accepted resource has a job. -/
theorem exists_emits (h : (c.compileResource r).toOption.isSome = true)
    (he : r.target.endpoints[i]? = some e) : ∃ j, c.Emits r i e j := by
  cases hout : c.compileResource r with
  | error rejection =>
    rw [hout] at h
    cases h
  | ok out =>
    obtain ⟨p, -, hjobs⟩ := exists_prepared_of_compileResource hout
    have hi : i < out.jobs.length :=
      hjobs.length_eq ▸ (List.getElem?_eq_some_iff.mp he).1
    exact ⟨out.jobs[i], out, hout, he, List.getElem?_eq_getElem hi⟩

/-! ## Batches -/

theorem enroll_of_error {rejection : Rejection} (h : c.compileResource r = .error rejection)
    (names : Registry) : c.enroll names r = .error rejection := by
  rw [enroll, h]
  rfl

/-- Once a resource is compiled, only the names of its jobs decide. -/
theorem enroll_of_ok {out : Compiled} (h : c.compileResource r = .ok out) (names : Registry) :
    c.enroll names r =
      (names.register out.key (out.jobs.map (·.name))).map fun names' => (out, names') := by
  rw [enroll, h]
  change (names.register out.key (out.jobs.map (·.name)) >>= fun names' => pure (out, names')) = _
  cases names.register out.key (out.jobs.map (·.name)) <;> rfl

/-- A resource is accepted if it compiles and its names are registered. -/
theorem enroll_eq_ok {names names' : Registry} {out : Compiled}
    (h : c.enroll names r = .ok (out, names')) :
    c.compileResource r = .ok out ∧
      names.register out.key (out.jobs.map (·.name)) = .ok names' := by
  obtain ⟨out', hout, h⟩ := bind_eq_ok h
  obtain ⟨names'', hnames, h⟩ := bind_eq_ok h
  cases h
  exact ⟨hout, hnames⟩

theorem mem_jobs_addResource {acc : Batch × Registry} (h : j ∈ (c.addResource acc r).1.jobs) :
    j ∈ acc.1.jobs ∨ ∃ i e, c.Emits r i e j := by
  unfold addResource at h
  simp only at h
  split at h
  · rename_i compiled names henroll
    obtain ⟨hout, -⟩ := enroll_eq_ok henroll
    rcases List.mem_append.mp h with h | h
    · exact .inl h
    · exact .inr (exists_emits_of_mem_compiled hout h)
  · exact .inl h

theorem exists_emits_of_mem_foldl {rs : List Resource} {acc : Batch × Registry}
    (h : j ∈ (rs.foldl c.addResource acc).1.jobs) :
    j ∈ acc.1.jobs ∨ ∃ r ∈ rs, ∃ i e, c.Emits r i e j := by
  induction rs generalizing acc with
  | nil => exact .inl h
  | cons r rest ih =>
    rcases ih h with h | ⟨s, hs, h⟩
    · rcases mem_jobs_addResource h with h | h
      · exact .inl h
      · exact .inr ⟨r, List.mem_cons_self, h⟩
    · exact .inr ⟨s, List.mem_cons_of_mem _ hs, h⟩

/-- Every job of a batch is the one of some endpoint of an accepted resource. -/
theorem exists_emits_of_mem_jobs {rs : List Resource} (h : j ∈ (c.compile rs).jobs) :
    ∃ r ∈ rs, ∃ i e, c.Emits r i e j := by
  rcases exists_emits_of_mem_foldl h with h | h
  · cases h
  · exact h

end Compiler

/-! ## A sample -/

namespace Sample

/-- A platform whose project has a dollar sign in its name. -/
def platform : Platform where
  projectId := "acme$1"
  location := "eu-west1"
  cluster := "prod"
  metricRelabeling := [{ regex := some "tmp_.*", action := some .labelDrop }]

/-- The compiler for the platform. -/
def compiler : Compiler where
  platform := platform
  metricRules := [.labelDrop "tmp_.*"]

/-- The endpoint at a port by its name. -/
def named : PodEndpoint := { port := some (.name "http-metrics"), settings := .every "30s" }

/-- The endpoint at a port by its number. -/
def numeric : PodEndpoint := { port := some (.number 8080), settings := .every "30s" }

/-- A selector whose value has a character with a meaning in patterns. -/
def selector : Selector where
  matchLabels := .ofList [("app", "web+")]
  requirements := [⟨"tier", .isIn, ["front", "back"]⟩]

/-- A resource with both endpoints for pods of the namespace `shop.a`. -/
def resource : Resource where
  metadata := { name := some "web", inNamespace := some "shop.a" }
  target := .pod {
    selector
    endpoints := [named, numeric]
    targetLabels := { metadata := some ["pod", "container"], fromPod := [{ source := "app" }] } }

theorem new_platform : Compiler.new platform = .ok compiler := by
  have h : Protected.accept platform.metricRelabeling = .ok compiler.metricRules := by
    decide
  rw [Compiler.new, h]
  rfl

theorem jobs_ne_nil : (compiler.compile [resource]).jobs ≠ [] := by
  decide +kernel

theorem isSome_compileResource :
    (compiler.compileResource resource).toOption.isSome = true := by
  obtain ⟨j, hj⟩ := List.exists_mem_of_ne_nil _ jobs_ne_nil
  obtain ⟨r, hr, i, e, out, hout, -⟩ := Compiler.exists_emits_of_mem_jobs hj
  obtain rfl := List.mem_singleton.mp hr
  rw [hout]
  rfl

end Sample

end ScrapeJobs
