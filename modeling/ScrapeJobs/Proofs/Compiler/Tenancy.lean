import ScrapeJobs.Proofs.Compiler.Secrets

/-!
# Secrets stay in their namespaces

A resource of a namespace resolves its references within that namespace, so a reference to another
one keeps it from compiling (`Compiler.not_trespasses_of_compileResource`). Each entry in the pool
of a batch comes from a reference of an accepted resource, and if that has a namespace, the entry
is of this namespace. A resource that refers to another namespace leaves no job and no secret
(`Compiler.secrets_within_namespaces`).
-/

namespace ScrapeJobs

open Outcome Http

/-! ## Scopes -/

variable {scope : SecretScope} {ref : SecretRef} {k : SecretKey} {ns : String}

/-- A reference means the key that it names, in the namespace that the scope allows. -/
theorem SecretRef.of_resolve (h : ref.resolve scope = .ok k) :
    scope.resolve ref = .ok k.inNamespace ∧ k.name = ref.name ∧ k.key = ref.key := by
  obtain ⟨ns, hns, h⟩ := bind_eq_ok h
  cases h
  exact ⟨hns, rfl, rfl⟩

/-- Within a namespace a reference means that namespace, and it names no other one. -/
theorem SecretScope.of_resolve_own {found : String}
    (h : (SecretScope.own ns).resolve ref = .ok found) :
    found = ns ∧ ∀ requested, ref.inNamespace = some requested → requested ≠ "" →
      requested = ns := by
  unfold resolve at h
  cases hfilter : ref.inNamespace.filter (· ≠ "") with
  | none =>
    rw [hfilter] at h
    cases h
    refine ⟨rfl, fun requested hrequested hset => ?_⟩
    rw [hrequested] at hfilter
    simp [hset] at hfilter
  | some other =>
    rw [hfilter] at h
    simp only at h
    split at h
    · rename_i hown
      cases h
      refine ⟨rfl, fun requested hrequested hset => ?_⟩
      have hother : some requested = some other := by
        rw [← hrequested]
        exact (Option.filter_eq_some_iff.mp hfilter).1
      exact (Option.some.inj hother).trans hown
    · cases h

namespace Resource

variable {r : Resource}

/-- A resource of a namespace may refer to secrets of that namespace only. -/
theorem exists_own_of_secretScope {default : String} (hkind : r.kind.isNamespaced = true)
    (h : r.secretScope default = .ok scope) :
    ∃ ns, r.metadata.inNamespace = some ns ∧ scope = .own ns := by
  obtain ⟨ns?, hns, h⟩ := bind_eq_ok h
  unfold namespace? at hns
  rw [if_pos hkind] at hns
  split at hns
  · rename_i ns hfilter
    cases hns
    cases h
    exact ⟨ns, (Option.filter_eq_some_iff.mp hfilter).1, rfl⟩
  · cases hns

/-- The resource has a namespace, and in some field of an endpoint it refers to a secret of another
one. -/
def Trespasses (r : Resource) : Prop :=
  r.kind.isNamespaced = true ∧
    ∃ e ∈ r.target.endpoints, ∃ f ref requested, e.settings.http.secret? f = some ref ∧
      ref.inNamespace = some requested ∧ requested ≠ "" ∧
      r.metadata.inNamespace ≠ some requested

end Resource

namespace Compiler

variable {c : Compiler} {r : Resource} {rs : List Resource} {i : Nat} {out : Compiled}

/-- A resource that compiles resolves all its references, so it refers to no other namespace. -/
theorem not_trespasses_of_compileResource (h : c.compileResource r = .ok out) :
    ¬ r.Trespasses := by
  rintro ⟨hkind, e, he, f, ref, requested, href, hrequested, hset, hother⟩
  obtain ⟨scope, hscope, hjobs, -⟩ := supplies_of_compileResource h
  obtain ⟨ns, hns, rfl⟩ := Resource.exists_own_of_secretScope hkind hscope
  obtain ⟨n, hn⟩ := List.mem_iff_getElem?.mp he
  obtain ⟨j, -, hsupplies⟩ := exists_rel_of_getElem? hjobs hn
  obtain ⟨k, hk, -⟩ := (hsupplies f).exists_key href
  obtain ⟨hresolve, -⟩ := SecretRef.of_resolve hk
  obtain ⟨-, hsame⟩ := SecretScope.of_resolve_own hresolve
  rw [hsame requested hrequested hset] at hother
  exact hother hns

/-- A rejected resource can be left out of a batch without a change of its jobs and secrets. -/
theorem exists_rejection_of_not_compiled (hr : rs[i]? = some r)
    (h : ∀ out, c.compileResource r ≠ .ok out) :
    ∃ rejection, (c.outcomes {} rs)[i]? = some (.error rejection) ∧
      rejection ∈ (c.compile rs).rejections ∧
      (c.compile (rs.eraseIdx i)).jobs = (c.compile rs).jobs ∧
      (c.compile (rs.eraseIdx i)).secrets = (c.compile rs).secrets := by
  obtain ⟨o, ho, haccounts⟩ := exists_rel_of_getElem? (forall₂_accounts_outcomes c rs) hr
  cases o with
  | ok out => exact (h out haccounts.compiled).elim
  | error rejection =>
    have herase := outcomes_eraseIdx ho
    obtain ⟨haccepted, -, -⟩ := accepted_eraseIdx ho
    refine ⟨rejection, ho, ?_, ?_, ?_⟩
    · rw [rejections_compile]
      exact List.mem_filterMap.mpr ⟨_, List.mem_of_getElem? ho, rfl⟩
    · rw [jobs_compile, jobs_compile, herase, haccepted]
    · rw [secrets_compile, secrets_compile, herase, haccepted]

/-- Each entry in the pool of a batch is the secret key that a reference of an accepted resource
means. If the resource has a namespace, so has the entry, and it is the same. A resource that
refers to a secret of another namespace is rejected, and the batch has the same jobs and secrets
without it. -/
theorem secrets_within_namespaces (c : Compiler) (rs : List Resource) :
    (∀ token k, (c.compile rs).secrets.get? token = some k →
      ∃ i r out, c.Accepts rs i r out ∧
        (∃ scope, r.secretScope c.platform.secretNamespace = .ok scope ∧
          ∃ e ∈ r.target.endpoints, ∃ f ref, e.settings.http.secret? f = some ref ∧
            ref.resolve scope = .ok k ∧ k.token = token) ∧
        (r.kind.isNamespaced = true → r.metadata.inNamespace = some k.inNamespace)) ∧
    ∀ i r, rs[i]? = some r → r.Trespasses →
      ∃ rejection, (c.outcomes {} rs)[i]? = some (.error rejection) ∧
        rejection ∈ (c.compile rs).rejections ∧
        (c.compile (rs.eraseIdx i)).jobs = (c.compile rs).jobs ∧
        (c.compile (rs.eraseIdx i)).secrets = (c.compile rs).secrets := by
  constructor
  · intro token k hk
    rw [secrets_compile_eq] at hk
    obtain ⟨hmem, htoken⟩ := SecretPool.mem_of_get?_ofKeys hk
    obtain ⟨i, r, out, haccepts, hkey⟩ := mem_referenced_iff.mp hmem
    obtain ⟨scope, hscope, e, he, f, ref, href, hresolve⟩ := mem_secretKeys_iff.mp hkey
    refine ⟨i, r, out, haccepts, ⟨scope, hscope, e, he, f, ref, href, hresolve, htoken⟩, ?_⟩
    intro hkind
    obtain ⟨ns, hns, rfl⟩ := Resource.exists_own_of_secretScope hkind hscope
    obtain ⟨hown, -⟩ := SecretRef.of_resolve hresolve
    obtain ⟨hsame, -⟩ := SecretScope.of_resolve_own hown
    rw [hns, hsame]
  · intro i r hr htrespasses
    exact exists_rejection_of_not_compiled hr fun out hout =>
      not_trespasses_of_compileResource hout htrespasses

end Compiler

namespace Sample

/-- A probe of the namespace `shop` that refers to a secret of the namespace `bank` in the settings
for its tokens. -/
def foreign : Resource where
  metadata := { name := some "front", inNamespace := some "shop" }
  target := .probe {
    prober := "prober:9115"
    targets := ["https://shop.example"]
    modules := [{ name := "http", settings := { interval := some "30s", http := {
      oauth2 := some {
        clientId := "probe", tokenUrl := "https://id.example/token"
        tls := some { ca := some ⟨"id", "ca.crt", some "bank"⟩ } } } } }] }

theorem trespasses_foreign : foreign.Trespasses :=
  ⟨rfl, _, List.mem_singleton_self _, .tokenCa, ⟨"id", "ca.crt", some "bank"⟩, "bank", rfl, rfl,
    by decide, by decide⟩

/-- The probe leaves nothing in a batch, and a secret in the batch belongs to the namespace of a
resource that refers to it. -/
theorem nothing_of_foreign :
    foreign.Trespasses ∧
      (compiler.compile [foreign, guarded]).secrets.get? "shop/scrape/token" =
        some ⟨"shop", "scrape", "token"⟩ ∧
      (∃ i r out, compiler.Accepts [foreign, guarded] i r out ∧
        (r.kind.isNamespaced = true → r.metadata.inNamespace = some "shop")) ∧
      (compiler.compile [guarded]).secrets = (compiler.compile [foreign, guarded]).secrets ∧
      (compiler.compile [foreign, guarded]).rejections = [⟨"ProbeMonitoring/shop/front", some 0,
        .tenancy ⟨"id", "shop", "bank"⟩⟩] := by
  obtain ⟨hfound, hrejections⟩ :
      (compiler.compile [foreign, guarded]).secrets.get? "shop/scrape/token" =
          some ⟨"shop", "scrape", "token"⟩ ∧
        (compiler.compile [foreign, guarded]).rejections = [⟨"ProbeMonitoring/shop/front", some 0,
          .tenancy ⟨"id", "shop", "bank"⟩⟩] := by
    decide +kernel
  obtain ⟨hentries, htrespassers⟩ :=
    Compiler.secrets_within_namespaces compiler [foreign, guarded]
  obtain ⟨i, r, out, haccepts, -, hnamespace⟩ := hentries _ _ hfound
  obtain ⟨-, -, -, -, hsecrets⟩ := htrespassers 0 foreign rfl trespasses_foreign
  exact ⟨trespasses_foreign, hfound, ⟨i, r, out, haccepts, hnamespace⟩, hsecrets, hrejections⟩

end Sample

end ScrapeJobs
