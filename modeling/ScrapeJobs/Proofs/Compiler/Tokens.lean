import ScrapeJobs.Proofs.Compiler.Secrets

/-!
# What tokens stand for

A token is the namespace, the name and the key of a secret with slashes between them, and nothing
keeps slashes out of these texts. A key whose texts have no slash shares its token with no other
key (`SecretKey.eq_of_token_eq`), but keys whose texts have slashes may share one, and of these a
pool keeps the first. So a look-up of a token in the pool of a batch gives the first key that is
referred to and has the token. It gives the key that is meant if that has no slashes, and always
exactly if different keys have different tokens (`Compiler.get?_secrets_of_token`).
-/

namespace ScrapeJobs

open Outcome Http

/-! ## Tokens -/

namespace SecretKey

variable {k k' : SecretKey}

/-- No slash stands in the texts of the key. -/
def IsSlashFree (k : SecretKey) : Prop :=
  '/' ∉ k.inNamespace.toList ∧ '/' ∉ k.name.toList ∧ '/' ∉ k.key.toList

instance (k : SecretKey) : Decidable k.IsSlashFree := inferInstanceAs (Decidable (_ ∧ _ ∧ _))

theorem toList_token (k : SecretKey) :
    k.token.toList = k.inNamespace.toList ++ '/' :: (k.name.toList ++ '/' :: k.key.toList) := by
  simp [token]

/-- The texts have the slashes of the token but for two. -/
theorem count_token (k : SecretKey) :
    k.token.toList.count '/' = k.inNamespace.toList.count '/' + k.name.toList.count '/' +
      k.key.toList.count '/' + 2 := by
  rw [toList_token]
  simp only [List.count_append, List.count_cons_self]
  omega

theorem isSlashFree_iff_count : k.IsSlashFree ↔ k.token.toList.count '/' = 2 := by
  have hcount := k.count_token
  unfold IsSlashFree
  rw [← List.count_eq_zero, ← List.count_eq_zero, ← List.count_eq_zero]
  omega

/-- A key without slashes shares its token with no other key. -/
theorem eq_of_token_eq (h : k.IsSlashFree) (htoken : k'.token = k.token) : k' = k := by
  have h' : k'.IsSlashFree := by
    rw [isSlashFree_iff_count] at h ⊢
    rw [htoken]
    exact h
  have hlist := congrArg String.toList htoken
  rw [toList_token, toList_token] at hlist
  obtain ⟨hnamespace, hrest⟩ := append_slash_inj h'.1 h.1 hlist
  obtain ⟨hname, hkey⟩ := append_slash_inj h'.2.1 h.2.1 hrest
  obtain ⟨ns, name, key⟩ := k
  obtain ⟨ns', name', key'⟩ := k'
  obtain rfl : ns' = ns := String.toList_inj.mp hnamespace
  obtain rfl : name' = name := String.toList_inj.mp hname
  obtain rfl : key' = key := String.toList_inj.mp hkey
  rfl

/-- Different keys of the list have different tokens. -/
def AreTold (ks : List SecretKey) : Prop := ∀ k ∈ ks, ∀ k' ∈ ks, k'.token = k.token → k' = k

theorem areTold_of_isSlashFree {ks : List SecretKey} (h : ∀ k ∈ ks, k.IsSlashFree) : AreTold ks :=
  fun k hk _ _ htoken => eq_of_token_eq (h k hk) htoken

end SecretKey

/-! ## Pools -/

namespace SecretPool

variable {ks ks' : List SecretKey} {k : SecretKey}

/-- A key is found under its token if no other key has the token. -/
theorem get?_ofKeys_of_unique (hk : k ∈ ks) (h : ∀ k' ∈ ks, k'.token = k.token → k' = k) :
    (ofKeys ks).get? k.token = some k := by
  obtain ⟨first, hfirst⟩ := Dict.mem_keys_iff.mp (mem_keys_ofKeys_iff.mpr ⟨k, hk, rfl⟩)
  obtain ⟨hmem, htoken⟩ := mem_of_get?_ofKeys hfirst
  rw [hfirst, h first hmem htoken]

/-- All keys are found under their tokens exactly if the tokens tell them apart. -/
theorem forall_get?_ofKeys_iff :
    (∀ k ∈ ks, (ofKeys ks).get? k.token = some k) ↔ SecretKey.AreTold ks := by
  constructor
  · intro h k hk k' hk' htoken
    have hsame := h k' hk'
    rw [htoken, h k hk] at hsame
    exact (Option.some.inj hsame).symm
  · intro h k hk
    exact get?_ofKeys_of_unique hk (h k hk)

/-- Keys that their tokens tell apart make the same pool in every order. -/
theorem ofKeys_eq_of_perm (h : SecretKey.AreTold ks) (hperm : ks.Perm ks') :
    ofKeys ks' = ofKeys ks := by
  refine Dict.ext_get? fun t => ?_
  cases hfound : (ofKeys ks').get? t with
  | some k =>
    obtain ⟨hk', rfl⟩ := mem_of_get?_ofKeys hfound
    have hk : k ∈ ks := hperm.mem_iff.mpr hk'
    exact (get?_ofKeys_of_unique hk (h k hk)).symm
  | none =>
    cases hfirst : (ofKeys ks).get? t with
    | none => rfl
    | some k =>
      obtain ⟨hk, htoken⟩ := mem_of_get?_ofKeys hfirst
      have hkeys : t ∈ (ofKeys ks').keys :=
        mem_keys_ofKeys_iff.mpr ⟨k, hperm.mem_iff.mp hk, htoken⟩
      obtain ⟨k', hk'⟩ := Dict.mem_keys_iff.mp hkeys
      cases hfound.symm.trans hk'

end SecretPool

namespace Compiler

variable {c : Compiler} {r : Resource} {rs rs' : List Resource} {i : Nat} {out : Compiled}

/-! ## Batches -/

/-- For a reference of an accepted resource, the job of its endpoint has the token of the key that
is meant, which is one of the keys of the batch. -/
theorem Accepts.exists_token (h : c.Accepts rs i r out) {n : Nat} {e : Endpoint} {f : SecretField}
    {ref : SecretRef} (he : r.target.endpoints[n]? = some e)
    (href : e.settings.http.secret? f = some ref) :
    ∃ j scope k, out.jobs[n]? = some j ∧ j ∈ (c.compile rs).jobs ∧
      r.secretScope c.platform.secretNamespace = .ok scope ∧ ref.resolve scope = .ok k ∧
      (j.client.source f).ref = k.token ∧ k ∈ c.referenced rs := by
  obtain ⟨scope, hscope, hjobs, -⟩ := supplies_of_compileResource h.isComplete.compiled
  obtain ⟨j, hj, hsupplies⟩ := exists_rel_of_getElem? hjobs he
  obtain ⟨k, hk, hsource⟩ := (hsupplies f).exists_key href
  have hkey : k ∈ c.secretKeys r :=
    mem_secretKeys_iff.mpr ⟨scope, hscope, e, List.mem_of_getElem? he, f, ref, href, hk⟩
  have hmem : j ∈ (c.compile rs).jobs :=
    mem_jobs_iff.mpr ⟨i, r, out, h, List.mem_of_getElem? hj⟩
  exact ⟨j, scope, k, hj, hmem, hscope, hk, hsource, mem_referenced_iff.mpr ⟨i, r, out, h, hkey⟩⟩

/-- For a reference of an accepted resource, the job of its endpoint has the token of the key that
is meant. A look-up of the token in the pool of the batch gives the first key of the batch that has
it, and this is the key that is meant if that has no slashes. The look-ups give all keys that are
meant exactly if different keys have different tokens, as keys without slashes do, and then the
order in which pools are merged does not count. -/
theorem get?_secrets_of_token (c : Compiler) (rs : List Resource) :
    (∀ (i n : Nat) (r : Resource) (out : Compiled) (e : Endpoint) (f : SecretField)
      (ref : SecretRef), c.Accepts rs i r out → r.target.endpoints[n]? = some e →
      e.settings.http.secret? f = some ref →
      ∃ j scope k, out.jobs[n]? = some j ∧ j ∈ (c.compile rs).jobs ∧
        r.secretScope c.platform.secretNamespace = .ok scope ∧ ref.resolve scope = .ok k ∧
        (j.client.source f).ref = k.token ∧
        (∃ first ∈ c.referenced rs, first.token = k.token ∧
          (c.referenced rs).find? (·.token = k.token) = some first ∧
          (c.compile rs).secrets.get? k.token = some first) ∧
        (k.IsSlashFree → (c.compile rs).secrets.get? k.token = some k)) ∧
    ((∀ k ∈ c.referenced rs, (c.compile rs).secrets.get? k.token = some k) ↔
      SecretKey.AreTold (c.referenced rs)) ∧
    ((∀ k ∈ c.referenced rs, k.IsSlashFree) → SecretKey.AreTold (c.referenced rs)) ∧
    ∀ rs', SecretKey.AreTold (c.referenced rs) → (c.referenced rs).Perm (c.referenced rs') →
      (c.compile rs').secrets = (c.compile rs).secrets := by
  have hsecrets := secrets_compile_eq c rs
  refine ⟨?_, ?_, SecretKey.areTold_of_isSlashFree, ?_⟩
  · intro i n r out e f ref haccepts he href
    obtain ⟨j, scope, k, hj, hmem, hscope, hk, hsource, hkey⟩ := haccepts.exists_token he href
    refine ⟨j, scope, k, hj, hmem, hscope, hk, hsource, ?_, ?_⟩
    · rw [hsecrets]
      obtain ⟨first, hfirst⟩ :=
        Dict.mem_keys_iff.mp (SecretPool.mem_keys_ofKeys_iff.mpr ⟨k, hkey, rfl⟩)
      obtain ⟨hfirstMem, htoken⟩ := SecretPool.mem_of_get?_ofKeys hfirst
      exact ⟨first, hfirstMem, htoken, (SecretPool.get?_ofKeys _ _).symm.trans hfirst, hfirst⟩
    · intro hslash
      rw [hsecrets]
      exact SecretPool.get?_ofKeys_of_unique hkey fun k' _ => SecretKey.eq_of_token_eq hslash
  · rw [hsecrets]
    exact SecretPool.forall_get?_ofKeys_iff
  · intro rs' htold hperm
    rw [hsecrets, secrets_compile_eq]
    exact SecretPool.ofKeys_eq_of_perm htold hperm

end Compiler

namespace Sample

/-- A resource that refers to two secrets whose texts have slashes at different places. -/
def overlapping : Resource where
  metadata := { name := some "web", inNamespace := some "shop" }
  target := .pod { endpoints := [{
    port := some (.name "http")
    settings := { interval := some "30s", http := {
      authorization := some { credentials := some ⟨"db/read", "token", none⟩ }
      tls := some { ca := some ⟨"db", "read/token", none⟩ } } } }] }

theorem exists_accepts_overlapping :
    ∃ out, compiler.Accepts [overlapping] 0 overlapping out ∧
      compiler.referenced [overlapping] =
        [⟨"shop", "db/read", "token"⟩, ⟨"shop", "db", "read/token"⟩] := by
  have hout : (compiler.enroll {} overlapping).toOption.isSome = true := by decide +kernel
  obtain ⟨⟨out, names⟩, henroll⟩ := Option.isSome_iff_exists.mp hout
  have houtcomes := Compiler.outcomes_of_ok (eq_ok_of_toOption henroll) []
  refine ⟨out, ⟨rfl, ?_⟩, ?_⟩
  · rw [houtcomes]
    rfl
  · rw [Compiler.referenced, houtcomes]
    rfl

/-- The authority of the resource is looked up and its credentials are found. -/
theorem credentials_for_ca :
    ∃ out, compiler.Accepts [overlapping] 0 overlapping out ∧
      ∃ j ∈ (compiler.compile [overlapping]).jobs,
        (⟨"db", "read/token", none⟩ : SecretRef).resolve (.own "shop") =
          .ok ⟨"shop", "db", "read/token"⟩ ∧
        (j.client.source .ca).ref = "shop/db/read/token" ∧
        (compiler.compile [overlapping]).secrets.get? "shop/db/read/token" =
          some ⟨"shop", "db/read", "token"⟩ := by
  obtain ⟨out, haccepts, hreferenced⟩ := exists_accepts_overlapping
  obtain ⟨hrefs, -⟩ := Compiler.get?_secrets_of_token compiler [overlapping]
  obtain ⟨j, scope, k, -, hj, hscope, hk, hsource, ⟨first, -, -, hfirst, hfound⟩, -⟩ :=
    hrefs 0 0 overlapping out _ .ca ⟨"db", "read/token", none⟩ haccepts rfl rfl
  have hown : overlapping.secretScope compiler.platform.secretNamespace = .ok (.own "shop") := rfl
  cases hown.symm.trans hscope
  cases hk
  rw [hreferenced] at hfirst
  obtain rfl : (⟨"shop", "db/read", "token"⟩ : SecretKey) = first := Option.some.inj hfirst
  exact ⟨out, haccepts, j, hj, rfl, hsource, hfound⟩

end Sample

end ScrapeJobs
