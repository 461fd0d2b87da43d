import ScrapeJobs.Proofs.Compiler.Duplicates
import ScrapeJobs.Proofs.Compiler.Times

/-!
# Where errors point

Each rejection of a batch is about the resource at its own place and points at the entry of it that
has to be mended (`Rejection.PointsAt`): it has the key of the resource, as far as there is one, and
the place of an endpoint only where there is an endpoint. The field of the reported failure is found
by the key alone, from the kind that it begins with, and this is the list that the resource has
(`Rejection.endpointsField_of_key`). An error about a name comes from the registry and is for the
endpoint whose job has the name. `Compiler.rejections_point_at_entries` puts the sources together.
-/

namespace ScrapeJobs

open Outcome

variable {c : Compiler} {r : Resource} {rs : List Resource} {rejection : Rejection} {key : String}

/-! ## Keys -/

namespace Resource

/-- The resource has what its key is made of: a name and, if its kind lives in a namespace, a
namespace. Empty texts do not count. -/
def IsPlaced (r : Resource) : Prop :=
  (∃ n ∈ r.metadata.name, n ≠ "") ∧
    (r.kind.isNamespaced = true → ∃ ns ∈ r.metadata.inNamespace, ns ≠ "")

theorem isSome_filter_iff (s : Option String) :
    (s.filter (· ≠ "")).isSome = true ↔ ∃ t ∈ s, t ≠ "" := by
  cases s <;> simp

theorem exists_name_iff (r : Resource) :
    (∃ n, r.name = .ok n) ↔ ∃ n ∈ r.metadata.name, n ≠ "" := by
  rw [← isSome_filter_iff, name]
  cases r.metadata.name.filter (· ≠ "") <;> simp

theorem exists_namespace?_iff (r : Resource) :
    (∃ ns, r.namespace? = .ok ns) ↔
      (r.kind.isNamespaced = true → ∃ ns ∈ r.metadata.inNamespace, ns ≠ "") := by
  rw [← isSome_filter_iff, namespace?]
  by_cases hkind : r.kind.isNamespaced = true
  · rw [if_pos hkind]
    cases r.metadata.inNamespace.filter (· ≠ "") <;> simp [hkind]
  · simp [hkind]

theorem exists_key_iff (r : Resource) : (∃ key, r.key = .ok key) ↔ r.IsPlaced := by
  unfold IsPlaced
  rw [← exists_name_iff, ← exists_namespace?_iff]
  constructor
  · rintro ⟨key, h⟩
    obtain ⟨name, hname, h⟩ := bind_eq_ok h
    obtain ⟨ns, hns, -⟩ := bind_eq_ok h
    exact ⟨⟨name, hname⟩, ns, hns⟩
  · rintro ⟨⟨name, hname⟩, ns, hns⟩
    unfold key
    rw [hname, ok_bind, hns, ok_bind]
    cases ns <;> exact ⟨_, rfl⟩

/-- A key begins with the kind of its resource. -/
theorem exists_rest_of_key (h : r.key = .ok key) :
    ∃ rest, key.toList = r.kind.name.toList ++ '/' :: rest := by
  obtain ⟨name, -, h⟩ := bind_eq_ok h
  obtain ⟨ns, -, h⟩ := bind_eq_ok h
  cases ns <;> cases h <;> simp

end Resource

namespace Rejection

/-- The kind in a key tells which field has the endpoints. -/
theorem endpointsField_of_key (h : r.key = .ok key) :
    endpointsField key = r.target.endpointsField := by
  obtain ⟨rest, hrest⟩ := Resource.exists_rest_of_key h
  have hprobe : key.startsWith "ProbeMonitoring/" = true ↔ r.kind = .probe := by
    have hname : "ProbeMonitoring/".toList = Kind.probe.name.toList ++ ['/'] := by decide
    rw [String.startsWith_string_iff, hrest, hname]
    constructor
    · rintro ⟨tail, htail⟩
      rw [List.append_assoc, List.singleton_append] at htail
      obtain ⟨hkind, -⟩ := append_slash_inj Kind.probe.slash_not_mem_name
        r.kind.slash_not_mem_name htail
      exact (Kind.name_injective (String.toList_inj.mp hkind)).symm
    · intro hkind
      rw [hkind]
      exact ⟨rest, by rw [List.append_assoc, List.singleton_append]⟩
  unfold endpointsField
  simp only [hprobe, Resource.kind]
  cases r.target <;> rfl

/-! ## Single rejections -/

/-- The rejection is about the resource and points at an entry of it. -/
structure PointsAt (c : Compiler) (r : Resource) (rejection : Rejection) : Prop where
  /-- It has the key of the resource, or its kind if there is no key. -/
  resource : r.IsPlaced ∧ r.key = .ok rejection.resource ∨
    ¬ r.IsPlaced ∧ rejection.resource = r.kind.name ∧ rejection.endpoint = none
  endpoint : ∀ i, rejection.endpoint = some i → i < r.target.endpoints.length
  /-- It is reported with the field of the resource that has the endpoint. -/
  failure : rejection.toFailure = .validation rejection.resource rejection.cause.message
    (rejection.endpoint.map fun i =>
      "spec." ++ r.target.endpointsField ++ "[" ++ toString i ++ "]")
  /-- A name that is taken is the one of the endpoint's job. -/
  duplicate : ∀ name first second, rejection.cause = .duplicateJob name first second →
    ∃ i e j, rejection.endpoint = some i ∧ c.Emits r i e j ∧ j.name = name ∧
      name = rejection.resource ++ "/" ++ e.suffix i

theorem toFailure_of_key (h : r.key = .ok rejection.resource) :
    rejection.toFailure = .validation rejection.resource rejection.cause.message
      (rejection.endpoint.map fun i =>
        "spec." ++ r.target.endpointsField ++ "[" ++ toString i ++ "]") := by
  rw [toFailure, endpointsField_of_key h]

theorem toFailure_of_endpoint_eq_none {field : Nat → String} (h : rejection.endpoint = none) :
    rejection.toFailure =
      .validation rejection.resource rejection.cause.message (rejection.endpoint.map field) := by
  rw [toFailure, h]
  rfl

end Rejection

namespace Compiler

open Rejection

/-- An error of a resource's own is for the whole of it or for one of its endpoints. -/
theorem pointsAt_of_compileResource (h : c.compileResource r = .error rejection) :
    PointsAt c r rejection := by
  have hduplicate : ∀ name first second, rejection.cause = .duplicateJob name first second →
      ∃ i e j, rejection.endpoint = some i ∧ c.Emits r i e j ∧ j.name = name ∧
        name = rejection.resource ++ "/" ++ e.suffix i :=
    fun name first second hcause => (isOwn_of_compileResource h name first second hcause).elim
  unfold compileResource at h
  split at h
  · rename_i cause hkey
    cases h
    have hplaced : ¬ r.IsPlaced := by
      rw [← r.exists_key_iff, hkey]
      rintro ⟨key, hok⟩
      cases hok
    exact ⟨.inr ⟨hplaced, rfl, rfl⟩, nofun, toFailure_of_endpoint_eq_none rfl, hduplicate⟩
  · rename_i key hkey
    have hplaced : r.IsPlaced := r.exists_key_iff.mp ⟨key, hkey⟩
    split at h
    · cases h
      exact ⟨.inl ⟨hplaced, hkey⟩, nofun, toFailure_of_key hkey, hduplicate⟩
    · simp only at h
      split at h
      · rename_i i cause hfailure
        cases h
        have hplace := (c.fails_place _ _ _ _ 0 _ _ hfailure).2
        refine ⟨.inl ⟨hplaced, hkey⟩, ?_, toFailure_of_key hkey, hduplicate⟩
        rintro k ⟨⟩
        rw [Nat.zero_add] at hplace
        exact hplace
      · cases h

/-- An error about a name is for the endpoint whose job has it. -/
theorem pointsAt_of_duplicate {out : Compiled} {before after : List Job} {j : Job}
    {first second : Nat} (h : c.compileResource r = .ok out)
    (hjobs : out.jobs = before ++ j :: after) :
    PointsAt c r ⟨out.key, some before.length, .duplicateJob j.name first second⟩ := by
  have hcomplete := isComplete_of_compileResource h
  have hlength : before.length < r.target.endpoints.length := by
    rw [hcomplete.jobs.length_eq, hjobs, List.length_append, List.length_cons]
    omega
  have hj : out.jobs[before.length]? = some j := by
    rw [hjobs, List.getElem?_append_right (Nat.le_refl _), Nat.sub_self]
    rfl
  have he := List.getElem?_eq_getElem hlength
  have hname : j.name = out.key ++ "/" ++
      (r.target.endpoints[before.length]).suffix before.length := by
    have hnames := congrArg (·[before.length]?) hcomplete.names
    simpa [hj, he] using hnames
  refine ⟨.inl ⟨r.exists_key_iff.mp ⟨_, hcomplete.key⟩, hcomplete.key⟩, ?_,
    toFailure_of_key hcomplete.key, ?_⟩
  · rintro k ⟨⟩
    exact hlength
  · rintro name first second ⟨⟩
    exact ⟨_, _, j, rfl, ⟨out, h, he, hj⟩, rfl, hname⟩

/-- The rejections of a batch are those of its resources in order, and each of them points at an
entry of its own resource. It has the key of the resource, or the bare kind if the name or the
namespace is missing; its place, if it has one, is the one of an endpoint; and it is reported with
the field of the resource that has the endpoint at this place. If it is about a name that is taken,
the endpoint is one whose job has this name. -/
theorem rejections_point_at_entries (c : Compiler) (rs : List Resource) :
    (c.compile rs).rejections = rejected (c.outcomes {} rs) ∧
      List.Forall₂ (fun r o => ∀ rejection, o = .error rejection → PointsAt c r rejection) rs
        (c.outcomes {} rs) := by
  refine ⟨rejections_compile c rs, (forall₂_accounts_outcomes c rs).imp ?_⟩
  rintro r o haccounts rejection rfl
  rcases haccounts with hown | ⟨out, before, j, after, first, second, hout, hjobs, -, rfl⟩
  · exact pointsAt_of_compileResource hown
  · exact pointsAt_of_duplicate hout hjobs

end Compiler

end ScrapeJobs
