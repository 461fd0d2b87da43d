import ScrapeJobs.Proofs.Compiler.Emits

/-!
# Names of jobs

The job of an endpoint is named after the key of its resource and after its port, by name or by
number, or else after its place (`Compiler.names_of_compileResource`). A key begins with the kind,
the namespace and the name of its resource, each before a slash. So where these have no slashes,
resources that share a name of a job are the same in all three (`Compiler.identity_eq_of_name_eq`),
whatever their ports are called.
-/

namespace ScrapeJobs

open Outcome

/-! ## Ports and places -/

/-- What tells the jobs of a resource apart: the port of an endpoint as it is written, or else
its place. -/
def Endpoint.suffix (i : Nat) : Endpoint → String
  | pod e =>
    match e.port with
    | some (.name s) => s
    | some (.number n) => toString n.toInt
    | none => toString i
  | node _ | probe _ => toString i

theorem Port.suffix_of_resolve_number {n : Int32} {port : Port}
    (h : resolve (some (.number n)) = .ok port) : port.suffix = toString n.toInt := by
  unfold resolve at h
  simp only at h
  split at h
  · cases h
  · split at h
    · rename_i hrange
      cases h
      obtain ⟨m, hm⟩ := Int.eq_ofNat_of_zero_le (Int.le_of_lt hrange.1)
      have hlt : m < UInt16.size := by
        have := hrange.2
        omega
      rw [suffix, hm, Int.toNat_natCast, UInt16.toNat_ofNat_of_lt' hlt]
      rfl
    · cases h

namespace Compiler

variable {c : Compiler} {r : Resource} {e : Endpoint} {i : Nat} {out : Compiled}

theorem suffix_eq_of_portOf {ctx : JobContext} (h : portOf e = .ok ctx.port) :
    suffix ctx i = e.suffix i := by
  cases e with
  | pod spec =>
    obtain ⟨port, hport, h⟩ := bind_eq_ok h
    have hctx : ctx.port = some port := (Except.ok.inj h).symm
    rw [suffix, hctx, Endpoint.suffix]
    rcases hspec : spec.port with _ | s | n
    · rw [hspec] at hport
      cases hport
    · rw [hspec] at hport
      obtain ⟨rfl, -⟩ := Port.eq_named_of_resolve hport
      rfl
    · rw [hspec] at hport
      exact Port.suffix_of_resolve_number hport
  | node | probe =>
    have hctx : ctx.port = none := (Except.ok.inj h).symm
    rw [suffix, hctx]
    rfl

/-- The jobs of a resource are named after its key and the ports or places of its endpoints. -/
theorem names_of_compileResource (h : c.compileResource r = .ok out) :
    out.jobs.map (·.name) = r.target.endpoints.mapIdx fun i e => out.key ++ "/" ++ e.suffix i := by
  obtain ⟨p, -, -, hjobs⟩ := exists_runs_of_compileResource h
  rw [List.mapIdx_eq_zipIdx_map]
  symm
  rw [← List.forall₂_eq_eq_eq, List.forall₂_map_left_iff, List.forall₂_map_right_iff]
  refine (runs_of_compileEndpoints hjobs).imp ?_
  rintro ⟨e, i⟩ j ⟨port, s, t, hport, hrun⟩
  obtain ⟨parts, -, rfl, -⟩ := exists_parts_of_compileJob hrun
  have hsuffix : suffix (p.context c r e port) i = e.suffix i := suffix_eq_of_portOf hport
  exact congrArg (out.key ++ "/" ++ ·) hsuffix.symm

theorem exists_suffix_of_mem {j : Job} (h : c.compileResource r = .ok out) (hj : j ∈ out.jobs) :
    ∃ suffix, j.name = out.key ++ "/" ++ suffix := by
  have hmem : j.name ∈ out.jobs.map (·.name) := List.mem_map_of_mem hj
  rw [names_of_compileResource h] at hmem
  obtain ⟨i, hi, hname⟩ := List.mem_mapIdx.mp hmem
  exact ⟨_, hname.symm⟩

end Compiler

/-! ## Identities -/

/-- What the names of jobs say of a resource. -/
structure Identity where
  kind : Kind
  /-- None for the kinds without a namespace. -/
  inNamespace : Option String
  name : String
  deriving DecidableEq

/-- The kind, the namespace and the name of a resource that has them. -/
def Resource.identity (r : Resource) : Except Cause Identity := do
  return { kind := r.kind, name := ← r.name, inNamespace := ← r.namespace? }

namespace Kind

theorem ofName?_name (k : Kind) : ofName? k.name = some k := by
  cases k <;> decide

theorem name_injective {k k' : Kind} (h : k.name = k'.name) : k = k' := by
  have hsome : some k = some k' := by rw [← ofName?_name k, ← ofName?_name k', h]
  exact Option.some.inj hsome

theorem slash_not_mem_name (k : Kind) : '/' ∉ k.name.toList := by
  cases k <;> decide

end Kind

/-- What stands before the first slash, and what behind it, can be told from the whole. -/
theorem append_slash_inj {a b x y : List Char} (ha : '/' ∉ a) (hb : '/' ∉ b)
    (h : a ++ '/' :: x = b ++ '/' :: y) : a = b ∧ x = y := by
  induction a generalizing b with
  | nil =>
    cases b with
    | nil => exact ⟨rfl, (List.cons.inj h).2⟩
    | cons d b => exact (hb ((List.cons.inj h).1 ▸ List.mem_cons_self)).elim
  | cons d a ih =>
    cases b with
    | nil => exact (ha ((List.cons.inj h).1 ▸ List.mem_cons_self)).elim
    | cons e b =>
      obtain ⟨rfl, htail⟩ := List.cons.inj h
      obtain ⟨rfl, hxy⟩ :=
        ih (List.not_mem_of_not_mem_cons ha) (List.not_mem_of_not_mem_cons hb) htail
      exact ⟨rfl, hxy⟩

namespace Identity

/-- No slash stands in the namespace or in the name. -/
def IsSlashFree (id : Identity) : Prop :=
  '/' ∉ id.name.toList ∧ ∀ ns ∈ id.inNamespace, '/' ∉ ns.toList

instance (id : Identity) : Decidable id.IsSlashFree := inferInstanceAs (Decidable (_ ∧ _))

/-- The kind, the namespace if there is one and the name, each before a slash, and then a
rest. -/
def path (id : Identity) (rest : List Char) : List Char :=
  id.kind.name.toList ++ '/' ::
    match id.inNamespace with
    | some ns => ns.toList ++ '/' :: (id.name.toList ++ '/' :: rest)
    | none => id.name.toList ++ '/' :: rest

/-- A path determines the identity that it begins with, if both have namespaces exactly where
their kinds have them. -/
theorem eq_of_path_eq {id id' : Identity} {x y : List Char}
    (hplaced : id.inNamespace.isSome = id.kind.isNamespaced)
    (hplaced' : id'.inNamespace.isSome = id'.kind.isNamespaced)
    (hslash : id.IsSlashFree) (hslash' : id'.IsSlashFree) (h : id.path x = id'.path y) :
    id = id' := by
  obtain ⟨kind, ns, name⟩ := id
  obtain ⟨kind', ns', name'⟩ := id'
  obtain ⟨hname, hns⟩ := hslash
  obtain ⟨hname', hns'⟩ := hslash'
  -- the kind comes first, and it says whether a namespace follows
  obtain ⟨hkind, h⟩ := append_slash_inj kind.slash_not_mem_name kind'.slash_not_mem_name h
  obtain rfl : kind = kind' := Kind.name_injective (String.toList_inj.mp hkind)
  cases ns with
  | none =>
    cases ns' with
    | none =>
      obtain ⟨hnames, -⟩ := append_slash_inj hname hname' h
      obtain rfl : name = name' := String.toList_inj.mp hnames
      rfl
    | some ns' => cases hplaced.trans hplaced'.symm
  | some ns =>
    cases ns' with
    | none => cases hplaced.trans hplaced'.symm
    | some ns' =>
      obtain ⟨hnss, h⟩ := append_slash_inj (hns ns rfl) (hns' ns' rfl) h
      obtain ⟨hnames, -⟩ := append_slash_inj hname hname' h
      obtain rfl : ns = ns' := String.toList_inj.mp hnss
      obtain rfl : name = name' := String.toList_inj.mp hnames
      rfl

end Identity

namespace Resource

variable {r : Resource}

theorem isSome_namespace {ns : Option String} (h : r.namespace? = .ok ns) :
    ns.isSome = r.kind.isNamespaced := by
  unfold namespace? at h
  split at h
  · rename_i hkind
    split at h
    · cases h
      exact hkind.symm
    · cases h
  · rename_i hkind
    cases h
    simpa using hkind

/-- No two of the resources are the same in kind, namespace and name. -/
def AreDistinct (rs : List Resource) : Prop :=
  rs.Pairwise fun r r' => ∀ id, r.identity = .ok id → r'.identity ≠ .ok id

/-- A resource with a key has an identity, and what is named after the key is a path behind
it. -/
theorem exists_identity_of_key {key : String} (h : r.key = .ok key) :
    ∃ id, r.identity = .ok id ∧ id.inNamespace.isSome = id.kind.isNamespaced ∧
      ∀ suffix, (key ++ "/" ++ suffix).toList = id.path suffix.toList := by
  obtain ⟨name, hname, h⟩ := bind_eq_ok h
  obtain ⟨ns, hns, h⟩ := bind_eq_ok h
  have hid : r.identity = .ok ⟨r.kind, ns, name⟩ := by
    rw [identity, hname, hns]
    rfl
  refine ⟨_, hid, isSome_namespace hns, fun suffix => ?_⟩
  cases ns <;> cases h <;> simp [Identity.path]

end Resource

namespace Compiler

/-- Resources that share the name of a job are the same in kind, namespace and name. -/
theorem identity_eq_of_name_eq {c : Compiler} {r r' : Resource} {out out' : Compiled}
    {j j' : Job} (h : c.compileResource r = .ok out) (h' : c.compileResource r' = .ok out')
    (hj : j ∈ out.jobs) (hj' : j' ∈ out'.jobs)
    (hslash : ∀ id, r.identity = .ok id → id.IsSlashFree)
    (hslash' : ∀ id, r'.identity = .ok id → id.IsSlashFree) (hname : j.name = j'.name) :
    ∃ id, r.identity = .ok id ∧ r'.identity = .ok id := by
  obtain ⟨-, hkey, -, -⟩ := exists_runs_of_compileResource h
  obtain ⟨-, hkey', -, -⟩ := exists_runs_of_compileResource h'
  obtain ⟨id, hid, hplaced, hpath⟩ := Resource.exists_identity_of_key hkey
  obtain ⟨id', hid', hplaced', hpath'⟩ := Resource.exists_identity_of_key hkey'
  obtain ⟨suffix, hsuffix⟩ := exists_suffix_of_mem h hj
  obtain ⟨suffix', hsuffix'⟩ := exists_suffix_of_mem h' hj'
  have hsame : id.path suffix.toList = id'.path suffix'.toList := by
    rw [← hpath, ← hpath', ← hsuffix, ← hsuffix', hname]
  obtain rfl := Identity.eq_of_path_eq hplaced hplaced' (hslash id hid) (hslash' id' hid') hsame
  exact ⟨id, hid, hid'⟩

end Compiler

end ScrapeJobs
