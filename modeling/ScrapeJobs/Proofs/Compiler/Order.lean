import ScrapeJobs.Proofs.Compiler.Outcomes

/-!
# Batches in any order

A resource is rejected because of another one only if they share the name of a job, and resources
that are not the same in kind, namespace and name share none. So in a batch of such resources each
one ends as it does on its own (`Compiler.outcomes_unplaced_of_apart`), whatever the order of the
batch is (`Compiler.compile_of_perm`). Only the places that an error names depend on the order.
-/

namespace ScrapeJobs

open Outcome

/-! ## Errors without places -/

/-- A cause without the places of jobs in a batch. -/
def Cause.unplaced : Cause → Cause
  | .duplicateJob name _ _ => .duplicateJob name 0 0
  | cause => cause

/-- A rejection without the places of jobs in a batch. -/
def Rejection.unplaced (r : Rejection) : Rejection := { r with cause := r.cause.unplaced }

/-- Both results are successes, or both are failures that a function does not tell apart. -/
inductive EndAlike {ε φ α β : Type} (f : ε → φ) : Except ε α → Except ε β → Prop where
  | ok (a : α) (b : β) : EndAlike f (.ok a) (.ok b)
  | error {e e' : ε} (h : f e = f e') : EndAlike f (.error e) (.error e')

namespace Registry

variable {names : Registry} {new : List String}

/-- Whether names can be added depends on which names are taken, and not on their places. -/
theorem endAlike_addAll {seen seen' : Dict Nat} {size size' i : Nat}
    (h : ∀ n ∈ new, (seen.get? n).isSome = (seen'.get? n).isSome) :
    EndAlike (fun e => (e.1, e.2.1)) (addAll seen size i new) (addAll seen' size' i new) := by
  -- on the names, which are put into both registries
  induction new generalizing seen seen' i with
  | nil => exact .ok _ _
  | cons n rest ih =>
    have hn := h n List.mem_cons_self
    unfold addAll
    cases hseen : seen.get? n with
    | some first =>
      rw [hseen] at hn
      obtain ⟨first', hseen'⟩ := Option.isSome_iff_exists.mp hn.symm
      rw [hseen']
      exact .error rfl
    | none =>
      rw [hseen] at hn
      have hseen' : seen'.get? n = none := by simpa using hn
      rw [hseen']
      refine ih fun m hm => ?_
      rw [Dict.get?_insert, Dict.get?_insert]
      split
      · rfl
      · exact h m (List.mem_cons_of_mem _ hm)

/-- Names that are free are registered, or not, as in an empty registry. -/
theorem endAlike_register {resource : String} (hfree : ∀ n ∈ new, names.seen.get? n = none) :
    EndAlike Rejection.unplaced (names.register resource new)
      (({} : Registry).register resource new) := by
  have hsame : ∀ n ∈ new,
      (names.seen.get? n).isSome = (({} : Registry).seen.get? n).isSome := by
    intro n hn
    rw [hfree n hn]
    rfl
  have hadd := @endAlike_addAll new _ _ names.size ({} : Registry).size 0 hsame
  unfold register
  generalize addAll names.seen names.size 0 new = x at hadd ⊢
  generalize addAll ({} : Registry).seen ({} : Registry).size 0 new = y at hadd ⊢
  cases hadd with
  | ok seen seen' => exact .ok _ _
  | @error e e' h =>
    obtain ⟨k, n, first⟩ := e
    obtain ⟨k', n', first'⟩ := e'
    cases h
    exact .error rfl

end Registry

namespace Compiler

variable {c : Compiler} {r r' : Resource} {rs rs' : List Resource} {names : Registry}
  {taken : List String}

/-! ## Resources on their own -/

/-- What becomes of a resource that is compiled on its own. -/
def alone (c : Compiler) (r : Resource) : Except Rejection Compiled := (c.enroll {} r).map (·.1)

theorem outcomes_singleton (c : Compiler) (r : Resource) : c.outcomes {} [r] = [c.alone r] := by
  rw [alone]
  cases h : c.enroll {} r with
  | ok p => exact outcomes_of_ok h []
  | error rejection => exact outcomes_of_error h []

/-- The jobs of the resource have none of the names. -/
def IsFree (c : Compiler) (taken : List String) (r : Resource) : Prop :=
  ∀ out, c.compileResource r = .ok out → ∀ j ∈ out.jobs, j.name ∉ taken

/-- No job of one resource has the name of a job of the other. -/
def AreApart (c : Compiler) (r r' : Resource) : Prop :=
  ∀ out out', c.compileResource r = .ok out → c.compileResource r' = .ok out' →
    ∀ j ∈ out.jobs, ∀ j' ∈ out'.jobs, j.name ≠ j'.name

/-- A resource whose names are free ends as on its own. -/
theorem enroll_unplaced (hnames : names.Holds taken) (hfree : c.IsFree taken r) :
    ((c.enroll names r).map (·.1)).mapError Rejection.unplaced =
      (c.alone r).mapError Rejection.unplaced := by
  unfold alone
  cases hout : c.compileResource r with
  | error rejection => rw [enroll_of_error hout, enroll_of_error hout]
  | ok out =>
    have hnone : ∀ n ∈ out.jobs.map (·.name), names.seen.get? n = none := by
      intro n hn
      obtain ⟨j, hj, rfl⟩ := List.mem_map.mp hn
      exact hnames.get?_eq_none_iff.mpr (hfree out hout j hj)
    have hregister := @Registry.endAlike_register names _ out.key hnone
    rw [enroll_of_ok hout, enroll_of_ok hout]
    generalize names.register out.key (out.jobs.map (·.name)) = x at hregister ⊢
    generalize ({} : Registry).register out.key (out.jobs.map (·.name)) = y at hregister ⊢
    cases hregister with
    | ok names' names'' => rfl
    | error h => exact congrArg Except.error h

/-- In a batch of resources that are apart each one ends as on its own. -/
theorem outcomes_unplaced_of_apart (hnames : names.Holds taken)
    (hfree : ∀ r ∈ rs, c.IsFree taken r) (hapart : rs.Pairwise c.AreApart) :
    (c.outcomes names rs).map (·.mapError Rejection.unplaced) =
      rs.map fun r => (c.alone r).mapError Rejection.unplaced := by
  -- what is carried along: the names that are taken are free for the resources that follow
  induction rs generalizing names taken with
  | nil => rfl
  | cons r rest ih =>
    obtain ⟨hr, hrest⟩ := List.pairwise_cons.mp hapart
    have hhead := enroll_unplaced hnames (hfree r List.mem_cons_self)
    have hfree' : ∀ q ∈ rest, c.IsFree taken q :=
      fun q hq => hfree q (List.mem_cons_of_mem _ hq)
    cases h : c.enroll names r with
    | ok p =>
      obtain ⟨out, names'⟩ := p
      obtain ⟨hout, hregister⟩ := enroll_eq_ok h
      have hfresh : ∀ q ∈ rest, c.IsFree (taken ++ out.jobs.map (·.name)) q := by
        intro q hq out' hout' j hj hmem
        rcases List.mem_append.mp hmem with hmem | hmem
        · exact hfree' q hq out' hout' j hj hmem
        · obtain ⟨k, hk, hname⟩ := List.mem_map.mp hmem
          exact hr q hq out out' hout hout' k hk j hj hname
      rw [h] at hhead
      rw [outcomes_of_ok h, List.map_cons, List.map_cons,
        ih (hnames.register hregister) hfresh hrest, ← hhead]
      rfl
    | error rejection =>
      rw [h] at hhead
      rw [outcomes_of_error h, List.map_cons, List.map_cons, ih hnames hfree' hrest, ← hhead]
      rfl

/-! ## Batches -/

theorem accepted_map_mapError (f : Rejection → Rejection) (os : List (Except Rejection Compiled)) :
    accepted (os.map (·.mapError f)) = accepted os := by
  induction os with
  | nil => rfl
  | cons o rest ih =>
    cases o with
    | ok out => exact congrArg (out :: ·) ih
    | error rejection => exact ih

theorem rejected_map_mapError (f : Rejection → Rejection) (os : List (Except Rejection Compiled)) :
    rejected (os.map (·.mapError f)) = (rejected os).map f := by
  induction os with
  | nil => rfl
  | cons o rest ih =>
    cases o with
    | ok out => exact ih
    | error rejection => exact congrArg (f rejection :: ·) ih

theorem accepted_map_alone (c : Compiler) (rs : List Resource) :
    (accepted (rs.map c.alone)).flatMap (·.jobs) = rs.flatMap fun r => (c.compile [r]).jobs := by
  induction rs with
  | nil => rfl
  | cons r rest ih =>
    have hsplit : (r :: rest).map c.alone = [c.alone r] ++ rest.map c.alone := rfl
    rw [hsplit, accepted_append, List.flatMap_append, ih, List.flatMap_cons, jobs_compile,
      outcomes_singleton]

theorem rejected_map_alone (c : Compiler) (rs : List Resource) :
    (rejected (rs.map c.alone)).map Rejection.unplaced =
      rs.flatMap fun r => (c.compile [r]).rejections.map Rejection.unplaced := by
  induction rs with
  | nil => rfl
  | cons r rest ih =>
    have hsplit : (r :: rest).map c.alone = [c.alone r] ++ rest.map c.alone := rfl
    rw [hsplit, rejected_append, List.map_append, ih, List.flatMap_cons, rejections_compile,
      outcomes_singleton]

/-- Resources that are not the same in kind, namespace and name are apart. -/
theorem areApart_of_identity_ne (h : ∀ id, r.identity = .ok id → r'.identity ≠ .ok id)
    (hslash : ∀ id, r.identity = .ok id → id.IsSlashFree)
    (hslash' : ∀ id, r'.identity = .ok id → id.IsSlashFree) : c.AreApart r r' := by
  intro out out' hout hout' j hj j' hj' hname
  obtain ⟨id, hid, hid'⟩ := identity_eq_of_name_eq hout hout' hj hj' hslash hslash' hname
  exact h id hid hid'

/-- Each resource of a batch ends as on its own, apart from the places that its error names, and
the batch has what becomes of its resources on their own, resource by resource. -/
structure IsUnaffected (c : Compiler) (rs : List Resource) : Prop where
  outcomes : (c.outcomes {} rs).map (·.mapError Rejection.unplaced) =
    rs.map fun r => (c.alone r).mapError Rejection.unplaced
  jobs : (c.compile rs).jobs = rs.flatMap fun r => (c.compile [r]).jobs
  rejections : (c.compile rs).rejections.map Rejection.unplaced =
    rs.flatMap fun r => (c.compile [r]).rejections.map Rejection.unplaced

theorem isUnaffected_of_apart (h : rs.Pairwise c.AreApart) : c.IsUnaffected rs := by
  have halone := @outcomes_unplaced_of_apart c rs {} [] Registry.holds_empty
    (fun _ _ _ _ _ _ => List.not_mem_nil) h
  have hmap : (c.outcomes {} rs).map (·.mapError Rejection.unplaced) =
      (rs.map c.alone).map (·.mapError Rejection.unplaced) := by
    rw [halone, List.map_map]
    rfl
  refine ⟨halone, ?_, ?_⟩
  · rw [jobs_compile, ← accepted_map_mapError Rejection.unplaced, hmap, accepted_map_mapError,
      accepted_map_alone]
  · rw [rejections_compile, ← rejected_map_mapError, hmap, rejected_map_mapError,
      rejected_map_alone]

/-- In a batch of distinct resources each one ends as on its own, and so it does in any other
order of the batch, which has the same jobs. Only the places that an error names depend on the
order. -/
theorem isUnaffected_of_perm (hdistinct : Resource.AreDistinct rs)
    (hslash : ∀ r ∈ rs, ∀ id, r.identity = .ok id → id.IsSlashFree) :
    c.IsUnaffected rs ∧
      ∀ rs', rs.Perm rs' →
        c.IsUnaffected rs' ∧ (c.compile rs).jobs.Perm (c.compile rs').jobs := by
  have hapart : rs.Pairwise c.AreApart := hdistinct.imp_of_mem fun hr hq h =>
    areApart_of_identity_ne h (hslash _ hr) (hslash _ hq)
  have hrs := isUnaffected_of_apart hapart
  refine ⟨hrs, fun rs' hperm => ?_⟩
  have hapart' : rs'.Pairwise c.AreApart := by
    refine (hperm.pairwise_iff ?_).mp hapart
    intro r q h out out' hout hout' j hj j' hj' hname
    exact h out' out hout' hout j' hj' j hj hname.symm
  have hrs' := isUnaffected_of_apart hapart'
  refine ⟨hrs', ?_⟩
  rw [hrs.jobs, hrs'.jobs]
  exact hperm.flatMap_right _

end Compiler

namespace Sample

/-- A resource with one port twice, whose name has a slash. -/
def twice : Resource where
  metadata := { name := some "twice", inNamespace := some "shop.a" }
  target := .pod { endpoints := [
    { port := some (.name "web/http"), settings := .every "30s" },
    { port := some (.name "web/http"), settings := .every "30s" }] }

/-- The resource with one port twice is rejected for its own jobs only, in any order. -/
theorem isUnaffected_twice :
    Resource.AreDistinct [resource, twice, nodes] ∧
      (∀ r ∈ [resource, twice, nodes], ∀ id, r.identity = .ok id → id.IsSlashFree) ∧
      compiler.IsUnaffected [nodes, twice, resource] ∧
      (compiler.compile [resource, twice, nodes]).jobs.Perm
        (compiler.compile [nodes, twice, resource]).jobs ∧
      (compiler.compile [twice]).rejections = [⟨"PodMonitoring/shop.a/twice", some 1,
        .duplicateJob "PodMonitoring/shop.a/twice/web/http" 0 1⟩] := by
  have hresource : resource.identity = .ok ⟨.pod, some "shop.a", "web"⟩ := rfl
  have htwice : twice.identity = .ok ⟨.pod, some "shop.a", "twice"⟩ := rfl
  have hnodes : nodes.identity = .ok ⟨.clusterNode, none, "n"⟩ := rfl
  have hdistinct : Resource.AreDistinct [resource, twice, nodes] := by
    simp [Resource.AreDistinct, hresource, htwice, hnodes]
  have hslash : ∀ r ∈ [resource, twice, nodes], ∀ id, r.identity = .ok id → id.IsSlashFree := by
    intro r hr id hid
    simp only [List.mem_cons, List.not_mem_nil, or_false] at hr
    rcases hr with rfl | rfl | rfl
    · cases hresource.symm.trans hid
      decide
    · cases htwice.symm.trans hid
      decide
    · cases hnodes.symm.trans hid
      decide
  have hperm : [resource, twice, nodes].Perm [nodes, twice, resource] :=
    (List.reverse_perm [nodes, twice, resource])
  obtain ⟨-, hall⟩ := Compiler.isUnaffected_of_perm hdistinct hslash
  obtain ⟨hbatch, hjobs⟩ := hall _ hperm
  exact ⟨hdistinct, hslash, hbatch, hjobs, by decide +kernel⟩

end Sample

end ScrapeJobs
