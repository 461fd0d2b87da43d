import ScrapeJobs.Proofs.Compiler.Names
import ScrapeJobs.Proofs.Compiler.Reload

/-!
# What becomes of each resource

Each resource of a batch compiles completely or is rejected (`Compiler.outcomes`), and the batch
is made of these outcomes in order (`Compiler.compile_eq_foldl_add`), so it accounts for all of
its resources (`Compiler.compile_accounts`). A rejected resource leaves no name behind, so the
rest of the batch is the same without it (`Compiler.compile_eraseIdx`).
-/

namespace ScrapeJobs

open Outcome

namespace Compiler

variable {c : Compiler} {r : Resource} {rs : List Resource} {names names' : Registry}
  {rejection : Rejection} {out : Compiled} {o : Except Rejection Compiled}
  {os : List (Except Rejection Compiled)} {i : Nat}

/-! ## Lists of outcomes -/

/-- What is accepted, in order. -/
def accepted (os : List (Except Rejection Compiled)) : List Compiled :=
  os.filterMap Except.toOption

/-- The rejection of an outcome, if it is one. -/
def rejection? : Except Rejection Compiled → Option Rejection
  | .ok _ => none
  | .error rejection => some rejection

/-- What is rejected, in order. -/
def rejected (os : List (Except Rejection Compiled)) : List Rejection := os.filterMap rejection?

@[simp] theorem accepted_ok : accepted (.ok out :: os) = out :: accepted os := rfl

@[simp] theorem accepted_error : accepted (.error rejection :: os) = accepted os := rfl

@[simp] theorem rejected_ok : rejected (.ok out :: os) = rejected os := rfl

@[simp] theorem rejected_error :
    rejected (.error rejection :: os) = rejection :: rejected os := rfl

theorem accepted_append (os os' : List (Except Rejection Compiled)) :
    accepted (os ++ os') = accepted os ++ accepted os' := List.filterMap_append

theorem rejected_append (os os' : List (Except Rejection Compiled)) :
    rejected (os ++ os') = rejected os ++ rejected os' := List.filterMap_append

/-- An outcome is accepted or rejected. -/
theorem length_accepted_add_length_rejected (os : List (Except Rejection Compiled)) :
    (accepted os).length + (rejected os).length = os.length := by
  induction os with
  | nil => rfl
  | cons o rest ih =>
    cases o with
    | ok out =>
      rw [accepted_ok, rejected_ok, List.length_cons, List.length_cons]
      omega
    | error rejection =>
      rw [accepted_error, rejected_error, List.length_cons, List.length_cons]
      omega

/-! ## Outcomes of a batch -/

/-- What becomes of resources one after the other, while the names of those that are accepted
are taken. -/
def outcomes (c : Compiler) : Registry → List Resource → List (Except Rejection Compiled)
  | _, [] => []
  | names, r :: rest =>
    match c.enroll names r with
    | .ok (out, names') => .ok out :: c.outcomes names' rest
    | .error rejection => .error rejection :: c.outcomes names rest

theorem outcomes_of_ok (h : c.enroll names r = .ok (out, names')) (rs : List Resource) :
    c.outcomes names (r :: rs) = .ok out :: c.outcomes names' rs := by
  rw [outcomes, h]

theorem outcomes_of_error (h : c.enroll names r = .error rejection) (rs : List Resource) :
    c.outcomes names (r :: rs) = .error rejection :: c.outcomes names rs := by
  rw [outcomes, h]

/-- A resource is rejected if it does not compile or if its names are not registered. -/
theorem enroll_eq_error (h : c.enroll names r = .error rejection) :
    c.compileResource r = .error rejection ∨
      ∃ out, c.compileResource r = .ok out ∧
        names.register out.key (out.jobs.map (·.name)) = .error rejection := by
  cases hout : c.compileResource r with
  | error own =>
    rw [enroll_of_error hout] at h
    cases h
    exact .inl rfl
  | ok out =>
    rw [enroll_of_ok hout] at h
    exact .inr ⟨out, rfl, map_eq_error h⟩

/-- Adds an outcome to a batch. -/
def Batch.add (b : Batch) : Except Rejection Compiled → Batch
  | .ok out => { b with jobs := b.jobs ++ out.jobs, secrets := b.secrets.union out.secrets }
  | .error rejection => { b with rejections := b.rejections ++ [rejection] }

theorem foldl_addResource (rs : List Resource) (b : Batch) (names : Registry) :
    (rs.foldl c.addResource (b, names)).1 = (c.outcomes names rs).foldl Batch.add b := by
  induction rs generalizing b names with
  | nil => rfl
  | cons r rest ih =>
    cases h : c.enroll names r with
    | ok p =>
      obtain ⟨out, names'⟩ := p
      have hadd : c.addResource (b, names) r = (b.add (.ok out), names') := by
        simp only [addResource, h, Batch.add]
      rw [List.foldl_cons, hadd, ih, outcomes_of_ok h, List.foldl_cons]
    | error rejection =>
      have hadd : c.addResource (b, names) r = (b.add (.error rejection), names) := by
        simp only [addResource, h, Batch.add]
      rw [List.foldl_cons, hadd, ih, outcomes_of_error h, List.foldl_cons]

/-- A batch is made of the outcomes in order. -/
theorem compile_eq_foldl_add (c : Compiler) (rs : List Resource) :
    c.compile rs = (c.outcomes {} rs).foldl Batch.add {} :=
  foldl_addResource rs {} {}

theorem foldl_add (os : List (Except Rejection Compiled)) (b : Batch) :
    os.foldl Batch.add b = {
      jobs := b.jobs ++ (accepted os).flatMap (·.jobs)
      rejections := b.rejections ++ rejected os
      secrets := (accepted os).foldl (fun pool out => pool.union out.secrets) b.secrets } := by
  induction os generalizing b with
  | nil => simp [accepted, rejected]
  | cons o rest ih =>
    rw [List.foldl_cons, ih]
    cases o <;> simp [Batch.add]

theorem jobs_compile (c : Compiler) (rs : List Resource) :
    (c.compile rs).jobs = (accepted (c.outcomes {} rs)).flatMap (·.jobs) := by
  rw [compile_eq_foldl_add, foldl_add]
  rfl

theorem rejections_compile (c : Compiler) (rs : List Resource) :
    (c.compile rs).rejections = rejected (c.outcomes {} rs) := by
  rw [compile_eq_foldl_add, foldl_add]
  rfl

theorem secrets_compile (c : Compiler) (rs : List Resource) :
    (c.compile rs).secrets =
      (accepted (c.outcomes {} rs)).foldl (fun pool out => pool.union out.secrets) ∅ := by
  rw [compile_eq_foldl_add, foldl_add]

/-! ## Accounts -/

/-- The resource is compiled completely: one job for each endpoint, in order, each named after
the key of the resource and the port or the place of the endpoint. -/
structure IsComplete (c : Compiler) (r : Resource) (out : Compiled) : Prop where
  compiled : c.compileResource r = .ok out
  key : r.key = .ok out.key
  names : out.jobs.map (·.name) =
    r.target.endpoints.mapIdx fun i e => out.key ++ "/" ++ e.suffix i
  jobs : List.Forall₂ (fun e j => ∃ ctx, IsContext c r e ctx ∧ IsJobOf c ctx j)
    r.target.endpoints out.jobs

theorem isComplete_of_compileResource (h : c.compileResource r = .ok out) :
    c.IsComplete r out := by
  obtain ⟨p, hkey, hp, hruns⟩ := exists_runs_of_compileResource h
  refine ⟨h, hkey, names_of_compileResource h, (forall₂_of_compileEndpoints hruns).imp ?_⟩
  rintro e j ⟨port, hport, hjob⟩
  exact ⟨_, isContext_of_prepare hp hport, hjob⟩

/-- The error is the resource's own, or one of its jobs has a name that another job has: one of
the batch or an earlier one of the resource. -/
def IsRejectionOf (c : Compiler) (batch : List Job) (r : Resource) (rejection : Rejection) : Prop :=
  c.compileResource r = .error rejection ∨
    ∃ out before j after first second, c.compileResource r = .ok out ∧
      out.jobs = before ++ j :: after ∧ (∃ k ∈ batch ++ before, k.name = j.name) ∧
      rejection = ⟨out.key, some before.length, .duplicateJob j.name first second⟩

/-- What becomes of a resource in a batch with the given jobs: it is compiled completely or
rejected with an error. -/
def Accounts (c : Compiler) (batch : List Job) (r : Resource) :
    Except Rejection Compiled → Prop
  | .ok out => c.IsComplete r out
  | .error rejection => c.IsRejectionOf batch r rejection

theorem isRejectionOf_of_enroll {taken : List Job} (hnames : names.Holds (taken.map (·.name)))
    (h : c.enroll names r = .error rejection) : c.IsRejectionOf taken r rejection := by
  rcases enroll_eq_error h with hown | ⟨out, hout, htaken⟩
  · exact .inl hown
  · obtain ⟨before, n, after, first, hsplit, hfirst, hrejection⟩ := hnames.register_error htaken
    obtain ⟨jobs, rest, hjobs, rfl, hrest⟩ := List.map_eq_append_iff.mp hsplit
    obtain ⟨j, jobs', rfl, rfl, rfl⟩ := List.map_eq_cons_iff.mp hrest
    rw [← List.map_append] at hfirst
    obtain ⟨k, hk, hname⟩ := List.mem_map.mp (List.mem_of_getElem? hfirst)
    rw [List.length_map] at hrejection
    exact .inr ⟨out, jobs, j, jobs', first, _, hout, hjobs, ⟨k, hk, hname⟩, hrejection⟩

theorem IsRejectionOf.mono {taken batch : List Job} (h : c.IsRejectionOf taken r rejection)
    (hsub : taken ⊆ batch) : c.IsRejectionOf batch r rejection := by
  rcases h with hown | ⟨out, before, j, after, first, second, hout, hjobs, ⟨k, hk, hname⟩, heq⟩
  · exact .inl hown
  · have hk' : k ∈ batch ++ before := by
      rcases List.mem_append.mp hk with hk | hk
      · exact List.mem_append_left _ (hsub hk)
      · exact List.mem_append_right _ hk
    exact .inr ⟨out, before, j, after, first, second, hout, hjobs, ⟨k, hk', hname⟩, heq⟩

/-- The outcomes account for the resources one by one, while the registry holds the names of the
jobs that are accepted so far. -/
theorem forall₂_accounts {taken batch : List Job} (hnames : names.Holds (taken.map (·.name)))
    (hbatch : taken ++ (accepted (c.outcomes names rs)).flatMap (·.jobs) = batch) :
    List.Forall₂ (c.Accounts batch) rs (c.outcomes names rs) := by
  induction rs generalizing names taken with
  | nil => exact .nil
  | cons r rest ih =>
    cases h : c.enroll names r with
    | ok p =>
      obtain ⟨out, names'⟩ := p
      obtain ⟨hout, hregister⟩ := enroll_eq_ok h
      have hnames' : names'.Holds ((taken ++ out.jobs).map (·.name)) := by
        rw [List.map_append]
        exact hnames.register hregister
      rw [outcomes_of_ok h] at hbatch ⊢
      rw [accepted_ok, List.flatMap_cons, ← List.append_assoc] at hbatch
      exact .cons (isComplete_of_compileResource hout) (ih hnames' hbatch)
    | error rejection =>
      rw [outcomes_of_error h] at hbatch ⊢
      have htaken : taken ⊆ batch := by
        rw [← hbatch]
        exact List.subset_append_left _ _
      exact .cons ((isRejectionOf_of_enroll hnames h).mono htaken) (ih hnames hbatch)

/-- Each resource of a batch compiles completely or is rejected with one error. The jobs of the
batch are those of the accepted resources in order and have distinct names, its rejections are
the others in order, and its secrets are those of the accepted resources. -/
theorem compile_accounts (c : Compiler) (rs : List Resource) :
    List.Forall₂ (c.Accounts (c.compile rs).jobs) rs (c.outcomes {} rs) ∧
      (c.compile rs).jobs = (accepted (c.outcomes {} rs)).flatMap (·.jobs) ∧
      (c.compile rs).rejections = rejected (c.outcomes {} rs) ∧
      (c.compile rs).secrets =
        (accepted (c.outcomes {} rs)).foldl (fun pool out => pool.union out.secrets) ∅ ∧
      (accepted (c.outcomes {} rs)).length + (c.compile rs).rejections.length = rs.length ∧
      ((c.compile rs).jobs.map (·.name)).Nodup := by
  have haccounts : List.Forall₂ (c.Accounts (c.compile rs).jobs) rs (c.outcomes {} rs) :=
    @forall₂_accounts c rs {} [] _ Registry.holds_empty (jobs_compile c rs).symm
  refine ⟨haccounts, jobs_compile c rs, rejections_compile c rs, secrets_compile c rs, ?_,
    nodup_names c rs⟩
  rw [rejections_compile, length_accepted_add_length_rejected, haccounts.length_eq]

/-! ## Places in a batch -/

/-- The resource at a place of a batch is accepted. -/
structure Accepts (c : Compiler) (rs : List Resource) (i : Nat) (r : Resource) (out : Compiled) :
    Prop where
  resource : rs[i]? = some r
  outcome : (c.outcomes {} rs)[i]? = some (.ok out)

theorem forall₂_accounts_outcomes (c : Compiler) (rs : List Resource) :
    List.Forall₂ (c.Accounts (c.compile rs).jobs) rs (c.outcomes {} rs) :=
  @forall₂_accounts c rs {} [] _ Registry.holds_empty (jobs_compile c rs).symm

theorem Accepts.isComplete (h : c.Accepts rs i r out) : c.IsComplete r out :=
  rel_of_getElem? (forall₂_accounts_outcomes c rs) h.resource h.outcome

theorem mem_accepted_iff : out ∈ accepted os ↔ Except.ok out ∈ os := by
  unfold accepted
  rw [List.mem_filterMap]
  constructor
  · rintro ⟨o, ho, hout⟩
    obtain rfl := eq_ok_of_toOption hout
    exact ho
  · intro ho
    exact ⟨.ok out, ho, rfl⟩

/-- The jobs of a batch are those of the accepted resources. -/
theorem mem_jobs_iff {j : Job} :
    j ∈ (c.compile rs).jobs ↔ ∃ i r out, c.Accepts rs i r out ∧ j ∈ out.jobs := by
  rw [jobs_compile, List.mem_flatMap]
  constructor
  · rintro ⟨out, hout, hj⟩
    obtain ⟨i, r, hr, ho⟩ :=
      exists_getElem?_of_mem (forall₂_accounts_outcomes c rs) (mem_accepted_iff.mp hout)
    exact ⟨i, r, out, ⟨hr, ho⟩, hj⟩
  · rintro ⟨i, r, out, haccepts, hj⟩
    exact ⟨out, mem_accepted_iff.mpr (List.mem_of_getElem? haccepts.outcome), hj⟩

/-- The resources whose outcomes are not rejections. -/
def kept (rs : List Resource) (os : List (Except Rejection Compiled)) : List Resource :=
  ((rs.zip os).filter (·.2.toOption.isSome)).map (·.1)

theorem mem_kept_iff :
    r ∈ kept rs os ↔ ∃ (i : Nat) (out : Compiled), rs[i]? = some r ∧ os[i]? = some (.ok out) := by
  unfold kept
  rw [List.mem_map]
  constructor
  · rintro ⟨⟨q, o⟩, hmem, rfl⟩
    obtain ⟨hzip, hsome⟩ := List.mem_filter.mp hmem
    obtain ⟨i, hi⟩ := List.mem_iff_getElem?.mp hzip
    obtain ⟨hq, ho⟩ := List.getElem?_zip_eq_some.mp hi
    obtain ⟨out, hout⟩ := Option.isSome_iff_exists.mp hsome
    obtain rfl := eq_ok_of_toOption hout
    exact ⟨i, out, hq, ho⟩
  · rintro ⟨i, out, hr, ho⟩
    have hzip : (rs.zip os)[i]? = some (r, .ok out) := List.getElem?_zip_eq_some.mpr ⟨hr, ho⟩
    exact ⟨(r, .ok out), List.mem_filter.mpr ⟨List.mem_of_getElem? hzip, rfl⟩, rfl⟩

/-- A resource of a batch is registered behind the jobs of the resources before it. -/
theorem exists_enroll_of_getElem? {taken : List Job} (hnames : names.Holds (taken.map (·.name)))
    (hr : rs[i]? = some r) :
    ∃ names' : Registry,
      names'.Holds
        ((taken ++ (accepted (c.outcomes names (rs.take i))).flatMap (·.jobs)).map (·.name)) ∧
      (c.outcomes names rs)[i]? = some ((c.enroll names' r).map (·.1)) := by
  -- on the resources, while the one at the place comes nearer and the registry grows
  induction rs generalizing names taken i with
  | nil => cases hr
  | cons q rest ih =>
    cases i with
    | zero =>
      obtain rfl : q = r := Option.some.inj hr
      refine ⟨names, ?_, ?_⟩
      · simpa [outcomes, accepted] using hnames
      · cases h : c.enroll names q with
        | ok p => rw [outcomes_of_ok h]; rfl
        | error rejection => rw [outcomes_of_error h]; rfl
    | succ i =>
      have hr' : rest[i]? = some r := hr
      cases h : c.enroll names q with
      | ok p =>
        obtain ⟨out, names'⟩ := p
        obtain ⟨-, hregister⟩ := enroll_eq_ok h
        have hnames' : names'.Holds ((taken ++ out.jobs).map (·.name)) := by
          rw [List.map_append]
          exact hnames.register hregister
        obtain ⟨names'', hholds, ho⟩ := ih hnames' hr'
        refine ⟨names'', ?_, ?_⟩
        · rw [List.take_succ_cons, outcomes_of_ok h, accepted_ok, List.flatMap_cons,
            ← List.append_assoc]
          exact hholds
        · rw [outcomes_of_ok h, List.getElem?_cons_succ]
          exact ho
      | error rejection =>
        obtain ⟨names'', hholds, ho⟩ := ih hnames hr'
        refine ⟨names'', ?_, ?_⟩
        · rw [List.take_succ_cons, outcomes_of_error h, accepted_error]
          exact hholds
        · rw [outcomes_of_error h, List.getElem?_cons_succ]
          exact ho

/-! ## Without a rejected resource -/

theorem outcomes_take (c : Compiler) (names : Registry) (rs : List Resource) (i : Nat) :
    c.outcomes names (rs.take i) = (c.outcomes names rs).take i := by
  induction rs generalizing names i with
  | nil => simp [outcomes]
  | cons r rest ih =>
    cases i with
    | zero => rfl
    | succ i =>
      rw [List.take_succ_cons]
      cases h : c.enroll names r with
      | ok p =>
        obtain ⟨out, names'⟩ := p
        rw [outcomes_of_ok h, outcomes_of_ok h, ih, List.take_succ_cons]
      | error rejection =>
        rw [outcomes_of_error h, outcomes_of_error h, ih, List.take_succ_cons]

/-- The other outcomes do not change when a rejected resource is left out. -/
theorem outcomes_eraseIdx (h : (c.outcomes names rs)[i]? = some (.error rejection)) :
    c.outcomes names (rs.eraseIdx i) = (c.outcomes names rs).eraseIdx i := by
  -- on the resources, while the one that is rejected comes nearer
  induction rs generalizing names i with
  | nil => cases h
  | cons r rest ih =>
    cases hr : c.enroll names r with
    | ok p =>
      obtain ⟨out, names'⟩ := p
      rw [outcomes_of_ok hr] at h ⊢
      cases i with
      | zero => cases h
      | succ i =>
        rw [List.eraseIdx_cons_succ, List.eraseIdx_cons_succ, outcomes_of_ok hr, ih h]
    | error own =>
      rw [outcomes_of_error hr] at h ⊢
      cases i with
      | zero => rw [List.eraseIdx_cons_zero, List.eraseIdx_cons_zero]
      | succ i =>
        rw [List.eraseIdx_cons_succ, List.eraseIdx_cons_succ, outcomes_of_error hr, ih h]

/-- Outcomes around a rejection: what is accepted stands without it, and it is rejected behind
those before. -/
theorem accepted_eraseIdx (h : os[i]? = some (.error rejection)) :
    accepted (os.eraseIdx i) = accepted os ∧
      rejected os = rejected (os.take i) ++ rejection :: rejected (os.drop (i + 1)) ∧
      rejected (os.eraseIdx i) = rejected (os.take i) ++ rejected (os.drop (i + 1)) := by
  have hsplit : os = os.take i ++ .error rejection :: os.drop (i + 1) := by
    obtain ⟨hi, hget⟩ := List.getElem?_eq_some_iff.mp h
    rw [← hget, List.getElem_cons_drop, List.take_append_drop]
  have herase : os.eraseIdx i = os.take i ++ os.drop (i + 1) := List.eraseIdx_eq_take_drop_succ ..
  refine ⟨?_, ?_, ?_⟩
  · rw [herase, accepted_append]
    conv_rhs => rw [hsplit, accepted_append, accepted_error]
  · conv_lhs => rw [hsplit, rejected_append, rejected_error]
  · rw [herase, rejected_append]

/-- A batch without one of its rejected resources has the same jobs and the same secrets. Its
rejections are those of the resources before, which are the same, and of the resources behind,
with the places that they name; only the one of the resource is missing. -/
theorem compile_eraseIdx (h : (c.outcomes {} rs)[i]? = some (.error rejection)) :
    (c.compile (rs.eraseIdx i)).jobs = (c.compile rs).jobs ∧
      (c.compile (rs.eraseIdx i)).secrets = (c.compile rs).secrets ∧
      ∃ after,
        (c.compile rs).rejections = (c.compile (rs.take i)).rejections ++ rejection :: after ∧
        (c.compile (rs.eraseIdx i)).rejections = (c.compile (rs.take i)).rejections ++ after := by
  obtain ⟨haccepted, hrejected, hothers⟩ := accepted_eraseIdx h
  have herase := outcomes_eraseIdx h
  refine ⟨?_, ?_, rejected ((c.outcomes {} rs).drop (i + 1)), ?_, ?_⟩
  · rw [jobs_compile, jobs_compile, herase, haccepted]
  · rw [secrets_compile, secrets_compile, herase, haccepted]
  · rw [rejections_compile, rejections_compile, outcomes_take, hrejected]
  · rw [rejections_compile, rejections_compile, outcomes_take, herase, hothers]

end Compiler

namespace Sample

/-- The resource for nodes without its name. -/
def unnamed : Resource := { nodes with metadata := {} }

theorem outcome_unnamed :
    (compiler.outcomes {} [nodes, unnamed, nodes])[1]? =
      some (.error ⟨"ClusterNodeMonitoring", none, .missingMetadata "name"⟩) := by
  have hunnamed : ∀ names, compiler.enroll names unnamed =
      .error ⟨"ClusterNodeMonitoring", none, .missingMetadata "name"⟩ := fun _ => rfl
  cases h : compiler.enroll {} nodes with
  | ok p => rw [Compiler.outcomes_of_ok h, Compiler.outcomes_of_error (hunnamed p.2)]; rfl
  | error rejection =>
    rw [Compiler.outcomes_of_error h, Compiler.outcomes_of_error (hunnamed {})]; rfl

/-- A name that is taken is rejected with the same places, whether there is a resource without a
name in between or not. -/
theorem rejections_around_unnamed :
    (compiler.outcomes {} [nodes, unnamed, nodes])[1]? =
        some (.error ⟨"ClusterNodeMonitoring", none, .missingMetadata "name"⟩) ∧
      (compiler.compile [nodes, nodes]).jobs = (compiler.compile [nodes, unnamed, nodes]).jobs ∧
      (compiler.compile [nodes, unnamed, nodes]).rejections = [
        ⟨"ClusterNodeMonitoring", none, .missingMetadata "name"⟩,
        ⟨"ClusterNodeMonitoring/n", some 0, .duplicateJob "ClusterNodeMonitoring/n/0" 0 1⟩] := by
  obtain ⟨hjobs, -, after, hall, hothers⟩ := Compiler.compile_eraseIdx outcome_unnamed
  have hfirst : (compiler.compile [nodes]).rejections = [] := by decide +kernel
  have hsecond : (compiler.compile [nodes, nodes]).rejections =
      [⟨"ClusterNodeMonitoring/n", some 0, .duplicateJob "ClusterNodeMonitoring/n/0" 0 1⟩] := by
    decide +kernel
  have htake : [nodes, unnamed, nodes].take 1 = [nodes] := rfl
  have herase : [nodes, unnamed, nodes].eraseIdx 1 = [nodes, nodes] := rfl
  rw [htake, hfirst, List.nil_append] at hall hothers
  rw [herase, hsecond] at hothers
  rw [herase] at hjobs
  exact ⟨outcome_unnamed, hjobs, by rw [hall, ← hothers]⟩

end Sample

end ScrapeJobs
