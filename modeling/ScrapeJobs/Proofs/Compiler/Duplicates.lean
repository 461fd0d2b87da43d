import ScrapeJobs.Proofs.Compiler.Admission
import ScrapeJobs.Proofs.Compiler.Causes

/-!
# Names that are taken

A batch rejects a resource for the name of a job if an earlier job has it: one that the batch keeps,
or one of the resource itself, which is rejected as a whole. The error gives the places of both jobs
as if the jobs of the resource came next in the batch (`Compiler.exists_firstTaken_of_mem`). Jobs are
only ever added behind others, so a place of an earlier resource stays what it was. The places
behind them are free again, and jobs of later resources may come there. So the error names the job
that was kept exactly where there is one (`Compiler.kept_of_duplicate`).
-/

namespace ScrapeJobs

open Outcome Registry

/-- The batch has a job with the name at the place. -/
def Compiler.Batch.Keeps (b : Batch) (place : Nat) (name : String) : Prop :=
  ∃ j, b.jobs[place]? = some j ∧ j.name = name

namespace Compiler

variable {c : Compiler} {r : Resource} {rs : List Resource} {names : Registry} {i k : Nat}
  {rejection : Rejection} {out : Compiled} {key name : String} {endpoint : Option Nat}
  {first second : Nat} {taken : List Job}

/-! ## Jobs of the resources before -/

/-- The jobs of a batch begin with those of the resources before a place. -/
theorem jobs_eq_append (c : Compiler) (rs : List Resource) (i : Nat) :
    ∃ later, (c.compile rs).jobs = (c.compile (rs.take i)).jobs ++ later := by
  refine ⟨(accepted ((c.outcomes {} rs).drop i)).flatMap (·.jobs), ?_⟩
  rw [jobs_compile, jobs_compile, outcomes_take, ← List.flatMap_append, ← accepted_append,
    List.take_append_drop]

/-- A resource that is rejected for a name compiles, and the name is the first one of it that is
taken behind the jobs of the batch. -/
theorem firstTaken_of_enroll (hnames : names.Holds (taken.map (·.name)))
    (h : c.enroll names r = .error ⟨key, endpoint, .duplicateJob name first second⟩) :
    ∃ out k, c.compileResource r = .ok out ∧ key = out.key ∧ endpoint = some k ∧
      FirstTaken (taken.map (·.name)) (out.jobs.map (·.name)) k name first ∧
      second = taken.length + k := by
  rcases enroll_eq_error h with hown | ⟨out, hout, htaken⟩
  · exact (isOwn_of_compileResource hown name first second rfl).elim
  · obtain ⟨k, n, first', hfirst, hrejection⟩ := hnames.firstTaken_of_register htaken
    cases hrejection
    rw [List.length_map]
    exact ⟨out, k, hout, rfl, rfl, hfirst, rfl⟩

/-- An error about a name is for a resource of the batch, whose jobs would have come behind those of
the resources before it. -/
theorem exists_firstTaken_of_mem
    (h : ⟨key, endpoint, .duplicateJob name first second⟩ ∈ (c.compile rs).rejections) :
    ∃ i r out k, rs[i]? = some r ∧ c.compileResource r = .ok out ∧ key = out.key ∧
      endpoint = some k ∧
      FirstTaken ((c.compile (rs.take i)).jobs.map (·.name)) (out.jobs.map (·.name)) k name
        first ∧
      second = (c.compile (rs.take i)).jobs.length + k := by
  rw [rejections_compile] at h
  obtain ⟨o, ho, hrejection⟩ := List.mem_filterMap.mp h
  obtain ⟨i, r, hr, hi⟩ := exists_getElem?_of_mem (forall₂_accounts_outcomes c rs) ho
  have hempty : ({} : Registry).Holds (([] : List Job).map (·.name)) := Registry.holds_empty
  obtain ⟨names, hnames, houtcome⟩ := @exists_enroll_of_getElem? c r rs {} i [] hempty hr
  rw [List.nil_append, ← jobs_compile] at hnames
  have henroll : c.enroll names r =
      .error ⟨key, endpoint, .duplicateJob name first second⟩ := by
    obtain rfl := Option.some.inj (hi.symm.trans houtcome)
    cases h : c.enroll names r with
    | ok p =>
      rw [h] at hrejection
      cases hrejection
    | error rejection' =>
      rw [h] at hrejection
      exact congrArg _ (Option.some.inj hrejection)
  obtain ⟨out, k, hout, hkey, hendpoint, hfirst, hsecond⟩ := firstTaken_of_enroll hnames henroll
  exact ⟨i, r, out, k, hr, hout, hkey, hendpoint, hfirst, hsecond⟩

/-! ## The job that was kept -/

/-- What a batch keeps at a place stays there when more resources come. -/
theorem Batch.Keeps.of_take {place : Nat} (h : (c.compile (rs.take i)).Keeps place name) :
    (c.compile rs).Keeps place name := by
  obtain ⟨j, hj, hname⟩ := h
  obtain ⟨later, hjobs⟩ := c.jobs_eq_append rs i
  refine ⟨j, ?_, hname⟩
  rw [hjobs, List.getElem?_append_left (List.getElem?_eq_some_iff.mp hj).1]
  exact hj

/-- Behind the jobs of some resources a batch keeps those of the later ones. -/
theorem keeps_behind_iff {later : List Job}
    (hjobs : (c.compile rs).jobs = (c.compile (rs.take i)).jobs ++ later) (j : Nat) :
    (c.compile rs).Keeps ((c.compile (rs.take i)).jobs.length + j) name ↔
      ∃ job, later[j]? = some job ∧ job.name = name := by
  unfold Batch.Keeps
  rw [hjobs, List.getElem?_append_right (Nat.le_add_right _ _), Nat.add_sub_cancel_left]

theorem exists_job_of_name {jobs : List Job} {j : Nat}
    (h : (jobs.map (·.name))[j]? = some name) : ∃ job, jobs[j]? = some job ∧ job.name = name := by
  rw [List.getElem?_map] at h
  exact Option.map_eq_some_iff.mp h

/-- An error about a name names the job that was kept if that is one of an earlier resource, and so
whenever the names of the rejected resource are distinct. Else the name is the one of an earlier job
of the same resource, which is not kept: the place is the one that this job would have had behind
the jobs of the earlier resources, and the batch has a job with the name there only if a later
resource brings one. -/
theorem kept_of_duplicate
    (h : ⟨key, endpoint, .duplicateJob name first second⟩ ∈ (c.compile rs).rejections) :
    ∃ i r out k later, rs[i]? = some r ∧ c.compileResource r = .ok out ∧ key = out.key ∧
      endpoint = some k ∧ (∃ job, out.jobs[k]? = some job ∧ job.name = name) ∧
      (c.compile rs).jobs = (c.compile (rs.take i)).jobs ++ later ∧
      second = (c.compile (rs.take i)).jobs.length + k ∧
      ((∃ job ∈ (c.compile (rs.take i)).jobs, job.name = name) →
        (c.compile rs).Keeps first name) ∧
      ((out.jobs.map (·.name)).Nodup → (c.compile rs).Keeps first name) ∧
      ((∀ job ∈ (c.compile (rs.take i)).jobs, job.name ≠ name) →
        ∃ j < k, (∃ job, out.jobs[j]? = some job ∧ job.name = name) ∧
          first = (c.compile (rs.take i)).jobs.length + j ∧
          ((c.compile rs).Keeps first name ↔ ∃ job, later[j]? = some job ∧ job.name = name)) := by
  obtain ⟨i, r, out, k, hr, hout, hkey, hendpoint, hfirst, hsecond⟩ := exists_firstTaken_of_mem h
  obtain ⟨later, hjobs⟩ := c.jobs_eq_append rs i
  have hearlier : name ∈ (c.compile (rs.take i)).jobs.map (·.name) →
      (c.compile rs).Keeps first name := by
    intro hname
    exact Batch.Keeps.of_take (exists_job_of_name (hfirst.getElem?_of_mem hname))
  refine ⟨i, r, out, k, later, hr, hout, hkey, hendpoint, exists_job_of_name hfirst.name, hjobs,
    hsecond, ?_, ?_, ?_⟩
  · rintro ⟨job, hjob, hname⟩
    exact hearlier (List.mem_map.mpr ⟨job, hjob, hname⟩)
  · intro hdistinct
    apply hearlier
    by_contra hname
    obtain ⟨j, hj, hown, -⟩ := hfirst.exists_of_not_mem hname
    have hk : k < (out.jobs.map (·.name)).length :=
      (List.getElem?_eq_some_iff.mp hfirst.name).1
    exact List.nodup_iff_getElem?_ne_getElem?.mp hdistinct j k hj hk (hown.trans hfirst.name.symm)
  · intro hfree
    have hname : name ∉ (c.compile (rs.take i)).jobs.map (·.name) := by
      intro hmem
      obtain ⟨job, hjob, hname⟩ := List.mem_map.mp hmem
      exact hfree job hjob hname
    obtain ⟨j, hj, hown, hplace⟩ := hfirst.exists_of_not_mem hname
    rw [List.length_map] at hplace
    refine ⟨j, hj, exists_job_of_name hown, hplace, ?_⟩
    rw [hplace]
    exact keeps_behind_iff hjobs j

end Compiler

namespace Sample

/-- An endpoint at a port. -/
def endpointAt (port : String) : PodEndpoint :=
  { port := some (.name port), settings := .every "30s" }

/-- A resource with one of its ports twice. -/
def clashing : Resource where
  metadata := { name := some "web", inNamespace := some "shop" }
  target := .pod { endpoints := [endpointAt "admin", endpointAt "http", endpointAt "http"] }

/-- The resource with that port once. -/
def mended : Resource := { clashing with target := .pod { endpoints := [endpointAt "http"] } }

/-- The error names a place that is not in the batch, while the job that was kept is the only one.
For the rejected resource has the name twice. -/
theorem kept_elsewhere :
    (compiler.compile [clashing, mended]).rejections =
        [⟨"PodMonitoring/shop/web", some 2, .duplicateJob "PodMonitoring/shop/web/http" 1 2⟩] ∧
      (compiler.compile [clashing, mended]).jobs.map (·.name) =
        ["PodMonitoring/shop/web/http"] ∧
      ¬ (compiler.compile [clashing, mended]).Keeps 1 "PodMonitoring/shop/web/http" ∧
      ∃ r ∈ [clashing, mended], ∃ out, compiler.compileResource r = .ok out ∧
        ¬ (out.jobs.map (·.name)).Nodup := by
  obtain ⟨hrejections, hnames⟩ :
      (compiler.compile [clashing, mended]).rejections =
          [⟨"PodMonitoring/shop/web", some 2, .duplicateJob "PodMonitoring/shop/web/http" 1 2⟩] ∧
        (compiler.compile [clashing, mended]).jobs.map (·.name) =
          ["PodMonitoring/shop/web/http"] := by
    decide +kernel
  have hnot : ¬ (compiler.compile [clashing, mended]).Keeps 1 "PodMonitoring/shop/web/http" := by
    rintro ⟨j, hj, -⟩
    have hplace : ((compiler.compile [clashing, mended]).jobs.map (·.name))[1]? = some j.name := by
      rw [List.getElem?_map, hj]
      rfl
    rw [hnames] at hplace
    cases hplace
  have hmem := List.mem_singleton_self (⟨"PodMonitoring/shop/web", some 2,
    .duplicateJob "PodMonitoring/shop/web/http" 1 2⟩ : Rejection)
  rw [← hrejections] at hmem
  obtain ⟨i, r, out, k, later, hr, hout, -, -, -, -, -, -, hdistinct, -⟩ :=
    Compiler.kept_of_duplicate hmem
  exact ⟨hrejections, hnames, hnot, r, List.mem_of_getElem? hr, out, hout,
    fun hnodup => hnot (hdistinct hnodup)⟩

end Sample

end ScrapeJobs
