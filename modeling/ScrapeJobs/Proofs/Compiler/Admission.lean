import ScrapeJobs.Proofs.Compiler.Order

/-!
# Admission

A resource may be checked on its own before it is stored, and later it is compiled in a batch. Its
jobs are registered in an empty registry first and among the jobs of other resources then. Names
that clash with each other clash in every registry, and names that do not can only be taken by a
registered one (`Registry.Holds.register_own_clash`, `Registry.Holds.register_distinct`). So the
check and the batch agree (`Compiler.outcome_agrees_with_validate`).
-/

namespace ScrapeJobs

open Outcome

/-- The error says that a job has the name of another one. -/
def Rejection.IsDuplicate (r : Rejection) : Prop :=
  ∃ name first second, r.cause = .duplicateJob name first second

namespace Compiler

variable {c : Compiler} {r : Resource} {rs : List Resource} {names : Registry} {i : Nat}
  {rejection : Rejection} {out : Compiled} {o : Except Rejection Compiled} {earlier : List Job}

/-! ## Resources on their own -/

theorem validate_of_compileResource_error (h : c.compileResource r = .error rejection) :
    c.validate r = .error rejection := by
  rw [validate, enroll_of_error h]
  rfl

/-- A resource that compiles passes the check if the names of its jobs are distinct. -/
theorem validate_of_compileResource_ok (h : c.compileResource r = .ok out) :
    c.validate r =
      (({} : Registry).register out.key (out.jobs.map (·.name))).map fun _ => () := by
  rw [validate, enroll_of_ok h]
  cases ({} : Registry).register out.key (out.jobs.map (·.name)) <;> rfl

/-- A batch of one resource is rejected exactly with the error of the check. -/
theorem rejections_singleton (c : Compiler) (r : Resource) :
    (c.compile [r]).rejections =
      match c.validate r with
      | .ok () => []
      | .error rejection => [rejection] := by
  rw [rejections_compile, outcomes_singleton, alone, validate]
  cases c.enroll {} r <;> rfl

/-! ## Agreement -/

/-- What becomes of a resource in a batch, where these jobs are before it, agrees with the check of
the resource on its own. -/
structure Agrees (c : Compiler) (earlier : List Job) (r : Resource)
    (o : Except Rejection Compiled) : Prop where
  /-- A resource that passes is compiled completely, and it is accepted unless an earlier job has
  the name of one of its jobs. -/
  passed : c.validate r = .ok () →
    ∃ out, c.IsComplete r out ∧
      (o = .ok out ∨
        ∃ (k first second : Nat) (own held : Job), out.jobs[k]? = some own ∧
          earlier[first]? = some held ∧ held.name = own.name ∧
          o = .error ⟨out.key, some k, .duplicateJob held.name first second⟩)
  /-- An error that is not about names is the error in the batch. -/
  failed : ∀ rejection, c.validate r = .error rejection → ¬ rejection.IsDuplicate →
    o = .error rejection
  /-- Names that clash on their own clash in the batch. -/
  clashed : ∀ rejection, c.validate r = .error rejection → rejection.IsDuplicate →
    ∃ rejection', o = .error rejection' ∧ rejection'.IsDuplicate

theorem agrees_of_compileResource_error (h : c.compileResource r = .error rejection) :
    c.Agrees earlier r (.error rejection) := by
  have hvalidate := validate_of_compileResource_error h
  refine ⟨?_, ?_, ?_⟩
  · intro hpassed
    cases hvalidate.symm.trans hpassed
  · intro rejection' hfailed hother
    cases hvalidate.symm.trans hfailed
    rfl
  · intro rejection' hfailed hduplicate
    cases hvalidate.symm.trans hfailed
    exact ⟨rejection, rfl, hduplicate⟩

/-- A resource whose own names are distinct passes the check, and in the batch only an earlier job
can have one of them. -/
theorem agrees_of_nodup (hnames : names.Holds (earlier.map (·.name)))
    (hout : c.compileResource r = .ok out) (hnodup : (out.jobs.map (·.name)).Nodup) :
    c.Agrees earlier r ((names.register out.key (out.jobs.map (·.name))).map fun _ => out) := by
  obtain ⟨names', hempty⟩ := (Registry.register_empty_iff out.key).mpr hnodup
  have hvalidate : c.validate r = .ok () := by
    rw [validate_of_compileResource_ok hout, hempty]
    rfl
  refine ⟨fun _ => ⟨out, isComplete_of_compileResource hout, ?_⟩, fun rejection hfailed => ?_,
    fun rejection hfailed => ?_⟩
  · rcases hnames.register_distinct out.key hnodup with
      ⟨names'', hok⟩ | ⟨k, n, first, hk, hfirst, herror⟩
    · rw [hok]
      exact .inl rfl
    · rw [List.getElem?_map] at hk hfirst
      obtain ⟨own, hown, rfl⟩ := Option.map_eq_some_iff.mp hk
      obtain ⟨held, hheld, hname⟩ := Option.map_eq_some_iff.mp hfirst
      rw [herror, ← hname]
      exact .inr ⟨k, first, _, own, held, hown, hheld, hname, rfl⟩
  · cases hvalidate.symm.trans hfailed
  · cases hvalidate.symm.trans hfailed

/-- A resource whose own names clash fails the check for a name, and so it does in the batch. -/
theorem agrees_of_not_nodup (hnames : names.Holds (earlier.map (·.name)))
    (hout : c.compileResource r = .ok out) (hnodup : ¬ (out.jobs.map (·.name)).Nodup) :
    c.Agrees earlier r ((names.register out.key (out.jobs.map (·.name))).map fun _ => out) := by
  obtain ⟨_, n, first, second, hempty⟩ := Registry.holds_empty.register_own_clash out.key hnodup
  obtain ⟨_, n', first', second', herror⟩ := hnames.register_own_clash out.key hnodup
  have hvalidate := validate_of_compileResource_ok hout
  rw [hempty] at hvalidate
  rw [herror]
  refine ⟨fun hpassed => ?_, fun rejection hfailed hother => ?_,
    fun rejection _ _ => ⟨_, rfl, n', first', second', rfl⟩⟩
  · cases hvalidate.symm.trans hpassed
  · cases hvalidate.symm.trans hfailed
    exact (hother ⟨n, first, second, rfl⟩).elim

/-- Registering a resource behind the jobs of a batch agrees with the check. -/
theorem agrees_of_enroll (hnames : names.Holds (earlier.map (·.name))) :
    c.Agrees earlier r ((c.enroll names r).map (·.1)) := by
  cases hout : c.compileResource r with
  | error rejection =>
    rw [enroll_of_error hout]
    exact agrees_of_compileResource_error hout
  | ok out =>
    have henroll : (c.enroll names r).map (·.1) =
        (names.register out.key (out.jobs.map (·.name))).map fun _ => out := by
      rw [enroll_of_ok hout]
      cases names.register out.key (out.jobs.map (·.name)) <;> rfl
    rw [henroll]
    by_cases hnodup : (out.jobs.map (·.name)).Nodup
    · exact agrees_of_nodup hnames hout hnodup
    · exact agrees_of_not_nodup hnames hout hnodup

/-- The check of a resource on its own says what becomes of it in a batch. A resource that passes
is accepted, unless an earlier accepted resource has a job of the same name. A resource that does
not pass is rejected with the same error, or for a name if the error is about names. A batch of the
resource alone is rejected exactly with the error of the check. -/
theorem outcome_agrees_with_validate (c : Compiler) (hr : rs[i]? = some r) :
    (∃ o, (c.outcomes {} rs)[i]? = some o ∧ c.Agrees (c.compile (rs.take i)).jobs r o) ∧
      (c.compile rs).jobs = (accepted (c.outcomes {} rs)).flatMap (·.jobs) ∧
      (c.compile rs).rejections = rejected (c.outcomes {} rs) ∧
      (c.validate r = .ok () ↔ (c.compile [r]).rejections = []) ∧
      ∀ rejection, c.validate r = .error rejection → (c.compile [r]).rejections = [rejection] := by
  have hempty : ({} : Registry).Holds (([] : List Job).map (·.name)) := Registry.holds_empty
  obtain ⟨names, hnames, ho⟩ := @exists_enroll_of_getElem? c r rs {} i [] hempty hr
  rw [List.nil_append, ← jobs_compile] at hnames
  refine ⟨⟨_, ho, agrees_of_enroll hnames⟩, jobs_compile c rs, rejections_compile c rs, ?_, ?_⟩
  · rw [rejections_singleton]
    cases c.validate r <;> simp
  · intro rejection hfailed
    rw [rejections_singleton, hfailed]

end Compiler

namespace Sample

/-- A resource passes on its own and is rejected when it comes a second time, also behind one that
is rejected for its own names. -/
theorem agrees_again :
    compiler.validate nodes = .ok () ∧ [nodes, twice, nodes][2]? = some nodes ∧
      ∃ o, (compiler.outcomes {} [nodes, twice, nodes])[2]? = some o ∧
        compiler.Agrees (compiler.compile [nodes, twice]).jobs nodes o ∧
        (compiler.compile [nodes, twice, nodes]).rejections = [
          ⟨"PodMonitoring/shop.a/twice", some 1,
            .duplicateJob "PodMonitoring/shop.a/twice/web/http" 1 2⟩,
          ⟨"ClusterNodeMonitoring/n", some 0, .duplicateJob "ClusterNodeMonitoring/n/0" 0 1⟩] := by
  have hplace : [nodes, twice, nodes][2]? = some nodes := rfl
  obtain ⟨⟨o, ho, hagrees⟩, -⟩ := Compiler.outcome_agrees_with_validate compiler hplace
  exact ⟨by decide +kernel, hplace, o, ho, hagrees, by decide +kernel⟩

end Sample

end ScrapeJobs
