import ScrapeJobs.Proofs.Compiler.Acceptance
import ScrapeJobs.Proofs.Selection

/-!
# Label mappings reach nothing that the platform relies on

`Resource.withoutMappings` is a resource as it would be without its label mappings. Its jobs are
the same but for the rules of the mappings, which come last (`Job.Extends`): nothing else of a
resource depends on them, and a collector that takes the longer list of rules takes the shorter
one, too (`Compiler.Emits.exists_withoutMappings`). Each of these rules writes the target of a
mapping, which is no protected label, and drops nothing. So both jobs keep the same candidates, and
what they make of one agrees on all labels that are not the target of a mapping
(`run_withoutMappings`).
-/

namespace ScrapeJobs

open Label Labels Outcome Relabel

/-! ## The same without mappings -/

def PodSpec.withoutMappings (s : PodSpec) : PodSpec :=
  { s with targetLabels := { s.targetLabels with fromPod := [] } }

def Target.withoutMappings : Target → Target
  | pod s => pod s.withoutMappings
  | clusterPod s => clusterPod s.withoutMappings
  | t => t

def Resource.withoutMappings (r : Resource) : Resource :=
  { r with target := r.target.withoutMappings }

def JobContext.withoutMappings (ctx : JobContext) : JobContext :=
  { ctx with target := ctx.target.withoutMappings }

variable {c : Compiler} {r : Resource} {e : Endpoint} {i : Nat} {j j' : Job} {ctx : JobContext}
  {key : String} {scope : SecretScope} {s t : SecretPool} {parts : JobParts}
  {rules sel addr mapped : List Rule}

/-! ## Rules -/

namespace Phase

theorem allRules_of_parts (h : Parts ctx sel addr mapped) :
    allRules ctx = .ok (rulesBefore ctx sel addr ++ mapped) := by
  simp only [allRules, all, List.mapM_cons, List.mapM_nil, rules, h.selector, h.address, h.mapping]
  simp [rulesBefore, runningFilterRules, bind, Except.bind, pure, Except.pure]

/-- Only the phase of the mappings depends on them. -/
theorem Parts.withoutMappings (h : Parts ctx sel addr mapped) :
    Parts ctx.withoutMappings sel addr [] := by
  obtain ⟨platform, target, name, inNamespace, endpoint, port, metadata⟩ := ctx
  cases target <;> exact ⟨h.selector, h.address, rfl⟩

theorem rulesBefore_withoutMappings (ctx : JobContext) (sel addr : List Rule) :
    rulesBefore ctx.withoutMappings sel addr = rulesBefore ctx sel addr := by
  obtain ⟨platform, target, name, inNamespace, endpoint, port, metadata⟩ := ctx
  cases target <;> cases inNamespace <;> rfl

/-- The rules without mappings are those with them but for the last ones. -/
theorem exists_allRules_withoutMappings (h : allRules ctx = .ok rules) :
    ∃ front mapped, rules = front ++ mapped ∧ mappingRules ctx.target = .ok mapped ∧
      allRules ctx.withoutMappings = .ok front := by
  obtain ⟨sel, addr, mapped, hparts, rfl⟩ := exists_parts_of_allRules h
  refine ⟨rulesBefore ctx sel addr, mapped, rfl, hparts.mapping, ?_⟩
  rw [allRules_of_parts hparts.withoutMappings, rulesBefore_withoutMappings, List.append_nil]

/-- The rule of a mapping writes its target, which is no protected label. -/
theorem exists_mapping_of_mem_mappingRules {t : Target} {rule : Rule}
    (h : mappingRules t = .ok rules) (hr : rule ∈ rules) :
    ∃ m ∈ t.labelMappings, rule.Writes m.target ∧ m.target ∉ Protected.labels := by
  obtain ⟨name, hw, hnot, -⟩ := exists_of_mem_mappingRules h hr
  unfold mappingRules at h
  split at h
  · obtain ⟨m, hm, hrule⟩ := exists_of_mem_mapM h hr
    obtain ⟨-, rfl⟩ := LabelMapping.rule_eq_ok_iff.mp hrule
    obtain rfl : name = m.target := hw.target.symm
    refine ⟨m, hm, hw, fun hmem => ?_⟩
    rw [Protected.isProtected, List.contains_iff_mem.mpr hmem] at hnot
    cases hnot
  · cases h
    cases hr

end Phase

/-! ## Jobs -/

/-- A job that is accepted is accepted with a part of its rules, too. -/
theorem Job.check_of_subset (h : j.check = .ok ()) (hsubset : rules ⊆ j.relabeling) :
    ({ j with relabeling := rules } : Job).check = .ok () := by
  have hall : ∀ rule ∈ rules ++ j.metricRelabeling, rule.check = .ok () := by
    intro rule hr
    refine check_of_checkRules (checkRules_of_check h) ?_
    rcases List.mem_append.mp hr with hr | hr
    · exact List.mem_append_left _ (hsubset hr)
    · exact List.mem_append_right _ hr
  unfold check at h
  split at h
  · cases h
  · rename_i hnone
    obtain ⟨u, hclient, -⟩ := bind_eq_ok h
    have hfault : ({ j with relabeling := rules } : Job).fault? = none := hnone
    simp only [check, hfault, hclient, checkRules_eq_ok hall]
    rfl

/-- A job has the rules of another one and then those of mappings, and nothing else differs. -/
def Job.Extends (j j' : Job) (t : Target) : Prop :=
  ∃ mapped, Phase.mappingRules t = .ok mapped ∧
    j = { j' with relabeling := j'.relabeling ++ mapped }

namespace Compiler

theorem exists_compileJob_withoutMappings
    (h : (c.compileJob key i ctx scope).run s = (.ok j, t)) :
    ∃ j', (c.compileJob key i ctx.withoutMappings scope).run s = (.ok j', t) ∧
      j.Extends j' ctx.target := by
  obtain ⟨parts, hparts, rfl, k, hk⟩ := exists_parts_of_compileJob h
  obtain ⟨front, mapped, hrules, hmapped, hfront⟩ :=
    Phase.exists_allRules_withoutMappings hparts.relabeling
  have hmade : ({ parts with relabeling := front } : JobParts).MadeFrom ctx.withoutMappings scope
      s t := ⟨hparts.times, hfront, hparts.own, hparts.client, hparts.params⟩
  have hjob : ({ parts with relabeling := front } : JobParts).job c key i ctx.withoutMappings =
      { parts.job c key i ctx with relabeling := front } := by
    obtain ⟨platform, target, name, inNamespace, endpoint, port, metadata⟩ := ctx
    cases target <;> rfl
  have hchecked : (parts.job c key i ctx).check = .ok () := by
    rw [← normalize_job hparts key i]
    exact Job.check_normalize_of_load (mapError_eq_ok hk)
  have hsubset : front ⊆ (parts.job c key i ctx).relabeling := by
    rw [show (parts.job c key i ctx).relabeling = front ++ mapped from hrules]
    exact List.subset_append_left _ _
  refine ⟨({ parts with relabeling := front } : JobParts).job c key i ctx.withoutMappings, ?_,
    mapped, hmapped, ?_⟩
  · rw [run_compileJob hmade, Job.roundTrip_eq, normalize_job hmade, hjob,
      Job.check_of_subset hchecked hsubset]
    rfl
  · rw [hjob]
    exact congrArg (fun rules => { parts.job c key i ctx with relabeling := rules }) hrules

theorem exists_compileEndpoints_withoutMappings {context : Endpoint → Option Port → JobContext}
    {es : List Endpoint} {jobs : List Job}
    (h : compileEndpoints c key scope context s i es = .ok (jobs, t)) :
    ∃ jobs',
      compileEndpoints c key scope (fun e port => (context e port).withoutMappings) s i es =
        .ok (jobs', t) ∧
      List.Forall₂ (fun j j' => ∃ e port, j.Extends j' (context e port).target) jobs jobs' := by
  -- an endpoint leaves the same secrets to the next one with mappings and without
  induction es generalizing i s jobs with
  | nil =>
    cases h
    exact ⟨[], rfl, .nil⟩
  | cons e rest ih =>
    unfold compileEndpoints at h
    split at h
    · cases h
    · rename_i port hport
      split at h
      · cases h
      · rename_i job u hjob
        obtain ⟨⟨jobs, v⟩, hrest, h⟩ := bind_eq_ok h
        cases h
        obtain ⟨job', hjob', hextends⟩ := exists_compileJob_withoutMappings hjob
        obtain ⟨jobs', hrest', hall⟩ := ih hrest
        refine ⟨job' :: jobs', ?_, .cons ⟨e, port, hextends⟩ hall⟩
        simp only [compileEndpoints, hport, hjob', hrest']
        rfl

/-! ## Resources -/

theorem prepare_withoutMappings (c : Compiler) (r : Resource) :
    c.prepare r.withoutMappings = c.prepare r := by
  obtain ⟨metadata, target, status⟩ := r
  cases target <;> rfl

theorem key_withoutMappings (r : Resource) : r.withoutMappings.key = r.key := by
  obtain ⟨metadata, target, status⟩ := r
  cases target <;> rfl

theorem endpoints_withoutMappings (t : Target) : t.withoutMappings.endpoints = t.endpoints := by
  cases t <;> rfl

/-- A resource without its mappings is accepted, too, and the jobs of both go together. -/
theorem Emits.exists_withoutMappings (h : c.Emits r i e j) :
    ∃ j', c.Emits r.withoutMappings i e j' ∧ j.Extends j' r.target := by
  obtain ⟨out, hout, he, hj⟩ := h
  obtain ⟨p, hkey, hp, hjobs⟩ := exists_runs_of_compileResource hout
  obtain ⟨jobs', hjobs', hall⟩ := exists_compileEndpoints_withoutMappings hjobs
  obtain ⟨j', hj', e', port, hextends⟩ := exists_rel_of_getElem? hall hj
  have hendpoints : r.withoutMappings.target.endpoints = r.target.endpoints :=
    endpoints_withoutMappings r.target
  have hout' : c.compileResource r.withoutMappings =
      .ok { key := out.key, jobs := jobs', secrets := out.secrets } := by
    refine compileResource_of_runs ((key_withoutMappings r).trans hkey)
      ((prepare_withoutMappings c r).trans hp) ?_
    rw [hendpoints]
    exact hjobs'
  exact ⟨j', ⟨_, hout', hendpoints ▸ he, hj'⟩, hextends⟩

end Compiler

/-! ## Candidates -/

namespace Relabel

/-- Rules that write labels without `P` change nothing that is read of the labels with `P`. -/
theorem rel_pass_append_writes {P : String → Prop} (hread : ∀ rule ∈ mapped, rule.IsReadable)
    (hw : ∀ rule ∈ mapped, ∃ name, rule.Writes name ∧ ¬ P name) (ls : Labels) :
    Option.Rel (AgreeOn P) (pass ls (rules ++ mapped)) (pass ls rules) := by
  rw [pass_append]
  cases pass ls rules with
  | none => exact .none
  | some mid =>
    have hkept : (pass mid mapped).isSome = true := by
      refine isSome_pass hread (fun rule hr => ?_) mid
      obtain ⟨name, hwrites, -⟩ := hw rule hr
      exact hwrites.isFilter_eq
    obtain ⟨out, hout⟩ := Option.isSome_iff_exists.mp hkept
    rw [Option.bind_some, hout]
    refine .some fun l hl => get?_pass (fun rule hr htouch => ?_) hout
    obtain ⟨name, hwrites, hname⟩ := hw rule hr
    exact hname (hwrites.eq_of_touches htouch ▸ hl)

end Relabel

/-- An accepted resource is accepted without its label mappings, too, and its job for an endpoint
has the same settings. Of every candidate, both jobs make nothing or label sets that agree on the
protected labels and on all others that are not the target of a mapping. -/
theorem run_withoutMappings (h : c.Emits r i e j) :
    ∃ j', c.Emits r.withoutMappings i e j' ∧
      j = { j' with relabeling := j.relabeling } ∧
      ∀ ls, ∃ out out', run ls j.relabeling = .ok out ∧ run ls j'.relabeling = .ok out' ∧
        Option.Rel (AgreeOn fun l =>
          l ∈ Protected.labels ∨ ∀ m ∈ r.target.labelMappings, l ≠ m.target) out out' := by
  obtain ⟨j', hj', mapped, hmapped, hrules⟩ := h.exists_withoutMappings
  obtain ⟨ctx, -, hjob⟩ := h.exists_context
  obtain ⟨ctx', -, hjob'⟩ := hj'.exists_context
  have happend : j.relabeling = j'.relabeling ++ mapped := by rw [hrules]
  refine ⟨j', hj', by rw [happend]; exact hrules, fun ls => ?_⟩
  refine ⟨_, _, hjob.run_eq_pass ls, hjob'.run_eq_pass ls, ?_⟩
  rw [happend]
  refine rel_pass_append_writes (fun rule hr => ?_) (fun rule hr => ?_) ls
  · exact hjob.isReadable (happend ▸ List.mem_append_right _ hr)
  · obtain ⟨m, hm, hw, hnot⟩ := Phase.exists_mapping_of_mem_mappingRules hmapped hr
    exact ⟨m.target, hw, fun hl => hl.elim hnot fun hne => hne m hm rfl⟩

/-- The sample resource maps labels of its pods, and so its job has more rules. -/
theorem Sample.run_withoutMappings_resource :
    ∃ j j', compiler.Emits resource 0 (.pod named) j ∧
      compiler.Emits resource.withoutMappings 0 (.pod named) j' ∧
      ∃ out out', run candidate j.relabeling = .ok out ∧ run candidate j'.relabeling = .ok out' ∧
        Option.Rel (AgreeOn (· ∈ Protected.labels)) out out' := by
  obtain ⟨j, hj⟩ := Compiler.exists_emits isSome_compileResource
    (show resource.target.endpoints[0]? = some (.pod named) from rfl)
  obtain ⟨j', hj', -, hall⟩ := run_withoutMappings hj
  obtain ⟨out, out', hrun, hrun', hrel⟩ := hall candidate
  exact ⟨j, j', hj, hj', out, out', hrun, hrun', rel_mono hrel fun _ => .inl⟩

end ScrapeJobs
