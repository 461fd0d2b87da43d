import ScrapeJobs.Proofs.Compiler.Emits
import ScrapeJobs.Proofs.Relabel.Effects

/-!
# Protected labels survive

Rules for series come from users. A rule that is accepted touches no protected label
(`not_touches_of_check`) and takes proper label sets, in which each label has a valid name and
a value, to proper ones (`isProper_step`). Both hold of every run of accepted rules, and with
them of the rules for series of every job in a batch (`protected_labels_survive`).
-/

namespace ScrapeJobs

open Outcome Relabel

/-! ## Proper label sets -/

namespace Labels

variable {ls : Labels}

/-- Each label of the set has a valid name and a value that is not empty. -/
def IsProper (ls : Labels) : Prop :=
  ∀ l v, ls.get? l = some v → Label.isName l = true ∧ v ≠ ""

theorem isProper_empty : IsProper ∅ := by
  intro l v h
  cases h

theorem IsProper.set (h : ls.IsProper) {name : String} (hname : Label.isName name = true)
    (value : String) : (ls.set name value).IsProper := by
  intro l v hv
  rw [get?_set] at hv
  split at hv
  · rename_i hl
    split at hv
    · cases hv
    · rename_i hvalue
      cases hv
      exact ⟨hl ▸ hname, hvalue⟩
  · exact h l v hv

theorem IsProper.filterKeys (h : ls.IsProper) (p : String → Bool) :
    Labels.IsProper (ls.filterKeys p) := by
  intro l v hv
  rw [Dict.get?_filterKeys] at hv
  split at hv
  · exact h l v hv
  · cases hv

end Labels

/-- A series of the sample platform with a label that its rules remove. -/
def Sample.series : Labels := ((∅ : Labels).set Label.projectId "acme").set "tmp_shard" "3"

theorem Sample.isProper_series : series.IsProper :=
  (Labels.isProper_empty.set (by decide) "acme").set (by decide) "3"

namespace Protected

variable {r : Rule} {ls out : Labels}

/-! ## Accepted rules -/

theorem of_acceptDraft {d : Draft} (h : acceptDraft d = .ok r) :
    r.check = .ok () ∧ check r = .ok () := by
  unfold acceptDraft at h
  obtain ⟨u, hcheck, h⟩ := bind_eq_ok h
  obtain ⟨v, hprotected, h⟩ := bind_eq_ok h
  cases h
  exact ⟨mapError_eq_ok hcheck, hprotected⟩

theorem of_mem_accept {drafts : List Draft} {rules : List Rule} (h : accept drafts = .ok rules)
    (hr : r ∈ rules) : r.check = .ok () ∧ check r = .ok () := by
  obtain ⟨d, -, hd⟩ := exists_of_mem_mapM h hr
  exact of_acceptDraft hd

/-- A rule that passes the check neither writes a protected label nor removes one. -/
theorem not_touches_of_check (h : check r = .ok ()) {l : String} (hl : l ∈ labels) :
    ¬ r.Touches l := by
  unfold check at h
  unfold Rule.Touches
  cases ha : r.action with
  | keep | drop => exact not_false
  | replace =>
    simp only [ha] at h ⊢
    split at h
    · cases h
    · rename_i hdollar
      split at h
      · cases h
      · rename_i hprotected
        rintro (hmem | rfl)
        · exact hdollar (List.contains_iff_mem.mpr hmem)
        · exact hprotected (List.contains_iff_mem.mpr hl)
  | hashMod =>
    simp only [ha] at h ⊢
    split at h
    · cases h
    · split at h
      · cases h
      · rename_i hprotected
        rintro rfl
        exact hprotected (List.contains_iff_mem.mpr hl)
  | labelMap =>
    simp only [ha] at h
    cases h
  | labelDrop =>
    simp only [ha] at h ⊢
    rintro ⟨regex, hregex, hm⟩
    simp only [hregex] at h
    split at h
    · cases h
    · rename_i hfind
      exact absurd hm (List.find?_eq_none.mp hfind l hl)
  | labelKeep =>
    simp only [ha] at h ⊢
    rintro ⟨regex, hregex, hm⟩
    simp only [hregex] at h
    split at h
    · cases h
    · rename_i hfind
      have hfound := List.find?_eq_none.mp hfind l hl
      rw [hm] at hfound
      exact hfound rfl

theorem isName_target_of_check (h : r.check = .ok ()) (ha : r.action = .hashMod) :
    Label.isName r.targetLabel = true := by
  unfold Rule.check at h
  split at h
  · cases h
  · split at h
    · cases h
    · unfold Rule.checkAction at h
      simp only [ha] at h
      split at h
      · cases h
      · split at h
        · cases h
        · split at h
          · assumption
          · cases h

/-- An accepted rule writes labels with valid names only, and never an empty value. -/
theorem isProper_step (hcheck : r.check = .ok ()) (hprotected : check r = .ok ())
    (hls : ls.IsProper) (h : r.step ls = some out) : out.IsProper := by
  obtain ⟨regex, hregex, happly⟩ := Option.bind_eq_some_iff.mp h
  unfold Rule.apply at happly
  cases ha : r.action with
  | keep | drop =>
    have hf : r.isFilter = true := by simp [Rule.isFilter, ha]
    rw [eq_of_step_of_isFilter hf h]
    exact hls
  | replace =>
    simp only [ha] at happly
    split at happly
    · cases happly
      exact hls
    · split at happly
      · rename_i hname
        cases happly
        exact hls.set hname _
      · cases happly
        exact hls
  | hashMod =>
    simp only [ha] at happly
    cases happly
    exact hls.set (isName_target_of_check hcheck ha) _
  | labelMap =>
    unfold check at hprotected
    simp only [ha] at hprotected
    cases hprotected
  | labelDrop | labelKeep =>
    simp only [ha] at happly
    cases happly
    exact hls.filterKeys _

theorem isProper_pass {rules : List Rule}
    (h : ∀ r ∈ rules, r.check = .ok () ∧ check r = .ok ()) (hls : ls.IsProper)
    (hpass : pass ls rules = some out) : out.IsProper := by
  induction rules generalizing ls with
  | nil =>
    cases hpass
    exact hls
  | cons r rest ih =>
    rw [pass_cons] at hpass
    obtain ⟨mid, hstep, hrest⟩ := Option.bind_eq_some_iff.mp hpass
    obtain ⟨hcheck, hprotected⟩ := h r List.mem_cons_self
    exact ih (fun r hr => h r (List.mem_cons_of_mem _ hr))
      (isProper_step hcheck hprotected hls hstep) hrest

/-! ## Series of compiled jobs -/

/-- The rules of a compiler for every series are accepted ones. -/
theorem accept_metricRules_of_new {p : Platform} {c : Compiler} (h : Compiler.new p = .ok c) :
    accept p.metricRelabeling = .ok c.metricRules := by
  unfold Compiler.new at h
  obtain ⟨u, -, h⟩ := bind_eq_ok h
  obtain ⟨rules, hrules, h⟩ := bind_eq_ok h
  cases h
  exact mapError_eq_ok hrules

/-- The rules of a job for its series are those of an endpoint and then those for every
series. No rule fails, the series that are kept have the protected labels that they had
before, with the values that these had, and they are proper again. -/
theorem protected_labels_survive {p : Platform} {c : Compiler} {rs : List Resource} {j : Job}
    {series : Labels} (hc : Compiler.new p = .ok c) (hj : j ∈ (c.compile rs).jobs)
    (hseries : series.IsProper) :
    (∃ r ∈ rs, ∃ e ∈ r.target.endpoints, ∃ own global,
      accept e.settings.metricRelabeling = .ok own ∧ accept p.metricRelabeling = .ok global ∧
        j.metricRelabeling = own ++ global) ∧
      ∃ out, run series j.metricRelabeling = .ok out ∧ ∀ ls, out = some ls →
        (∀ l ∈ labels, ls.get? l = series.get? l) ∧ ls.IsProper := by
  obtain ⟨r, hr, i, e, hemits⟩ := Compiler.exists_emits_of_mem_jobs hj
  obtain ⟨ctx, hctx, hjob⟩ := hemits.exists_context
  obtain ⟨own, hown, hrules⟩ := hjob.metricRelabeling
  have hglobal := accept_metricRules_of_new hc
  rw [hctx.endpoint] at hown
  refine ⟨⟨r, hr, e, ?_, own, c.metricRules, hown, hglobal, hrules⟩, ?_⟩
  · obtain ⟨out, -, he, -⟩ := hemits
    exact List.mem_of_getElem? he
  · have haccepted : ∀ r ∈ j.metricRelabeling, r.check = .ok () ∧ check r = .ok () := by
      intro rule hrule
      rw [hrules] at hrule
      rcases List.mem_append.mp hrule with hrule | hrule
      · exact of_mem_accept hown hrule
      · exact of_mem_accept hglobal hrule
    refine ⟨pass series j.metricRelabeling,
      run_eq_pass (fun r hr => isReadable_of_check (haccepted r hr).1) series, ?_⟩
    intro ls hls
    exact ⟨fun l hl => get?_pass (fun r hr => not_touches_of_check (haccepted r hr).2 hl) hls,
      isProper_pass haccepted hseries hls⟩

/-- The rules of a job of the sample platform remove a label and leave the project. -/
theorem projectId_survives_sample :
    ∃ j ∈ (Sample.compiler.compile [Sample.resource]).jobs, ∃ ls,
      run Sample.series j.metricRelabeling = .ok (some ls) ∧ ls.get? "tmp_shard" = none ∧
        ls.get? Label.projectId = some "acme" := by
  obtain ⟨j, hj⟩ := List.exists_mem_of_ne_nil _ Sample.jobs_ne_nil
  obtain ⟨⟨r, hr, e, he, own, global, hown, hglobal, hrules⟩, out, hrun, hout⟩ :=
    protected_labels_survive Sample.new_platform hj Sample.isProper_series
  obtain rfl := List.mem_singleton.mp hr
  have hnone : ∀ e ∈ Sample.resource.target.endpoints, e.settings.metricRelabeling = [] := by
    decide
  rw [hnone e he] at hown
  have hnil : [] = own := Except.ok.inj hown
  have hnew : global = Sample.compiler.metricRules :=
    Except.ok.inj (hglobal.symm.trans (accept_metricRules_of_new Sample.new_platform))
  rw [← hnil, hnew, List.nil_append] at hrules
  have hsample : (run Sample.series Sample.compiler.metricRules).toOption.join.map
      (·.get? "tmp_shard") = some none := by
    decide +kernel
  rw [← hrules, hrun] at hsample
  obtain ⟨ls, hls, htmp⟩ := Option.map_eq_some_iff.mp hsample
  refine ⟨j, hj, ls, hrun.trans (congrArg _ hls), htmp, ?_⟩
  rw [(hout ls hls).1 _ (by decide)]
  decide

end Protected

end ScrapeJobs
