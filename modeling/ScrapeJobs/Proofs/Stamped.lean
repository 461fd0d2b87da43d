import ScrapeJobs.Proofs.Compiler.Emits
import ScrapeJobs.Proofs.Selection

/-!
# Constants that every target carries

`Stamped` lists the constants that a job writes to labels of its targets: the identifiers of
the platform, the name and the namespace of the resource, and the address of a prober. Only
one rule of a job writes each of these labels (`Stamped.exists_rule`), so what a kept target has
there is what the constant comes out as.

A constant is written through a replacement template. It comes out as it is exactly if no
dollar sign in it starts a reference or doubles another one (`get?_stamped_iff`); a platform
that is accepted can have other names (`not_stamped_verbatim`).
-/

namespace ScrapeJobs

open Compiler Label Outcome Relabel

/-- The job of a resource writes a constant to a label. -/
inductive Stamped (p : Platform) (r : Resource) : String → String → Prop where
  | projectId : Stamped p r Label.projectId p.projectId
  | location : Stamped p r Label.location p.location
  | cluster : Stamped p r Label.cluster p.cluster
  | job {name : String} (h : r.name = .ok name) : Stamped p r Label.job name
  | namespaceName {ns : String} (h : r.namespace? = .ok (some ns)) :
    Stamped p r Label.namespaceName ns
  | address {prober : String} (h : r.target.prober? = some prober) :
    Stamped p r Label.address prober

variable {c : Compiler} {p : Platform} {r : Resource} {e : Endpoint} {i : Nat} {j : Job}
  {ctx : JobContext} {rule : Rule} {sel addr mapped : List Rule} {label text : String}

/-! ## No constant is empty -/

theorem Platform.ne_empty_of_check (h : p.check = .ok ()) :
    p.projectId ≠ "" ∧ p.location ≠ "" ∧ p.cluster ≠ "" := by
  unfold Platform.check at h
  split at h
  · cases h
  · split at h
    · cases h
    · split at h
      · cases h
      · exact ⟨by assumption, by assumption, by assumption⟩

theorem Compiler.of_new (h : Compiler.new p = .ok c) : p.check = .ok () ∧ c.platform = p := by
  unfold Compiler.new at h
  obtain ⟨u, hcheck, h⟩ := bind_eq_ok h
  obtain ⟨rules, -, h⟩ := bind_eq_ok h
  cases h
  exact ⟨hcheck, rfl⟩

theorem Compiler.prober_ne_empty {t : Target} (h : Compiler.checkTarget t = .ok ())
    {prober : String} (hp : t.prober? = some prober) : prober ≠ "" := by
  rintro rfl
  unfold Compiler.checkTarget at h
  split at h
  · cases h
  · split at h
    · cases h
    · cases h

theorem Stamped.ne_empty (h : Stamped p r label text) (hp : p.check = .ok ())
    (ht : Compiler.checkTarget r.target = .ok ()) : text ≠ "" := by
  obtain ⟨hproject, hlocation, hcluster⟩ := Platform.ne_empty_of_check hp
  cases h with
  | projectId => exact hproject
  | location => exact hlocation
  | cluster => exact hcluster
  | job hname => exact r.name_ne_empty hname
  | namespaceName hns => exact r.namespace_ne_empty hns
  | address hprober => exact Compiler.prober_ne_empty ht hprober

/-! ## The only rule for a label -/

theorem MetadataLabel.not_mem_of_namespaced {requested : Option (List String)}
    {ms : List MetadataLabel} (h : resolve requested [] namespaced = .ok ms) :
    ofNamespace ∉ ms := by
  unfold resolve at h
  intro hmem
  split at h
  · cases h
    simp [sorted] at hmem
  · obtain ⟨found, hfound, h⟩ := map_eq_ok h
    subst h
    have hmem' : ofNamespace ∈ found := by
      simpa using (List.mem_filter.mp hmem).2
    obtain ⟨name, -, hname⟩ := exists_of_mem_mapM hfound hmem'
    unfold find at hname
    split at hname
    · rename_i l hl
      cases hname
      exact absurd (List.mem_of_find?_eq_some hl) (by decide)
    · cases hname

/-- A resource of a namespace does not copy the namespace of its pods over its own. -/
theorem Compiler.IsContext.ofNamespace_not_mem (h : IsContext c r e ctx) {ns : String}
    (hns : ctx.inNamespace = some ns) : MetadataLabel.ofNamespace ∉ ctx.metadata := by
  have hmetadata := h.metadata
  have hnamespace := h.inNamespace
  unfold Target.metadata at hmetadata
  split at hmetadata
  · exact MetadataLabel.not_mem_of_namespaced hmetadata
  · rename_i spec hspec
    rw [Resource.namespace?, Resource.kind, hspec, hns] at hnamespace
    cases hnamespace
  all_goals
    have hnil : [] = ctx.metadata := Except.ok.inj hmetadata
    rw [← hnil]
    exact List.not_mem_nil

/-- The constants of every job with their labels. -/
def constants (ctx : JobContext) : List (String × String) := [
  (Label.projectId, ctx.platform.projectId), (Label.location, ctx.platform.location),
  (Label.cluster, ctx.platform.cluster), (Label.job, ctx.name)]

theorem exists_constant_of_mem_forcedLabelRules (hr : rule ∈ Phase.forcedLabelRules ctx.platform) :
    ∃ l v, (l, v) ∈ constants ctx ∧ rule = .set l v := by
  simp only [Phase.forcedLabelRules, List.mem_cons, List.not_mem_nil, or_false] at hr
  rcases hr with rfl | rfl | rfl
  · exact ⟨_, _, List.mem_cons_self, rfl⟩
  · exact ⟨_, _, List.mem_cons_of_mem _ List.mem_cons_self, rfl⟩
  · exact ⟨_, _, List.mem_cons_of_mem _ (List.mem_cons_of_mem _ List.mem_cons_self), rfl⟩

theorem isName_of_mem_constants {v : String} (h : (label, v) ∈ constants ctx) :
    isName label = true := by
  have hnames : ∀ l ∈ [Label.projectId, Label.location, Label.cluster, Label.job],
      isName l = true := by decide
  exact hnames label (List.mem_map_of_mem (f := Prod.fst) h)

/-- What a rule of a job may write: a constant, the namespace, metadata, an address or a label
that is not protected. -/
theorem touches_cases (hparts : Phase.Parts ctx sel addr mapped)
    (hr : rule ∈ Phase.rulesBefore ctx sel addr ++ mapped) (ht : rule.Touches label) :
    (∃ v, (label, v) ∈ constants ctx ∧ rule = .set label v) ∨
      (rule ∈ Phase.namespaceLabel ctx.inNamespace ∧ label = Label.namespaceName) ∨
        (∃ m ∈ ctx.metadata, label = m.name) ∨
          (rule ∈ addr ∧ label ∈ Phase.addressLabels) ∨ Protected.isProtected label = false := by
  have hconstant : (∃ l v, (l, v) ∈ constants ctx ∧ rule = .set l v) →
      ∃ v, (label, v) ∈ constants ctx ∧ rule = .set label v := by
    rintro ⟨l, v, hmem, rfl⟩
    have hw := Phase.writes_set (isName_of_mem_constants hmem) v
    obtain rfl := hw.eq_of_touches ht
    exact ⟨v, hmem, rfl⟩
  rcases List.mem_append.mp hr with hr | hr
  · rcases Phase.mem_rulesBefore.mp hr with hr | hr | hr | hr | hr | hr | hr | hr
    · exact .inl (hconstant (exists_constant_of_mem_forcedLabelRules hr))
    · exact (not_touches_of_isFilter (Phase.isFilter_of_mem_namespaceFilter hr).1 _ ht).elim
    · exact (not_touches_of_isFilter (Phase.isFilter_of_mem_selectorFilter hparts.selector hr).1 _ ht).elim
    · exact .inr (.inl ⟨hr, (Phase.writes_of_mem_namespaceLabel hr).2.eq_of_touches ht⟩)
    · obtain ⟨m, hm, hw, -⟩ := MetadataLabel.exists_of_mem_rules hr
      exact .inr (.inr (.inl ⟨m, hm, hw.eq_of_touches ht⟩))
    · exact .inl (hconstant ⟨Label.job, ctx.name, by simp [constants], hr⟩)
    · exact (not_touches_of_isFilter (Phase.isFilter_of_mem_runningFilterRules hr).1 _ ht).elim
    · exact .inr (.inr (.inr (.inl ⟨hr, Phase.mem_addressLabels_of_touches hparts.address hr ht⟩)))
  · obtain ⟨name, hw, hprotected, -⟩ := Phase.exists_of_mem_mappingRules hparts.mapping hr
    rw [hw.eq_of_touches ht]
    exact .inr (.inr (.inr (.inr hprotected)))

theorem set_mem_of_mem_constants {v : String} (h : (label, v) ∈ constants ctx) :
    .set label v ∈ Phase.rulesBefore ctx sel addr := by
  simp only [constants, List.mem_cons, Prod.mk.injEq, List.not_mem_nil, or_false] at h
  rw [Phase.mem_rulesBefore]
  rcases h with ⟨rfl, rfl⟩ | ⟨rfl, rfl⟩ | ⟨rfl, rfl⟩ | ⟨rfl, rfl⟩
  all_goals simp [Phase.forcedLabelRules]

/-- A label of a constant is written by the rule for this constant only. -/
theorem eq_set_of_touches_constant (hparts : Phase.Parts ctx sel addr mapped)
    (hmem : (label, text) ∈ constants ctx)
    (hr : rule ∈ Phase.rulesBefore ctx sel addr ++ mapped) (ht : rule.Touches label) :
    rule = .set label text := by
  have hlabel : label ∈ [Label.projectId, Label.location, Label.cluster, Label.job] :=
    List.mem_map_of_mem (f := Prod.fst) hmem
  rcases touches_cases hparts hr ht with ⟨v, hv, rfl⟩ | ⟨-, rfl⟩ | ⟨m, -, rfl⟩ |
    ⟨-, haddress⟩ | hprotected
  · have hkeys : ((constants ctx).map (·.1)).Nodup :=
      show [Label.projectId, Label.location, Label.cluster, Label.job].Nodup by decide
    have heq : (label, v) = (label, text) := List.inj_on_of_nodup_map hkeys hv hmem rfl
    rw [(Prod.mk.inj heq).2]
  · exact absurd hlabel (by decide)
  · exact absurd hlabel (by cases m <;> decide)
  · have hnot : ∀ l ∈ Phase.addressLabels,
        l ∉ [Label.projectId, Label.location, Label.cluster, Label.job] := by decide
    exact absurd hlabel (hnot label haddress)
  · have hall : ∀ l ∈ [Label.projectId, Label.location, Label.cluster, Label.job],
        Protected.isProtected l = true := by decide
    rw [hall label hlabel] at hprotected
    cases hprotected

theorem eq_set_of_touches_namespace (hctx : IsContext c r e ctx)
    (hparts : Phase.Parts ctx sel addr mapped)
    (hns : ctx.inNamespace = some text)
    (hr : rule ∈ Phase.rulesBefore ctx sel addr ++ mapped)
    (ht : rule.Touches Label.namespaceName) : rule = .set Label.namespaceName text := by
  rcases touches_cases hparts hr ht with ⟨v, hv, -⟩ | ⟨hr, -⟩ | ⟨m, hm, hname⟩ |
    ⟨-, haddress⟩ | hprotected
  · have hlabel : Label.namespaceName ∈
        [Label.projectId, Label.location, Label.cluster, Label.job] :=
      List.mem_map_of_mem (f := Prod.fst) hv
    exact absurd hlabel (by decide)
  · rw [hns] at hr
    exact List.mem_singleton.mp hr
  · cases m with
    | ofNamespace => exact (hctx.ofNamespace_not_mem hns hm).elim
    | pod | container | node | controllerName | controllerType => exact absurd hname (by decide)
  · exact absurd haddress (by decide)
  · exact absurd hprotected (by decide)

theorem eq_of_addressRules_probe {addr : List Rule} (haddr : Phase.addressRules ctx = .ok addr)
    {m : ProbeModule} (hm : ctx.endpoint = .probe m) (hprober : ctx.target.prober? = some text) :
    addr = [.copy [Label.address] paramTarget, .copy [paramTarget] instanceName,
      .set Label.address text] := by
  rw [Phase.addressRules, hm] at haddr
  simp only [hprober] at haddr
  exact (Except.ok.inj haddr).symm

theorem eq_set_of_touches_address (hparts : Phase.Parts ctx sel addr mapped) {m : ProbeModule}
    (hm : ctx.endpoint = .probe m) (hprober : ctx.target.prober? = some text)
    (hr : rule ∈ Phase.rulesBefore ctx sel addr ++ mapped) (ht : rule.Touches Label.address) :
    rule = .set Label.address text := by
  rcases touches_cases hparts hr ht with ⟨v, hv, -⟩ | ⟨-, hname⟩ | ⟨m, -, hname⟩ |
    ⟨hr, -⟩ | hprotected
  · have hlabel : Label.address ∈ [Label.projectId, Label.location, Label.cluster, Label.job] :=
      List.mem_map_of_mem (f := Prod.fst) hv
    exact absurd hlabel (by decide)
  · exact absurd hname (by decide)
  · exact absurd hname (by cases m <;> decide)
  · rw [eq_of_addressRules_probe hparts.address hm hprober] at hr
    simp only [List.mem_cons, List.not_mem_nil, or_false] at hr
    rcases hr with rfl | rfl | rfl
    · have hw : Rule.Writes (.copy [Label.address] paramTarget) paramTarget :=
        ⟨rfl, rfl, by decide⟩
      exact absurd (hw.eq_of_touches ht) (by decide)
    · have hw : Rule.Writes (.copy [paramTarget] instanceName) instanceName :=
        ⟨rfl, rfl, by decide⟩
      exact absurd (hw.eq_of_touches ht) (by decide)
    · rfl
  · exact absurd hprotected (by decide)

/-- A job writes each of its constants by one rule, and no other rule of it touches the label. -/
theorem Stamped.exists_rule (h : Stamped p r label text) (hp : c.platform = p)
    (he : e ∈ r.target.endpoints) (hctx : IsContext c r e ctx)
    (hparts : Phase.Parts ctx sel addr mapped) :
    isName label = true ∧ .set label text ∈ Phase.rulesBefore ctx sel addr ++ mapped ∧
      ∀ rule ∈ Phase.rulesBefore ctx sel addr ++ mapped, rule.Touches label →
        rule = .set label text := by
  have hconstant : (label, text) ∈ constants ctx → isName label = true ∧
      .set label text ∈ Phase.rulesBefore ctx sel addr ++ mapped ∧
      ∀ rule ∈ Phase.rulesBefore ctx sel addr ++ mapped, rule.Touches label →
        rule = .set label text := by
    intro hmem
    exact ⟨isName_of_mem_constants hmem, List.mem_append_left _ (set_mem_of_mem_constants hmem),
      fun rule hr ht => eq_set_of_touches_constant hparts hmem hr ht⟩
  have hplatform : ctx.platform = p := hctx.platform.trans hp
  cases h with
  | projectId => exact hconstant (by simp [constants, hplatform])
  | location => exact hconstant (by simp [constants, hplatform])
  | cluster => exact hconstant (by simp [constants, hplatform])
  | job hname =>
    have hctxName : ctx.name = text := Except.ok.inj (hctx.name.symm.trans hname)
    exact hconstant (by simp [constants, hctxName])
  | namespaceName hns =>
    have hctxNs : ctx.inNamespace = some text :=
      Except.ok.inj (hctx.inNamespace.symm.trans hns)
    refine ⟨by decide, List.mem_append_left _ (Phase.mem_rulesBefore.mpr ?_), fun rule hr ht =>
      eq_set_of_touches_namespace hctx hparts hctxNs hr ht⟩
    simp [Phase.namespaceLabel, hctxNs]
  | address hprober =>
    rw [← hctx.target] at hprober
    obtain ⟨m, hm⟩ : ∃ m, ctx.endpoint = .probe m := by
      rw [hctx.endpoint]
      rw [← hctx.target] at he
      cases htarget : ctx.target with
      | probe spec =>
        rw [htarget] at he
        obtain ⟨m, -, rfl⟩ := List.mem_map.mp he
        exact ⟨m, rfl⟩
      | pod spec | clusterPod spec | clusterNode spec =>
        rw [htarget] at hprober
        cases hprober
    refine ⟨by decide, List.mem_append_left _ (Phase.mem_rulesBefore.mpr ?_), fun rule hr ht =>
      eq_set_of_touches_address hparts hm hprober hr ht⟩
    rw [eq_of_addressRules_probe hparts.address hm hprober]
    simp

/-! ## Stamped labels -/

theorem stamp_eq_some_iff (h : text ≠ "") :
    stamp text = some text ↔ Regex.isVerbatim text.toList = true := by
  rw [← Regex.bare_eq_self_iff, stamp]
  have hnil : text.toList ≠ [] := fun he => h (String.toList_eq_nil_iff.mp he)
  constructor
  · intro heq
    split at heq
    · cases heq
    · have hbare := congrArg String.toList (Option.some.inj heq)
      rwa [String.toList_ofList] at hbare
  · intro heq
    rw [heq, if_neg hnil, String.ofList_toList]

/-- A kept target has under each label of a constant what the constant comes out as when it is
written through a template: the constant itself exactly if it has no reference in it, and else
something shorter. -/
theorem get?_stamped_iff {ls out : Labels} (hc : Compiler.new p = .ok c)
    (h : c.Emits r i e j) (hrun : run ls j.relabeling = .ok (some out))
    (hs : Stamped p r label text) :
    out.get? label = stamp text ∧
      (out.get? label = some text ↔ Regex.isVerbatim text.toList = true) := by
  obtain ⟨ctx, hctx, hjob⟩ := h.exists_context
  obtain ⟨sel, addr, mapped, hparts, hrules⟩ :=
    Phase.exists_parts_of_allRules hjob.relabeling
  obtain ⟨hcheck, hp⟩ := Compiler.of_new hc
  obtain ⟨compiled, -, he, -⟩ := h
  obtain ⟨hname, hmem, hunique⟩ :=
    hs.exists_rule hp (List.mem_of_getElem? he) hctx hparts
  have hpass : pass ls j.relabeling = some out := by
    rw [hjob.run_eq_pass] at hrun
    exact Except.ok.inj hrun
  rw [hrules] at hpass
  have hget := get?_pass_of_unique hname hmem hunique hpass
  refine ⟨hget, ?_⟩
  rw [hget, stamp_eq_some_iff (hs.ne_empty hcheck hctx.checked)]

/-- A platform can be accepted whose project is not what its targets carry. -/
theorem not_stamped_verbatim : ∃ j kept,
    Compiler.new Sample.platform = .ok Sample.compiler ∧
    Sample.compiler.Emits Sample.resource 0 (.pod Sample.named) j ∧
    run Sample.candidate j.relabeling = .ok (some kept) ∧
    Sample.platform.projectId = "acme$1" ∧ kept.get? Label.projectId = some "acme" ∧
    kept.get? Label.location = some Sample.platform.location := by
  obtain ⟨j, hj⟩ := Compiler.exists_emits Sample.isSome_compileResource
    (show Sample.resource.target.endpoints[0]? = some (.pod Sample.named) from rfl)
  obtain ⟨ctx, hctx, hjob⟩ := hj.exists_context
  obtain ⟨kept, hkept⟩ := Option.isSome_iff_exists.mp
    ((isSome_pass_iff_picks hctx hjob Sample.candidate).mpr Sample.picks)
  have hrun : run Sample.candidate j.relabeling = .ok (some kept) := by
    rw [hjob.run_eq_pass, hkept]
  have hproject := (get?_stamped_iff Sample.new_platform hj hrun .projectId).1
  have hlocation := (get?_stamped_iff Sample.new_platform hj hrun .location).2
  refine ⟨j, kept, Sample.new_platform, hj, hrun, rfl, hproject.trans ?_, hlocation.mpr ?_⟩
  · decide +kernel
  · decide

end ScrapeJobs
