import ScrapeJobs.Proofs.Selection

/-!
# Numeric ports take the candidates of a pod as one

Discovery offers a pod once for each port of its containers. Such candidates agree on the
labels with `IsOfPod`. The rules of a job before those of its port keep that agreement, also
the one that copies the name of a container (`respects_of_mem_rulesBefore`). The rules of a
numeric port restore what is left: they remove the label of the container and write the address
anew (`rel_pass_numeric`). So the outcomes of a job for two candidates of a pod differ in labels
of discovery for containers only (`run_eq_or_agreeOn_of_number`).
-/

namespace ScrapeJobs

open Label Labels Outcome Relabel

/-- The label is the same for all candidates of a pod: it is neither the address, nor the
container, nor told by discovery for a container. -/
def Label.IsOfPod (l : String) : Prop := l ≠ address ∧ l ≠ container ∧ ¬ IsContainerMeta l

instance : DecidablePred Label.IsOfPod := fun _ => inferInstanceAs (Decidable (_ ∧ _ ∧ _))

theorem Label.IsObjectMeta.isOfPod {l : String} (h : IsObjectMeta l) : IsOfPod l := by
  refine ⟨?_, ?_, h.2⟩
  · rintro rfl
    exact absurd h.1 (by decide)
  · rintro rfl
    exact absurd h.1 (by decide)

namespace Phase

variable {c : JobContext} {r : Rule} {sel : List Rule} {a b : Labels}

theorem rulesBefore_append (c : JobContext) (sel addr rest : List Rule) :
    rulesBefore c sel (addr ++ rest) = rulesBefore c sel addr ++ rest := by
  simp [rulesBefore]

theorem respects_of_mem_instanceRules (hr : r ∈ Port.instanceRules) : r.Respects IsOfPod := by
  have hname : isName tmpInstance = true := by decide
  simp only [Port.instanceRules, List.mem_cons, List.not_mem_nil, or_false] at hr
  rcases hr with rfl | rfl
  · exact .of_writes ⟨rfl, rfl, hname⟩ (by decide)
  · exact .of_writes ⟨rfl, rfl, hname⟩ (by decide)

/-- Up to the port, nothing that tells the candidates of a pod apart gets into a label that
they have in common. -/
theorem respects_of_mem_rulesBefore (hsel : selectorFilter c.target = .ok sel)
    (hr : r ∈ rulesBefore c sel Port.instanceRules) : r.Respects IsOfPod := by
  have hfilter : r.isFilter = true ∧ (∀ l ∈ r.sourceLabels, IsObjectMeta l) →
      r.Respects IsOfPod :=
    fun h => .of_isFilter h.1 fun l hl => (h.2 l hl).isOfPod
  have hconstant : ∀ {name}, r.Writes name → r.sourceLabels = [] → r.Respects IsOfPod := by
    intro name hw hs
    refine .of_writes hw fun l hl => ?_
    rw [hs] at hl
    cases hl
  rcases mem_rulesBefore.mp hr with h | h | h | h | h | h | h | h
  · obtain ⟨hs, name, -, hw⟩ := writes_of_mem_forcedLabelRules h
    exact hconstant hw hs
  · exact hfilter (isFilter_of_mem_namespaceFilter h)
  · exact hfilter (isFilter_of_mem_selectorFilter hsel h)
  · obtain ⟨hs, hw⟩ := writes_of_mem_namespaceLabel h
    exact hconstant hw hs
  · obtain ⟨m, -, hw, hm⟩ := MetadataLabel.exists_of_mem_rules h
    rcases hm with rfl | hs
    · exact .of_writes_not hw (by decide)
    · exact .of_writes hw fun l hl => (hs l hl).isOfPod
  · exact hconstant (h ▸ writes_set (by decide) c.name) (h ▸ rfl)
  · exact hfilter (isFilter_of_mem_runningFilterRules h)
  · exact respects_of_mem_instanceRules h

theorem rel_step_labelDrop_container (h : AgreeOn IsOfPod a b) :
    Option.Rel (AgreeOn fun l => l ≠ Label.address ∧ ¬ IsContainerMeta l)
      ((Rule.labelDrop container).step a) ((Rule.labelDrop container).step b) := by
  obtain ⟨regex, hregex, hiff⟩ := exists_regex_container
  refine rel_mono (rel_step_labelDrop hregex h) fun l hl => ?_
  rw [hiff]
  by_cases hc : l = container
  · exact .inr hc
  · exact .inl ⟨hl.1, hc, hl.2⟩

/-- The rules of a numeric port make candidates of a pod agree on the container, which they
remove, and on the address, which they write anew. -/
theorem rel_pass_numeric (n : UInt16) (h : AgreeOn IsOfPod a b) :
    Option.Rel (AgreeOn fun l => ¬ IsContainerMeta l)
      (pass a (Port.numeric n).rules) (pass b (Port.numeric n).rules) := by
  have htmp : ∀ l ∈ [tmpInstance], l ≠ Label.address ∧ ¬ IsContainerMeta l := by decide
  have hip : ∀ l ∈ [metaPodIp], l ≠ Label.address ∧ ¬ IsContainerMeta l := by decide
  have hinstance : isName instanceName = true := by decide
  have haddress : isName Label.address = true := by decide
  simp only [Port.rules, pass_cons, pass_nil]
  refine rel_bind (rel_step_labelDrop_container h) fun a₁ b₁ h₁ => ?_
  refine rel_bind (rel_step ?_ h₁) fun a₂ b₂ h₂ => ?_
  · exact .of_writes ⟨rfl, rfl, hinstance⟩ htmp
  · refine rel_bind (rel_step_write rfl rfl haddress hip h₂) fun a₃ b₃ h₃ =>
      .some (h₃.mono fun l hl => ?_)
    by_cases ha : l = Label.address
    · exact .inr ha
    · exact .inl ⟨ha, hl⟩

end Phase

namespace Compiler

variable {c : Compiler} {r : Resource} {j : Job} {ctx : JobContext}
  {spec : PodEndpoint} {n : Int32} {a b : Labels}

theorem rel_pass_rules (hctx : IsContext c r (.pod spec) ctx) (hjob : IsJobOf c ctx j)
    (hspec : spec.port = some (.number n)) (h : AgreeOn IsOfPod a b) :
    Option.Rel (AgreeOn fun l => ¬ IsContainerMeta l)
      (pass a j.relabeling) (pass b j.relabeling) := by
  obtain ⟨sel, addr, mapped, ⟨hsel, haddr, hmapped⟩, hrules⟩ :=
    Phase.exists_parts_of_allRules hjob.relabeling
  obtain ⟨port, hport, hresolve⟩ := hctx.exists_port
  rw [hspec] at hresolve
  obtain ⟨m, rfl⟩ := Port.exists_numeric_of_resolve hresolve
  rw [Phase.addressRules, hctx.endpoint, hport] at haddr
  cases haddr
  rw [hrules, Phase.rulesBefore_append, pass_append, pass_append, pass_append, pass_append]
  refine rel_bind (rel_bind ?_ fun a₁ b₁ h₁ => Phase.rel_pass_numeric m h₁) fun a₂ b₂ h₂ => ?_
  · exact rel_pass (fun rule hr => Phase.respects_of_mem_rulesBefore hsel hr) h
  · refine rel_pass (fun rule hr => ?_) h₂
    obtain ⟨name, hw, -, -, hs⟩ := Phase.exists_of_mem_mappingRules hmapped hr
    exact .of_writes hw fun l hl => (hs l hl).2

end Compiler

/-- The job of an endpoint at a numeric port drops both of two candidates of a pod, or it keeps
both and they agree afterwards on every label, the instance, the address and the container among
them, but for those that discovery provides for containers. -/
theorem run_eq_or_agreeOn_of_number {c : Compiler} {r : Resource} {i : Nat} {spec : PodEndpoint}
    {n : Int32} {j : Job} {a b : Labels} (h : c.Emits r i (.pod spec) j)
    (hspec : spec.port = some (.number n)) (hab : AgreeOn IsOfPod a b) :
    (run a j.relabeling = .ok none ∧ run b j.relabeling = .ok none) ∨
      ∃ a' b', run a j.relabeling = .ok (some a') ∧ run b j.relabeling = .ok (some b') ∧
        AgreeOn (fun l => ¬ IsContainerMeta l) a' b' := by
  obtain ⟨ctx, hctx, hjob⟩ := h.exists_context
  have hrel := Compiler.rel_pass_rules hctx hjob hspec hab
  rw [hjob.run_eq_pass, hjob.run_eq_pass]
  generalize pass a j.relabeling = x, pass b j.relabeling = y at hrel
  cases hrel with
  | none => exact .inl ⟨rfl, rfl⟩
  | some h' => exact .inr ⟨_, _, rfl, rfl, h'⟩

/-- The sample pod once more, for a port of another container of it. -/
def Sample.sibling : Labels :=
  ((candidate.insert address "10.0.0.7:9901").insert metaPodContainerName "proxy").insert
    metaPodContainerPortName "admin"

theorem Sample.agreeOn_sibling : AgreeOn IsOfPod candidate sibling := by
  intro l hl
  have hname : l ≠ metaPodContainerName := fun h => hl.2.2 (h ▸ by decide)
  have hport : l ≠ metaPodContainerPortName := fun h => hl.2.2 (h ▸ by decide)
  rw [sibling, Dict.get?_insert, Dict.get?_insert, Dict.get?_insert, if_neg hport, if_neg hname,
    if_neg hl.1]

/-- Both candidates of the sample pod are kept, and scraped at the same address. -/
theorem agreeOn_sample : ∃ j kept kept',
    Sample.compiler.Emits Sample.resource 1 (.pod Sample.numeric) j ∧
    run Sample.candidate j.relabeling = .ok (some kept) ∧
    run Sample.sibling j.relabeling = .ok (some kept') ∧
    kept.get? address = kept'.get? address ∧
    Sample.candidate.get? address ≠ Sample.sibling.get? address := by
  obtain ⟨j, hj⟩ := Compiler.exists_emits Sample.isSome_compileResource
    (show Sample.resource.target.endpoints[1]? = some (.pod Sample.numeric) from rfl)
  obtain ⟨ctx, hctx, hjob⟩ := hj.exists_context
  have hpicks : Picks Sample.resource (.pod Sample.numeric) Sample.candidate := by
    refine ⟨Sample.picks.inNamespace, Sample.picks.selected, Sample.picks.running, ?_⟩
    intro spec name he hname
    cases he
    cases hname
  have hkept := (Compiler.isSome_pass_iff_picks hctx hjob Sample.candidate).mpr hpicks
  rcases run_eq_or_agreeOn_of_number hj rfl Sample.agreeOn_sibling with
    ⟨hrun, -⟩ | ⟨kept, kept', hrun, hrun', hagree⟩
  · rw [hjob.run_eq_pass] at hrun
    rw [Except.ok.inj hrun] at hkept
    cases hkept
  · exact ⟨j, kept, kept', hj, hrun, hrun', hagree address (by decide), by decide⟩

end ScrapeJobs
