import ScrapeJobs.Proofs.Phase
import ScrapeJobs.Proofs.Regex.Controllers
import ScrapeJobs.Proofs.Relabel.Checked
import ScrapeJobs.Proofs.Selector

/-!
# Generated rules pass the check

Every rule that the phases generate for the targets of a job passes the check of a collector
(`Phase.check_of_mem_allRules`), whatever texts the resource has: the labels that it reads and
writes have valid names, since keys of objects are sanitized and targets of mappings are checked,
and its regex is a fixed one, a literal or one that was read before. Only a literal can be too
large to be read; `JobContext.literals` has the texts that become literals.
-/

namespace ScrapeJobs

open Label Outcome Relabel

variable {r : Rule} {rules : List Rule} {ctx : JobContext}

/-! ## Single rules -/

namespace Relabel

theorem check_set {name : String} (h : isName name = true) (value : String) :
    (Rule.set name value).check = .ok () :=
  (Phase.writes_set h value).check_eq_ok (isReadable_of_regex_eq rfl)
    fun _ hl => (List.not_mem_nil hl).elim

/-- What is written in the place of a label does not matter. -/
theorem check_replacement {source target : String} (hs : isName source = true)
    (ht : isName target = true) (replacement : String) :
    ({ Rule.copy [source] target with replacement } : Rule).check = .ok () := by
  have hw : ({ Rule.copy [source] target with replacement } : Rule).Writes target :=
    ⟨rfl, rfl, ht⟩
  refine hw.check_eq_ok (isReadable_of_regex_eq rfl) fun l hl => ?_
  rw [List.mem_singleton.mp hl, hs]

theorem check_copy {source target : String} (hs : isName source = true)
    (ht : isName target = true) : (Rule.copy [source] target).check = .ok () :=
  check_replacement hs ht _

/-- A filter on a label with a valid name needs a regex that can be read. -/
theorem check_keep {source pattern : String} (hs : isName source = true)
    (hread : (Regex.anchored? pattern).isSome = true) :
    (Rule.keep [source] pattern).check = .ok () := by
  refine check_of_isFilter rfl (Option.isSome_iff_exists.mp hread) fun l hl => ?_
  rw [List.mem_singleton.mp hl, hs]

theorem check_drop {source pattern : String} (hs : isName source = true)
    (hread : (Regex.anchored? pattern).isSome = true) :
    (Rule.drop [source] pattern).check = .ok () := by
  refine check_of_isFilter rfl (Option.isSome_iff_exists.mp hread) fun l hl => ?_
  rw [List.mem_singleton.mp hl, hs]

end Relabel

/-! ## Selectors -/

namespace Selector

theorem isSome_anchored?_literal {s : String} (h : IsPatternable s) :
    (Regex.anchored? (literal s)).isSome = true := by
  rw [Regex.anchored?_literal, if_neg (Nat.not_lt.mpr h)]
  rfl

theorem Requirement.check_of_rule {q : Requirement} {f : Family} (h : q.rule f = .ok r) :
    r.check = .ok () := by
  have htrue : (Regex.anchored? "true").isSome = true := by
    obtain ⟨regex, hregex, -⟩ := exists_anchored?_true
    rw [hregex]
    rfl
  rcases rule_cases h with ⟨-, hregex, rfl⟩ | ⟨-, hregex, rfl⟩ | ⟨-, rfl⟩ | ⟨-, rfl⟩
  · exact check_keep (isName_valueOf f q.key) (Option.isSome_iff_exists.mpr hregex)
  · exact check_drop (isName_valueOf f q.key) (Option.isSome_iff_exists.mpr hregex)
  · exact check_keep (isName_presenceOf f q.key) htrue
  · exact check_drop (isName_presenceOf f q.key) htrue

theorem check_of_mem_rules {s : Selector} {f : Family} (h : s.rules f = .ok rules)
    (hsize : ∀ v ∈ s.matchLabels.values, IsPatternable v) (hr : r ∈ rules) :
    r.check = .ok () := by
  obtain ⟨requirements, hrequirements, h⟩ := bind_eq_ok h
  cases h
  rcases List.mem_append.mp hr with hr | hr
  · obtain ⟨⟨key, value⟩, he, rfl⟩ := List.mem_map.mp hr
    have hvalue : IsPatternable value := hsize value (List.mem_map_of_mem (f := Prod.snd) he)
    exact check_keep (isName_valueOf f key) (isSome_anchored?_literal hvalue)
  · obtain ⟨q, -, hq⟩ := exists_of_mem_mapM hrequirements hr
    exact q.check_of_rule hq

end Selector

open Selector (IsPatternable isSome_anchored?_literal)

/-! ## Metadata and mappings -/

theorem Lineage.isSome_anchored?_regex {s : Step} (h : s ∈ steps) :
    (Regex.anchored? s.regex).isSome = true := by
  simp only [steps, List.mem_cons, List.not_mem_nil, or_false] at h
  rcases h with rfl | rfl | rfl
  · decide
  · rw [deployment, Regex.anchored?_replicaSet]
    rfl
  · rw [cronJob, Regex.anchored?_cronJob]
    rfl

theorem Lineage.check_of_mem_rules {withName withType : Bool}
    (h : r ∈ Lineage.rules withName withType) : r.check = .ok () := by
  obtain ⟨s, hs, hr⟩ := List.mem_flatMap.mp h
  have hread := Option.isSome_iff_exists.mp (isSome_anchored?_regex hs)
  have hsources : ∀ s ∈ steps, ∀ l ∈ s.sources, isName l = true := by decide
  have hname : s.nameRule.check = .ok () :=
    (⟨rfl, rfl, by decide⟩ : s.nameRule.Writes controllerName).check_eq_ok hread (hsources s hs)
  have htype : s.typeRule.check = .ok () :=
    (⟨rfl, rfl, by decide⟩ : s.typeRule.Writes controllerType).check_eq_ok hread (hsources s hs)
  rcases List.mem_append.mp hr with hr | hr
  · split at hr
    · rw [List.mem_singleton.mp hr, hname]
    · cases hr
  · split at hr
    · rw [List.mem_singleton.mp hr, htype]
    · cases hr

theorem MetadataLabel.check_of_mem_rules {ls : List MetadataLabel}
    (h : r ∈ MetadataLabel.rules ls) :
    r.check = .ok () := by
  rcases List.mem_append.mp h with h | h
  · obtain ⟨m, -, hr⟩ := List.mem_filterMap.mp h
    obtain ⟨source, hsource, rfl⟩ := Option.map_eq_some_iff.mp hr
    have hname : isName source = true := by
      cases m with
      | ofNamespace | pod | container | node =>
        cases hsource
        decide
      | controllerName | controllerType => cases hsource
    exact check_copy hname m.isName_name
  · exact Lineage.check_of_mem_rules h

theorem LabelMapping.check_of_rule {m : LabelMapping} {f : Family} (h : m.rule f = .ok r) :
    r.check = .ok () := by
  obtain ⟨hfault, rfl⟩ := rule_eq_ok_iff.mp h
  exact check_copy (isName_valueOf f m.source) (isName_target hfault)

/-! ## Ports -/

theorem Port.check_of_mem_instanceRules (h : r ∈ instanceRules) : r.check = .ok () := by
  have hall : ∀ r ∈ instanceRules, r.check = .ok () := by decide
  exact hall r h

theorem Port.check_of_mem_rules {port : Port}
    (hsize : ∀ name, port = .named name → IsPatternable name) (h : r ∈ port.rules) :
    r.check = .ok () := by
  cases port with
  | named name =>
    simp only [Port.rules, List.mem_cons, List.not_mem_nil, or_false] at h
    rcases h with rfl | rfl
    · exact check_keep (by decide) (isSome_anchored?_literal (hsize name rfl))
    · decide
  | numeric n =>
    simp only [Port.rules, List.mem_cons, List.not_mem_nil, or_false] at h
    rcases h with rfl | rfl | rfl
    · obtain ⟨regex, hregex, -⟩ := Phase.exists_regex_container
      exact check_labelDrop ⟨regex, hregex⟩
    · exact check_replacement (by decide) (by decide) _
    · exact check_replacement (by decide) (by decide) _

/-! ## Phases -/

/-- The texts that the filters of a job match as they are: the namespace of its pods, the label
values of its selector and the name of its port. -/
def JobContext.literals (ctx : JobContext) : List String :=
  (match ctx.target, ctx.inNamespace with
    | .pod _, some ns => [ns]
    | _, _ => []) ++
  (match ctx.target.selector? with
    | some (s, _) => s.matchLabels.values
    | none => []) ++
  (match ctx.port with
    | some (.named name) => [name]
    | _ => [])

namespace Phase

theorem check_of_mem_forcedLabelRules {p : Platform} (h : r ∈ forcedLabelRules p) :
    r.check = .ok () := by
  simp only [forcedLabelRules, List.mem_cons, List.not_mem_nil, or_false] at h
  rcases h with rfl | rfl | rfl <;> exact check_set (by decide) _

theorem check_of_mem_namespaceFilter (hsize : ∀ text ∈ ctx.literals, IsPatternable text)
    (h : r ∈ namespaceFilter ctx) : r.check = .ok () := by
  unfold namespaceFilter at h
  split at h
  · rename_i spec ns htarget hns
    have hmem : ns ∈ ctx.literals := by simp [JobContext.literals, htarget, hns]
    rw [List.mem_singleton.mp h]
    exact check_keep (by decide) (isSome_anchored?_literal (hsize ns hmem))
  · cases h

theorem check_of_mem_selectorFilter (hsize : ∀ text ∈ ctx.literals, IsPatternable text)
    (h : selectorFilter ctx.target = .ok rules) (hr : r ∈ rules) : r.check = .ok () := by
  unfold selectorFilter at h
  split at h
  · rename_i s f hselector
    refine Selector.check_of_mem_rules h (fun v hv => hsize v ?_) hr
    simp [JobContext.literals, hselector, hv]
  · cases h
    cases hr

theorem check_of_mem_addressRules (hsize : ∀ text ∈ ctx.literals, IsPatternable text)
    (h : addressRules ctx = .ok rules) (hr : r ∈ rules) : r.check = .ok () := by
  rcases addressRules_cases h with ⟨port, hport, rfl⟩ | rfl | ⟨prober, rfl⟩
  · rcases List.mem_append.mp hr with hr | hr
    · exact Port.check_of_mem_instanceRules hr
    · refine Port.check_of_mem_rules (fun name hname => hsize name ?_) hr
      simp [JobContext.literals, hport, hname]
  · simp only [List.mem_cons, List.not_mem_nil, or_false] at hr
    rcases hr with rfl | rfl <;> exact check_copy (by decide) (by decide)
  · simp only [List.mem_cons, List.not_mem_nil, or_false] at hr
    rcases hr with rfl | rfl | rfl
    · exact check_copy (by decide) (by decide)
    · exact check_copy (by decide) (by decide)
    · exact check_set (by decide) _

theorem check_of_mem_mappingRules {t : Target} (h : mappingRules t = .ok rules) (hr : r ∈ rules) :
    r.check = .ok () := by
  unfold mappingRules at h
  split at h
  · obtain ⟨m, -, hm⟩ := exists_of_mem_mapM h hr
    exact LabelMapping.check_of_rule hm
  · cases h
    cases hr

/-- Each rule of all phases passes the check, if the literals among their regexes can be read. -/
theorem check_of_mem_allRules (hsize : ∀ text ∈ ctx.literals, IsPatternable text)
    (h : allRules ctx = .ok rules) (hr : r ∈ rules) : r.check = .ok () := by
  obtain ⟨sel, addr, mapped, hparts, rfl⟩ := exists_parts_of_allRules h
  rcases List.mem_append.mp hr with hr | hr
  · rcases mem_rulesBefore.mp hr with hr | hr | hr | hr | hr | hr | hr | hr
    · exact check_of_mem_forcedLabelRules hr
    · exact check_of_mem_namespaceFilter hsize hr
    · exact check_of_mem_selectorFilter hsize hparts.selector hr
    · unfold namespaceLabel at hr
      split at hr
      · rw [List.mem_singleton.mp hr]
        exact check_set (by decide) _
      · cases hr
    · exact MetadataLabel.check_of_mem_rules hr
    · rw [hr]
      exact check_set (by decide) _
    · unfold runningFilterRules at hr
      split at hr
      · rw [List.mem_singleton.mp hr]
        exact check_drop (by decide) (by rw [Regex.anchored?_finished]; rfl)
      · cases hr
    · exact check_of_mem_addressRules hsize hparts.address hr
  · exact check_of_mem_mappingRules hparts.mapping hr

end Phase

end ScrapeJobs
