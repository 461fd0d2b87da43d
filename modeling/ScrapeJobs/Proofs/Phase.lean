import ScrapeJobs.Phase
import ScrapeJobs.Proofs.Mapping

/-!
# What the phases read and write

The rules of a job are those of six phases and then the label mappings (`exists_parts_of_allRules`).
For each phase this module tells which labels its filters read and which labels its other rules
write. Filters read labels of discovery, and no rule before the mappings writes one of these
(`isMeta_of_mem_rulesBefore`); mappings write no protected label (`exists_of_mem_mappingRules`).
-/

namespace ScrapeJobs

open Outcome Relabel

/-! ## Labels of discovery -/

namespace Label

/-- The label is one that discovery provides. -/
def IsMeta (l : String) : Prop := "__meta_".toList <+: l.toList

/-- The label tells the candidates of one pod apart by their containers. -/
def IsContainerMeta (l : String) : Prop := "__meta_kubernetes_pod_container_".toList <+: l.toList

instance : DecidablePred IsMeta := fun _ => inferInstanceAs (Decidable (_ <+: _))

instance : DecidablePred IsContainerMeta := fun _ => inferInstanceAs (Decidable (_ <+: _))

/-- The label is one that discovery provides for a pod or a node as a whole. -/
def IsObjectMeta (l : String) : Prop := IsMeta l ∧ ¬ IsContainerMeta l

instance : DecidablePred IsObjectMeta := fun _ => inferInstanceAs (Decidable (_ ∧ _))

/-- What the labels begin with that discovery provides for the labels of an object. -/
def objectLabelPrefixes : List String :=
  ["__meta_kubernetes_pod_label", "__meta_kubernetes_node_label"]

/-- The label is one of those that discovery provides for the labels of an object. -/
def IsObjectLabel (l : String) : Prop := ∃ p ∈ objectLabelPrefixes, p.toList <+: l.toList

instance : DecidablePred IsObjectLabel := fun _ => inferInstanceAs (Decidable (∃ p ∈ _, _))

theorem isObjectLabel_append {p : String} (hp : IsObjectLabel p) (s : String) :
    IsObjectLabel (p ++ s) := by
  obtain ⟨q, hq, hpre⟩ := hp
  refine ⟨q, hq, hpre.trans ?_⟩
  rw [String.toList_append]
  exact List.prefix_append _ _

theorem isObjectLabel_valueOf (f : Family) (key : String) : IsObjectLabel (f.valueOf key) := by
  cases f <;> exact isObjectLabel_append (by decide) _

theorem isObjectLabel_presenceOf (f : Family) (key : String) :
    IsObjectLabel (f.presenceOf key) := by
  cases f <;> exact isObjectLabel_append (by decide) _

/-- The prefixes say more than that a label tells of containers, and something else. -/
theorem IsObjectLabel.isObjectMeta {l : String} (h : IsObjectLabel l) : IsObjectMeta l := by
  have hall : ∀ p ∈ objectLabelPrefixes, IsMeta p ∧
      ¬ "__meta_kubernetes_pod_container_".toList <+: p.toList ∧
        ¬ p.toList <+: "__meta_kubernetes_pod_container_".toList := by decide
  obtain ⟨p, hp, hpre⟩ := h
  obtain ⟨hmeta, hno, hno'⟩ := hall p hp
  refine ⟨hmeta.trans hpre, fun hcontainer => ?_⟩
  exact (List.prefix_or_prefix_of_prefix hcontainer hpre).elim hno hno'

end Label

open Label

/-! ## Selectors -/

namespace Selector.Requirement

variable {q : Requirement} {f : Family} {r : Rule}

theorem fault?_of_rule (h : q.rule f = .ok r) : q.fault? = none := by
  unfold Requirement.rule at h
  split at h
  · cases h
  · assumption

theorem pattern_eq_ok {p : String} (h : q.pattern = .ok p) :
    p = anyOf q.values ∧ ∃ regex, Regex.anchored? (anyOf q.values) = some regex := by
  unfold Requirement.pattern at h
  split at h
  · rename_i hsome
    cases h
    exact ⟨rfl, Option.isSome_iff_exists.mp hsome⟩
  · cases h

/-- The rule of a requirement, by the operator. The values of a set are one pattern, which can be
read. -/
theorem rule_cases (h : q.rule f = .ok r) :
    (q.operator = .isIn ∧ (∃ regex, Regex.anchored? (anyOf q.values) = some regex) ∧
        r = .keep [f.valueOf q.key] (anyOf q.values)) ∨
      (q.operator = .notIn ∧ (∃ regex, Regex.anchored? (anyOf q.values) = some regex) ∧
        r = .drop [f.valueOf q.key] (anyOf q.values)) ∨
      (q.operator = .present ∧ r = .keep [f.presenceOf q.key] "true") ∨
      (q.operator = .absent ∧ r = .drop [f.presenceOf q.key] "true") := by
  unfold Requirement.rule at h
  split at h
  · cases h
  · split at h
    case h_1 hop =>
      obtain ⟨p, hp, h⟩ := bind_eq_ok h
      obtain ⟨rfl, hregex⟩ := pattern_eq_ok hp
      cases h
      exact .inl ⟨hop, hregex, rfl⟩
    case h_2 hop =>
      obtain ⟨p, hp, h⟩ := bind_eq_ok h
      obtain ⟨rfl, hregex⟩ := pattern_eq_ok hp
      cases h
      exact .inr (.inl ⟨hop, hregex, rfl⟩)
    case h_3 hop =>
      cases h
      exact .inr (.inr (.inl ⟨hop, rfl⟩))
    case h_4 hop =>
      cases h
      exact .inr (.inr (.inr ⟨hop, rfl⟩))

theorem isFilter_of_rule (h : q.rule f = .ok r) :
    r.isFilter = true ∧ ∀ l ∈ r.sourceLabels, IsObjectLabel l := by
  rcases rule_cases h with ⟨-, -, rfl⟩ | ⟨-, -, rfl⟩ | ⟨-, rfl⟩ | ⟨-, rfl⟩
  · simp [Rule.isFilter, Rule.keep, isObjectLabel_valueOf]
  · simp [Rule.isFilter, Rule.drop, isObjectLabel_valueOf]
  · simp [Rule.isFilter, Rule.keep, isObjectLabel_presenceOf]
  · simp [Rule.isFilter, Rule.drop, isObjectLabel_presenceOf]

end Selector.Requirement

/-- The rules of a selector are filters on the labels of the discovered object. -/
theorem Selector.isFilter_of_mem_rules {s : Selector} {f : Family} {rules : List Rule}
    (h : s.rules f = .ok rules) {r : Rule} (hr : r ∈ rules) :
    r.isFilter = true ∧ ∀ l ∈ r.sourceLabels, IsObjectLabel l := by
  obtain ⟨reqs, hreqs, h⟩ := bind_eq_ok h
  cases h
  rcases List.mem_append.mp hr with hr | hr
  · obtain ⟨⟨k, v⟩, -, rfl⟩ := List.mem_map.mp hr
    simp [Rule.isFilter, valueRule, Rule.keep, isObjectLabel_valueOf]
  · obtain ⟨q, -, hq⟩ := exists_of_mem_mapM hreqs hr
    exact q.isFilter_of_rule hq

/-! ## Metadata -/

theorem MetadataLabel.isName_name (m : MetadataLabel) : isName m.name = true := by
  cases m <;> decide

theorem Lineage.exists_of_mem_rules {withName withType : Bool} {r : Rule}
    (h : r ∈ rules withName withType) :
    ((withName = true ∧ r.Writes controllerName) ∨ (withType = true ∧ r.Writes controllerType)) ∧
      ∀ l ∈ r.sourceLabels, IsObjectMeta l := by
  have hsources : ∀ s ∈ steps, ∀ l ∈ s.sources, IsObjectMeta l := by decide
  obtain ⟨s, hs, hr⟩ := List.mem_flatMap.mp h
  rcases List.mem_append.mp hr with hr | hr
  · split at hr
    · rename_i hname
      obtain rfl := List.mem_singleton.mp hr
      exact ⟨.inl ⟨hname, rfl, rfl, by decide⟩, hsources s hs⟩
    · cases hr
  · split at hr
    · rename_i htype
      obtain rfl := List.mem_singleton.mp hr
      exact ⟨.inr ⟨htype, rfl, rfl, by decide⟩, hsources s hs⟩
    · cases hr

/-- Each rule for metadata writes a label that was asked for. Only the one for the container
reads what is not of the whole pod. -/
theorem MetadataLabel.exists_of_mem_rules {ls : List MetadataLabel} {r : Rule}
    (h : r ∈ rules ls) : ∃ m ∈ ls, r.Writes m.name ∧
      (m = .container ∨ ∀ l ∈ r.sourceLabels, IsObjectMeta l) := by
  rcases List.mem_append.mp h with h | h
  · obtain ⟨m, hm, hr⟩ := List.mem_filterMap.mp h
    obtain ⟨s, hs, rfl⟩ := Option.map_eq_some_iff.mp hr
    refine ⟨m, hm, ⟨rfl, rfl, m.isName_name⟩, ?_⟩
    cases m with
    | container => exact .inl rfl
    | ofNamespace | pod | node =>
      cases hs
      right
      decide
    | controllerName | controllerType => cases hs
  · obtain ⟨hwrites, hsources⟩ := Lineage.exists_of_mem_rules h
    rcases hwrites with ⟨hc, hw⟩ | ⟨hc, hw⟩
    · exact ⟨.controllerName, List.contains_iff_mem.mp hc, hw, .inr hsources⟩
    · exact ⟨.controllerType, List.contains_iff_mem.mp hc, hw, .inr hsources⟩

namespace Phase

variable {c : JobContext} {r : Rule} {rules addr : List Rule} {l : String}

/-! ## Constants -/

theorem writes_set {name : String} (h : isName name = true) (value : String) :
    (Rule.set name value).Writes name := ⟨rfl, rfl, h⟩

theorem writes_of_mem_forcedLabelRules {p : Platform} (h : r ∈ forcedLabelRules p) :
    r.sourceLabels = [] ∧ ∃ name ∈ [projectId, location, cluster], r.Writes name := by
  simp only [forcedLabelRules, List.mem_cons, List.not_mem_nil, or_false] at h
  rcases h with rfl | rfl | rfl
  · exact ⟨rfl, projectId, by decide, writes_set (by decide) _⟩
  · exact ⟨rfl, location, by decide, writes_set (by decide) _⟩
  · exact ⟨rfl, cluster, by decide, writes_set (by decide) _⟩

theorem writes_of_mem_namespaceLabel {ns : Option String} (h : r ∈ namespaceLabel ns) :
    r.sourceLabels = [] ∧ r.Writes namespaceName := by
  cases ns with
  | none => cases h
  | some ns =>
    obtain rfl := List.mem_singleton.mp h
    exact ⟨rfl, writes_set (by decide) _⟩

theorem isFilter_of_mem_namespaceFilter (h : r ∈ namespaceFilter c) :
    r.isFilter = true ∧ ∀ l ∈ r.sourceLabels, IsObjectMeta l := by
  unfold namespaceFilter at h
  split at h
  · obtain rfl := List.mem_singleton.mp h
    refine ⟨rfl, fun l hl => ?_⟩
    obtain rfl := List.mem_singleton.mp hl
    decide
  · cases h

theorem isFilter_of_mem_selectorFilter {t : Target} (h : selectorFilter t = .ok rules)
    (hr : r ∈ rules) : r.isFilter = true ∧ ∀ l ∈ r.sourceLabels, IsObjectMeta l := by
  unfold selectorFilter at h
  split at h
  · obtain ⟨hf, hsources⟩ := Selector.isFilter_of_mem_rules h hr
    exact ⟨hf, fun l hl => (hsources l hl).isObjectMeta⟩
  · cases h
    cases hr

/-- The rules that leave finished pods out. -/
def runningFilterRules (t : Target) : List Rule :=
  if t.filterRunning then [.drop [metaPodPhase] "(Failed|Succeeded)"] else []

theorem isFilter_of_mem_runningFilterRules {t : Target} (h : r ∈ runningFilterRules t) :
    r.isFilter = true ∧ ∀ l ∈ r.sourceLabels, IsObjectMeta l := by
  unfold runningFilterRules at h
  split at h
  · obtain rfl := List.mem_singleton.mp h
    exact ⟨rfl, by decide⟩
  · cases h

/-! ## Addresses -/

/-- The labels that the rules for addresses write or remove. -/
def addressLabels : List String :=
  [tmpInstance, instanceName, Label.address, container, node, paramTarget]

/-- As a pattern, the name of the container label matches itself only. -/
theorem exists_regex_container : ∃ regex, Regex.anchored? container = some regex ∧
    ∀ l, regex.isMatch l = true ↔ l = container := by
  have hliteral : literal container = container := by decide
  have hregex : ∃ regex, Regex.anchored? (literal container) = some regex := by
    rw [Regex.anchored?_literal, if_neg (by decide)]
    exact ⟨_, rfl⟩
  obtain ⟨regex, hregex⟩ := hregex
  refine ⟨regex, ?_, Regex.isMatch_literal_iff hregex⟩
  rwa [hliteral] at hregex

theorem eq_of_touches_labelDrop_container (h : (Rule.labelDrop container).Touches l) :
    l = container := by
  obtain ⟨regex, hregex, hm⟩ := h
  obtain ⟨regex', hregex', hiff⟩ := exists_regex_container
  obtain rfl : regex' = regex := Option.some.inj (hregex'.symm.trans hregex)
  exact (hiff l).mp hm

theorem mem_portRules {port : Port} (h : r ∈ Port.instanceRules ++ port.rules) :
    (∃ name, port = .named name ∧ r = .keep [metaPodContainerPortName] (literal name)) ∨
      r = .labelDrop container ∨ ∃ name ∈ addressLabels, r.Writes name := by
  have htmp : tmpInstance ∈ addressLabels := by decide
  have hinstance : instanceName ∈ addressLabels := by decide
  have haddress : Label.address ∈ addressLabels := by decide
  rcases List.mem_append.mp h with h | h
  · simp only [Port.instanceRules, List.mem_cons, List.not_mem_nil, or_false] at h
    rcases h with rfl | rfl
    all_goals exact .inr (.inr ⟨tmpInstance, htmp, rfl, rfl, by decide⟩)
  · cases port with
    | named name =>
      simp only [Port.rules, List.mem_cons, List.not_mem_nil, or_false] at h
      rcases h with rfl | rfl
      · exact .inl ⟨name, rfl, rfl⟩
      · exact .inr (.inr ⟨instanceName, hinstance, rfl, rfl, by decide⟩)
    | numeric n =>
      simp only [Port.rules, List.mem_cons, List.not_mem_nil, or_false] at h
      rcases h with rfl | rfl | rfl
      · exact .inr (.inl rfl)
      · exact .inr (.inr ⟨instanceName, hinstance, rfl, rfl, by decide⟩)
      · exact .inr (.inr ⟨Label.address, haddress, rfl, rfl, by decide⟩)

/-- The rules for addresses of a pod are those of its port, and else they copy the name of the node
or make a target of the prober. -/
theorem addressRules_cases (h : addressRules c = .ok addr) :
    (∃ port, c.port = some port ∧ addr = Port.instanceRules ++ port.rules) ∨
      addr = [.copy [metaNodeName] node, .copy [metaNodeName] instanceName] ∨
      ∃ prober, addr = [.copy [Label.address] paramTarget, .copy [paramTarget] instanceName,
        .set Label.address prober] := by
  unfold addressRules at h
  split at h
  · split at h
    · rename_i port hport
      cases h
      exact .inl ⟨port, hport, rfl⟩
    · cases h
  · cases h
    exact .inr (.inl rfl)
  · split at h
    · rename_i prober _
      cases h
      exact .inr (.inr ⟨prober, rfl⟩)
    · cases h

/-- Rules for addresses pick a named port, remove the container or write an address label. -/
theorem mem_addressRules (h : addressRules c = .ok addr) (hr : r ∈ addr) :
    (∃ name, c.port = some (.named name) ∧
      r = .keep [metaPodContainerPortName] (literal name)) ∨
      r = .labelDrop container ∨ ∃ name ∈ addressLabels, r.Writes name := by
  rcases addressRules_cases h with ⟨port, hport, rfl⟩ | rfl | ⟨prober, rfl⟩
  · refine (mem_portRules hr).imp_left ?_
    rintro ⟨name, rfl, hkeep⟩
    exact ⟨name, hport, hkeep⟩
  · simp only [List.mem_cons, List.not_mem_nil, or_false] at hr
    rcases hr with rfl | rfl
    · exact .inr (.inr ⟨node, by decide, rfl, rfl, by decide⟩)
    · exact .inr (.inr ⟨instanceName, by decide, rfl, rfl, by decide⟩)
  · simp only [List.mem_cons, List.not_mem_nil, or_false] at hr
    rcases hr with rfl | rfl | rfl
    · exact .inr (.inr ⟨paramTarget, by decide, rfl, rfl, by decide⟩)
    · exact .inr (.inr ⟨instanceName, by decide, rfl, rfl, by decide⟩)
    · exact .inr (.inr ⟨Label.address, by decide, rfl, rfl, by decide⟩)

theorem mem_addressLabels_of_touches (h : addressRules c = .ok addr) (hr : r ∈ addr)
    (hl : r.Touches l) : l ∈ addressLabels := by
  rcases mem_addressRules h hr with ⟨name, -, rfl⟩ | rfl | ⟨name, hname, hw⟩
  · exact (not_touches_of_isFilter rfl l hl).elim
  · rw [eq_of_touches_labelDrop_container hl]
    decide
  · rw [hw.eq_of_touches hl]
    exact hname

/-! ## Mappings -/

/-- A mapping writes a label that is not protected, from a label of the discovered object. -/
theorem exists_of_mem_mappingRules {t : Target} (h : mappingRules t = .ok rules)
    (hr : r ∈ rules) : ∃ name, r.Writes name ∧ Protected.isProtected name = false ∧
      r.regex = defaultRegex ∧ ∀ l ∈ r.sourceLabels, IsObjectMeta l := by
  unfold mappingRules at h
  split at h
  · rename_i f _
    obtain ⟨m, -, hm⟩ := exists_of_mem_mapM h hr
    obtain ⟨hfault, rfl⟩ := LabelMapping.rule_eq_ok_iff.mp hm
    obtain ⟨-, hname, hprotected⟩ := LabelMapping.fault?_eq_none_iff.mp hfault
    refine ⟨m.target, ⟨rfl, rfl, hname⟩, hprotected, rfl, fun l hl => ?_⟩
    obtain rfl := List.mem_singleton.mp hl
    exact (isObjectLabel_valueOf f m.source).isObjectMeta
  · cases h
    cases hr

/-! ## All phases -/

/-- The rules of all phases before the label mappings, given those of the selector and those
for the address. -/
def rulesBefore (c : JobContext) (sel addr : List Rule) : List Rule :=
  forcedLabelRules c.platform ++ (namespaceFilter c ++ (sel ++ (namespaceLabel c.inNamespace ++
    (MetadataLabel.rules c.metadata ++ (.set job c.name :: (runningFilterRules c.target ++
      addr))))))

/-- The rules of the phases that may fail. -/
structure Parts (c : JobContext) (sel addr mapped : List Rule) : Prop where
  selector : selectorFilter c.target = .ok sel
  address : addressRules c = .ok addr
  mapping : mappingRules c.target = .ok mapped

theorem exists_parts_of_allRules (h : allRules c = .ok rules) :
    ∃ sel addr mapped, Parts c sel addr mapped ∧ rules = rulesBefore c sel addr ++ mapped := by
  obtain ⟨groups, hgroups, h⟩ := bind_eq_ok h
  cases h
  have hforall := mapM_eq_ok hgroups
  simp only [all, List.forall₂_cons_left_iff, List.forall₂_nil_left_iff] at hforall
  obtain ⟨forced, _, hforced, ⟨filter, _, hfilter, ⟨asked, _, hasked, ⟨label, _, hlabel,
    ⟨running, _, hrunning, ⟨addr, _, haddr, ⟨mapped, _, hmapped, rfl, rfl⟩, rfl⟩, rfl⟩, rfl⟩, rfl⟩,
    rfl⟩, rfl⟩ := hforall
  obtain ⟨sel, hsel, hfilter⟩ := bind_eq_ok hfilter
  cases hforced
  cases hfilter
  cases hasked
  cases hlabel
  cases hrunning
  refine ⟨sel, addr, mapped, ⟨hsel, haddr, hmapped⟩, ?_⟩
  simp [rulesBefore, runningFilterRules]

theorem mem_rulesBefore {sel : List Rule} : r ∈ rulesBefore c sel addr ↔
    r ∈ forcedLabelRules c.platform ∨ r ∈ namespaceFilter c ∨ r ∈ sel ∨
      r ∈ namespaceLabel c.inNamespace ∨ r ∈ MetadataLabel.rules c.metadata ∨
        r = .set job c.name ∨ r ∈ runningFilterRules c.target ∨ r ∈ addr := by
  simp [rulesBefore]

/-- A rule before the mappings is a filter on labels of discovery, or it drops nothing and
leaves these labels as they are. -/
theorem isMeta_of_mem_rulesBefore {sel mapped : List Rule} (hparts : Parts c sel addr mapped)
    (hr : r ∈ rulesBefore c sel addr) :
    (r.isFilter = true ∧ ∀ l ∈ r.sourceLabels, IsMeta l) ∨
      (r.isFilter = false ∧ ∀ l, r.Touches l → ¬ IsMeta l) := by
  have hwrites : ∀ {name}, r.Writes name → ¬ IsMeta name →
      r.isFilter = false ∧ ∀ l, r.Touches l → ¬ IsMeta l := by
    intro name hw hname
    refine ⟨hw.isFilter_eq, fun l hl => ?_⟩
    rw [hw.eq_of_touches hl]
    exact hname
  have hfilter : r.isFilter = true ∧ (∀ l ∈ r.sourceLabels, IsObjectMeta l) →
      r.isFilter = true ∧ ∀ l ∈ r.sourceLabels, IsMeta l :=
    fun h => ⟨h.1, fun l hl => (h.2 l hl).1⟩
  rcases mem_rulesBefore.mp hr with h | h | h | h | h | h | h | h
  · obtain ⟨-, name, hname, hw⟩ := writes_of_mem_forcedLabelRules h
    have hnot : ∀ name ∈ [projectId, location, cluster], ¬ IsMeta name := by decide
    exact .inr (hwrites hw (hnot name hname))
  · exact .inl (hfilter (isFilter_of_mem_namespaceFilter h))
  · exact .inl (hfilter (isFilter_of_mem_selectorFilter hparts.selector h))
  · exact .inr (hwrites (writes_of_mem_namespaceLabel h).2 (by decide))
  · obtain ⟨m, -, hw, -⟩ := MetadataLabel.exists_of_mem_rules h
    exact .inr (hwrites hw (by cases m <;> decide))
  · exact .inr (hwrites (h ▸ writes_set (by decide) c.name) (by decide))
  · exact .inl (hfilter (isFilter_of_mem_runningFilterRules h))
  · rcases mem_addressRules hparts.address h with ⟨name, -, rfl⟩ | rfl | ⟨name, hname, hw⟩
    · refine .inl ⟨rfl, fun l hl => ?_⟩
      obtain rfl := List.mem_singleton.mp hl
      decide
    · refine .inr ⟨rfl, fun l hl => ?_⟩
      rw [eq_of_touches_labelDrop_container hl]
      decide
    · have hnot : ∀ name ∈ addressLabels, ¬ IsMeta name := by decide
      exact .inr (hwrites hw (hnot name hname))

end Phase

end ScrapeJobs
