import ScrapeJobs.Proofs.Port

/-!
# Named ports and the instances of pods

The job of a named port writes the instance of a pod as its name with the port behind it
(`exists_instance`). The port is the same for all candidates that the job keeps, so two of them
have the same instance exactly if they go by the same name (`instance_eq_iff_baseName_eq`): pods
of daemon sets go by their node, and two of them on one node have one instance.
-/

namespace ScrapeJobs

open Label Labels Relabel

variable {c : Compiler} {r : Resource} {i : Nat} {spec : PodEndpoint} {n : String} {j : Job}
  {ls out a b a' b' : Labels}

namespace Port

theorem baseName_of_not (h : ¬ IsOfDaemonSet ls) : baseName ls = ls.value metaPodName := if_neg h

/-- A pod goes by something if it has a name and a node. -/
theorem baseName_ne_empty (hpod : ls.value metaPodName ≠ "")
    (hnode : ls.value metaPodNodeName ≠ "") : baseName ls ≠ "" := by
  unfold baseName
  split
  · rename_i hpre
    obtain ⟨rest, hrest⟩ := hpre
    rw [← hrest, List.drop_left]
    intro hempty
    rw [String.ofList_eq_empty_iff.mp hempty, toList_controllerText] at hrest
    have hsplit : "DaemonSet".toList ++ [';'] = (ls.value metaPodControllerKind).toList ++
        ';' :: (ls.value metaPodNodeName).toList := hrest
    -- the semicolon at the end is the one behind the kind, since there is no other one
    rcases List.append_eq_append_iff.mp hsplit with ⟨t, -, ht⟩ | ⟨t, hkind, ht⟩
    · have hlength := congrArg List.length ht
      have hpos := List.length_pos_of_ne_nil (mt String.toList_eq_nil_iff.mp hnode)
      simp only [List.length_append, List.length_cons, List.length_nil] at hlength
      omega
    · cases t with
      | nil => exact hnode (String.toList_eq_nil_iff.mp (List.cons.inj ht).2)
      | cons x t =>
        have hmem : ';' ∈ "DaemonSet".toList := by
          rw [hkind, ← (List.cons.inj ht).1]
          exact List.mem_append_right _ List.mem_cons_self
        exact absurd hmem (by decide)
  · exact hpod

end Port

/-- What no rule before the port has touched, the rules of the port still see. -/
theorem Phase.get?_of_pass_rulesBefore {ctx : JobContext} {sel addr mapped : List Rule}
    (hparts : Phase.Parts ctx sel addr mapped) {front : Labels} {l : String} (hl : IsMeta l)
    (h : pass ls (Phase.rulesBefore ctx sel []) = some front) : front.get? l = ls.get? l := by
  refine get?_pass (fun rule hr htouch => ?_) h
  have hmem : rule ∈ Phase.rulesBefore ctx sel addr := by
    rw [← List.nil_append addr, Phase.rulesBefore_append]
    exact List.mem_append_left _ hr
  rcases Phase.isMeta_of_mem_rulesBefore hparts hmem with ⟨hf, -⟩ | ⟨-, hnot⟩
  · exact not_touches_of_isFilter hf l htouch
  · exact hnot l htouch hl

theorem Selector.isPatternable_of_isReadable (source : String) {s : String}
    (h : (Rule.keep [source] (literal s)).IsReadable) : Selector.IsPatternable s := by
  obtain ⟨regex, hregex⟩ := h
  refine Nat.not_lt.mp fun hlt => ?_
  have hnone : Regex.anchored? (literal s) = none := by rw [Regex.anchored?_literal, if_pos hlt]
  cases hnone.symm.trans hregex

theorem Port.baseName_congr (hpod : a.value metaPodName = b.value metaPodName)
    (hkind : a.value metaPodControllerKind = b.value metaPodControllerKind)
    (hnode : a.value metaPodNodeName = b.value metaPodNodeName) : baseName a = baseName b := by
  have htext : controllerText a = controllerText b := by rw [controllerText, controllerText, hkind,
    hnode]
  have hof : IsOfDaemonSet a ↔ IsOfDaemonSet b := by rw [IsOfDaemonSet, IsOfDaemonSet, htext]
  simp only [baseName, hof, htext, hpod]

/-- The job of a named port puts the same text behind the name of each instance. -/
theorem exists_instance (h : c.Emits r i (.pod spec) j) (hspec : spec.port = some (.name n)) :
    ∃ suffix : String, ∀ ls out : Labels, ls.value metaPodName ≠ "" →
      ls.value metaPodNodeName ≠ "" → run ls j.relabeling = .ok (some out) →
      out.get? instanceName = some (Port.baseName ls ++ suffix) := by
  obtain ⟨ctx, hctx, hjob⟩ := h.exists_context
  obtain ⟨sel, addr, mapped, hparts, hrules⟩ := Phase.exists_parts_of_allRules hjob.relabeling
  obtain ⟨hport, hne⟩ := hctx.port_of_name hspec
  obtain rfl : Port.instanceRules ++ (Port.named n).rules = addr := by
    have haddr := hparts.address
    rw [Phase.addressRules, hctx.endpoint, hport] at haddr
    exact Except.ok.inj haddr
  rw [← List.nil_append (Port.instanceRules ++ _), Phase.rulesBefore_append] at hrules
  have hsize : Selector.IsPatternable n := by
    refine Selector.isPatternable_of_isReadable metaPodContainerPortName
      (hjob.isReadable ?_)
    simp [hrules, Port.rules]
  obtain ⟨x, y, -, hjoin⟩ := Port.exists_step_pairRule hne
  refine ⟨x ++ ":" ++ y, fun ls out hpod hnode hrun => ?_⟩
  rw [hjob.run_eq_pass, hrules, pass_append, pass_append] at hrun
  obtain ⟨back, hback, hmapped⟩ := Option.bind_eq_some_iff.mp (Except.ok.inj hrun)
  obtain ⟨front, hfront, hback⟩ := Option.bind_eq_some_iff.mp hback
  have hvalue : ∀ l, IsMeta l → front.value l = ls.value l := fun l hl => by
    rw [Labels.value, Labels.value, Phase.get?_of_pass_rulesBefore hparts hl hfront]
  have hbase : Port.baseName front = Port.baseName ls :=
    Port.baseName_congr (hvalue _ (by decide)) (hvalue _ (by decide)) (hvalue _ (by decide))
  have htmp : (front.set tmpInstance (Port.baseName ls)).value tmpInstance = Port.baseName ls := by
    rw [value_set, if_pos rfl]
  rw [pass_append, Port.pass_instanceRules, Option.bind_some, Port.pass_named hsize, hbase] at hback
  split at hback
  · rename_i hname
    rw [hjoin _ (htmp.symm ▸ Port.baseName_ne_empty hpod hnode) hname, htmp] at hback
    have hkept : out.get? instanceName = back.get? instanceName := by
      refine get?_pass (fun rule hr htouch => ?_) hmapped
      obtain ⟨name, hw, hnot, -⟩ := Phase.exists_of_mem_mappingRules hparts.mapping hr
      rw [← hw.eq_of_touches htouch] at hnot
      exact absurd hnot (by decide)
    rw [hkept, ← Option.some.inj hback, get?_set_self, if_neg]
    intro hempty
    exact Port.baseName_ne_empty hpod hnode (String.append_eq_empty_iff.mp hempty).1
  · cases hback

/-- Of two pods that the job of a named port keeps, both get an instance. The instances are the
same exactly if the pods go by the same name, so two pods that no daemon set runs never share
one. -/
theorem instance_eq_iff_baseName_eq (h : c.Emits r i (.pod spec) j)
    (hspec : spec.port = some (.name n)) (ha : run a j.relabeling = .ok (some a'))
    (hb : run b j.relabeling = .ok (some b'))
    (hpods : a.value metaPodName ≠ "" ∧ b.value metaPodName ≠ "")
    (hnodes : a.value metaPodNodeName ≠ "" ∧ b.value metaPodNodeName ≠ "") :
    (a'.get? instanceName).isSome = true ∧ (b'.get? instanceName).isSome = true ∧
      (a'.get? instanceName = b'.get? instanceName ↔ Port.baseName a = Port.baseName b) ∧
      (¬ Port.IsOfDaemonSet a → ¬ Port.IsOfDaemonSet b →
        a.value metaPodName ≠ b.value metaPodName →
          a'.get? instanceName ≠ b'.get? instanceName) := by
  obtain ⟨suffix, hsuffix⟩ := exists_instance h hspec
  have hiff : a'.get? instanceName = b'.get? instanceName ↔
      Port.baseName a = Port.baseName b := by
    rw [hsuffix a a' hpods.1 hnodes.1 ha, hsuffix b b' hpods.2 hnodes.2 hb, Option.some_inj,
      ← String.toList_inj, String.toList_append, String.toList_append, List.append_left_inj,
      String.toList_inj]
  refine ⟨?_, ?_, hiff, fun hna hnb hne heq => hne ?_⟩
  · rw [hsuffix a a' hpods.1 hnodes.1 ha]
    rfl
  · rw [hsuffix b b' hpods.2 hnodes.2 hb]
    rfl
  · rw [← Port.baseName_of_not hna, ← Port.baseName_of_not hnb]
    exact hiff.mp heq

/-! ## Pods on one node -/

namespace Sample

/-- A candidate of the sample resource on a given node, with a controller of a given kind. -/
def onNode (pod kind : String) : Labels :=
  ((candidate.insert metaPodName pod).insert metaPodControllerKind kind).insert metaPodNodeName "n1"

theorem exists_run_of_picks (h : Picks resource (.pod named) ls)
    (hj : compiler.Emits resource 0 (.pod named) j) :
    ∃ out, run ls j.relabeling = .ok (some out) := by
  obtain ⟨ctx, hctx, hjob⟩ := hj.exists_context
  obtain ⟨out, hout⟩ := Option.isSome_iff_exists.mp
    ((Compiler.isSome_pass_iff_picks hctx hjob ls).mpr h)
  exact ⟨out, hjob.run_eq_pass ls ▸ congrArg Except.ok hout⟩

theorem get?_onNode (pod kind l : String) : (onNode pod kind).get? l =
    if l = metaPodNodeName then some "n1"
    else if l = metaPodControllerKind then some kind
    else if l = metaPodName then some pod
    else candidate.get? l := by
  simp only [onNode, Dict.get?_insert]

theorem value_onNode (pod kind : String) : (onNode pod kind).value metaPodName = pod ∧
    (onNode pod kind).value metaPodControllerKind = kind ∧
      (onNode pod kind).value metaPodNodeName = "n1" := by
  simp only [Labels.value, get?_onNode]
  exact ⟨rfl, rfl, rfl⟩

theorem value_onNode_ne_empty {pod : String} (hpod : pod ≠ "") (kind : String) :
    (onNode pod kind).value metaPodName ≠ "" ∧ (onNode pod kind).value metaPodNodeName ≠ "" := by
  obtain ⟨hname, -, hnode⟩ := value_onNode pod kind
  exact ⟨hname.symm ▸ hpod, hnode.symm ▸ by decide⟩

theorem isOfDaemonSet_onNode (pod : String) {kind : String} (h : ';' ∉ kind.toList) :
    Port.IsOfDaemonSet (onNode pod kind) ↔ kind = "DaemonSet" := by
  obtain ⟨-, hkind, -⟩ := value_onNode pod kind
  rw [Port.isOfDaemonSet_iff (hkind.symm ▸ h), hkind]

theorem baseName_onNode (pod : String) : Port.baseName (onNode pod "DaemonSet") = "n1" := by
  obtain ⟨-, hkind, hnode⟩ := value_onNode pod "DaemonSet"
  rw [Port.baseName_of_not_mem (hkind.symm ▸ by decide), hkind, if_pos rfl, hnode]

theorem picks_onNode (pod kind : String) : Picks resource (.pod named) (onNode pod kind) := by
  refine picks.of_agreeOn fun l hl => ?_
  have hother : ∀ k ∈ [metaPodName, metaPodControllerKind, metaPodNodeName], ¬ IsPicked k := by
    decide
  have hne : ∀ k ∈ [metaPodName, metaPodControllerKind, metaPodNodeName], l ≠ k :=
    fun k hk heq => hother k hk (heq ▸ hl)
  rw [get?_onNode, if_neg (hne _ (by simp)), if_neg (hne _ (by simp)), if_neg (hne _ (by simp))]

/-- Two pods of a daemon set on one node are kept with one instance, although they have
different names. -/
theorem instance_eq_on_node : ∃ j a' b',
    compiler.Emits resource 0 (.pod named) j ∧
    run (onNode "web-0" "DaemonSet") j.relabeling = .ok (some a') ∧
    run (onNode "web-1" "DaemonSet") j.relabeling = .ok (some b') ∧
    (onNode "web-0" "DaemonSet").get? metaNamespace =
      (onNode "web-1" "DaemonSet").get? metaNamespace ∧
    (onNode "web-0" "DaemonSet").get? metaPodName = some "web-0" ∧
    (onNode "web-1" "DaemonSet").get? metaPodName = some "web-1" ∧
    (onNode "web-0" "DaemonSet").get? metaPodNodeName = some "n1" ∧
    (onNode "web-1" "DaemonSet").get? metaPodNodeName = some "n1" ∧
    (a'.get? instanceName).isSome = true ∧ a'.get? instanceName = b'.get? instanceName := by
  obtain ⟨j, hj⟩ := Compiler.exists_emits isSome_compileResource
    (show resource.target.endpoints[0]? = some (.pod named) from rfl)
  obtain ⟨a', ha⟩ := exists_run_of_picks (picks_onNode "web-0" "DaemonSet") hj
  obtain ⟨b', hb⟩ := exists_run_of_picks (picks_onNode "web-1" "DaemonSet") hj
  obtain ⟨suffix, hsuffix⟩ := exists_instance hj rfl
  obtain ⟨hpod, hnode⟩ := value_onNode_ne_empty (show "web-0" ≠ "" by decide) "DaemonSet"
  obtain ⟨hpod', hnode'⟩ := value_onNode_ne_empty (show "web-1" ≠ "" by decide) "DaemonSet"
  have hfirst := hsuffix _ a' hpod hnode ha
  have hsecond := hsuffix _ b' hpod' hnode' hb
  rw [baseName_onNode] at hfirst hsecond
  refine ⟨j, a', b', hj, ha, hb, ?_, ?_, ?_, ?_, ?_, ?_, ?_⟩
  · rw [get?_onNode, get?_onNode]
    rfl
  iterate 4 rw [get?_onNode]; rfl
  · rw [hfirst]
    rfl
  · rw [hfirst, hsecond]

/-- Two pods of a stateful set on one node are kept apart. -/
theorem instance_ne_on_node : ∃ j a' b',
    compiler.Emits resource 0 (.pod named) j ∧
    run (onNode "web-0" "StatefulSet") j.relabeling = .ok (some a') ∧
    run (onNode "web-1" "StatefulSet") j.relabeling = .ok (some b') ∧
    a'.get? instanceName ≠ b'.get? instanceName := by
  obtain ⟨j, hj⟩ := Compiler.exists_emits isSome_compileResource
    (show resource.target.endpoints[0]? = some (.pod named) from rfl)
  obtain ⟨a', ha⟩ :=
    exists_run_of_picks (picks_onNode "web-0" "StatefulSet") hj
  obtain ⟨b', hb⟩ :=
    exists_run_of_picks (picks_onNode "web-1" "StatefulSet") hj
  obtain ⟨hpod, hnode⟩ := value_onNode_ne_empty (show "web-0" ≠ "" by decide) "StatefulSet"
  obtain ⟨hpod', hnode'⟩ := value_onNode_ne_empty (show "web-1" ≠ "" by decide) "StatefulSet"
  have hnot : ∀ pod, ¬ Port.IsOfDaemonSet (onNode pod "StatefulSet") := fun pod =>
    mt (isOfDaemonSet_onNode pod (by decide)).mp (by decide)
  obtain ⟨-, -, -, hne⟩ :=
    instance_eq_iff_baseName_eq hj rfl ha hb ⟨hpod, hpod'⟩ ⟨hnode, hnode'⟩
  refine ⟨j, a', b', hj, ha, hb, hne (hnot _) (hnot _) ?_⟩
  rw [(value_onNode _ _).1, (value_onNode _ _).1]
  decide

end Sample

end ScrapeJobs
