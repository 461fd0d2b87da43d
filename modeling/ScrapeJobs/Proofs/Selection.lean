import ScrapeJobs.Proofs.Compiler.Emits
import ScrapeJobs.Proofs.Phase

/-!
# Which targets a job keeps

`Picks` says of a discovered candidate, without running any rules but those of the selector,
whether the job of an endpoint is to scrape it. The rules of the job decide the same
(`isSome_run_iff_picks`): its filters read labels of discovery, which no rule before them
writes, and nothing behind them drops a candidate. So candidates with the same labels for the
filters are picked together (`Picks.of_agreeOn`).
-/

namespace ScrapeJobs

open Label Outcome Relabel

/-- What must hold of a candidate for the job of an endpoint to keep it. What does not apply
to a kind of resource or endpoint counts as true. -/
structure Picks (r : Resource) (e : Endpoint) (ls : Labels) : Prop where
  inNamespace : ∀ spec ns, r.target = .pod spec → r.namespace? = .ok (some ns) →
    ls.get? metaNamespace = some ns
  selected : ∀ s f, r.target.selector? = some (s, f) →
    ∃ rules kept, s.rules f = .ok rules ∧ run ls rules = .ok (some kept)
  running : r.target.filterRunning = true →
    ls.value metaPodPhase ≠ "Failed" ∧ ls.value metaPodPhase ≠ "Succeeded"
  port : ∀ spec name, e = .pod spec → spec.port = some (.name name) →
    ls.get? metaPodContainerPortName = some name

/-! ## Single filters -/

namespace Relabel

theorem step_keep {l pattern : String} {regex : Regex}
    (h : Regex.anchored? pattern = some regex) (ls : Labels) :
    (Rule.keep [l] pattern).step ls = if regex.isMatch (ls.value l) then some ls else none := by
  have hregex : Regex.anchored? (Rule.keep [l] pattern).regex = some regex := h
  rw [step_eq_apply hregex, ← source_of_single (r := .keep [l] pattern) rfl]
  rfl

theorem step_drop {l pattern : String} {regex : Regex}
    (h : Regex.anchored? pattern = some regex) (ls : Labels) :
    (Rule.drop [l] pattern).step ls = if regex.isMatch (ls.value l) then none else some ls := by
  have hregex : Regex.anchored? (Rule.drop [l] pattern).regex = some regex := h
  rw [step_eq_apply hregex, ← source_of_single (r := .drop [l] pattern) rfl]
  rfl

/-- A filter for a literal text keeps what has this text for a label. -/
theorem isSome_step_keep_literal {l s : String} (hs : s ≠ "")
    (hr : (Rule.keep [l] (literal s)).IsReadable) (ls : Labels) :
    ((Rule.keep [l] (literal s)).step ls).isSome = true ↔ ls.get? l = some s := by
  obtain ⟨regex, hregex⟩ := hr
  have hliteral : Regex.anchored? (literal s) = some regex := hregex
  rw [← Labels.value_eq_iff hs, ← Regex.isMatch_literal_iff hliteral, step_keep hliteral]
  split <;> simp [*]

theorem isSome_step_drop_finished (ls : Labels) :
    ((Rule.drop [metaPodPhase] "(Failed|Succeeded)").step ls).isSome = true ↔
      ls.value metaPodPhase ≠ "Failed" ∧ ls.value metaPodPhase ≠ "Succeeded" := by
  obtain ⟨regex, hregex⟩ : ∃ regex, Regex.anchored? "(Failed|Succeeded)" = some regex :=
    ⟨_, Regex.anchored?_finished⟩
  rw [← not_or, ← Regex.isMatch_finished_iff hregex, step_drop hregex]
  split <;> simp [*]

end Relabel

/-! ## Ports -/

namespace Compiler

variable {c : Compiler} {r : Resource} {e : Endpoint} {i : Nat} {j : Job} {ctx : JobContext}

/-- A named port of a context is the one that its endpoint refers to. -/
theorem IsContext.port_eq_named (h : IsContext c r e ctx) {name : String}
    (hport : ctx.port = some (.named name)) :
    (∃ spec, e = .pod spec ∧ spec.port = some (.name name)) ∧ name ≠ "" := by
  cases e with
  | pod spec =>
    obtain ⟨port, hctx, hresolve⟩ := h.exists_port
    obtain rfl : port = .named name := Option.some.inj (hctx.symm.trans hport)
    cases hspec : spec.port with
    | none =>
      rw [hspec] at hresolve
      cases hresolve
    | some ref =>
      rw [hspec] at hresolve
      cases ref with
      | name s =>
        obtain ⟨hs, hne⟩ := Port.eq_named_of_resolve hresolve
        cases hs
        exact ⟨⟨spec, rfl, hspec⟩, hne⟩
      | number n =>
        obtain ⟨m, hm⟩ := Port.exists_numeric_of_resolve hresolve
        cases hm
  | node s | probe m =>
    have hnone := h.port
    rw [hport] at hnone
    cases hnone

theorem IsContext.port_of_name {spec : PodEndpoint} (h : IsContext c r (.pod spec) ctx)
    {name : String} (hspec : spec.port = some (.name name)) :
    ctx.port = some (.named name) ∧ name ≠ "" := by
  obtain ⟨port, hctx, hresolve⟩ := h.exists_port
  rw [hspec] at hresolve
  obtain ⟨rfl, hne⟩ := Port.eq_named_of_resolve hresolve
  exact ⟨hctx, hne⟩

/-! ## Conditions on the original candidate -/

theorem isSome_namespaceFilter_iff (h : IsContext c r e ctx) (ls : Labels)
    (hread : ∀ rule ∈ Phase.namespaceFilter ctx, rule.IsReadable) :
    (∀ rule ∈ Phase.namespaceFilter ctx, (rule.step ls).isSome = true) ↔
      ∀ spec ns, r.target = .pod spec → r.namespace? = .ok (some ns) →
        ls.get? metaNamespace = some ns := by
  rw [← h.target, h.inNamespace]
  unfold Phase.namespaceFilter at hread ⊢
  cases htarget : ctx.target with
  | pod spec =>
    cases hns : ctx.inNamespace with
    | none => simp
    | some ns =>
      have hname : ns ≠ "" := Resource.namespace_ne_empty (hns ▸ h.inNamespace)
      simp only [htarget, hns, List.mem_singleton, forall_eq] at hread ⊢
      rw [isSome_step_keep_literal hname hread]
      simp
  | clusterPod spec => simp
  | clusterNode spec => simp
  | probe spec => simp

theorem isSome_run_selectorFilter_iff {sel : List Rule} (h : IsContext c r e ctx)
    (hsel : Phase.selectorFilter ctx.target = .ok sel) (ls : Labels)
    (hread : ∀ rule ∈ sel, rule.IsReadable) :
    (∀ rule ∈ sel, (rule.step ls).isSome = true) ↔
      ∀ s f, r.target.selector? = some (s, f) →
        ∃ rules kept, s.rules f = .ok rules ∧ run ls rules = .ok (some kept) := by
  have hfilter : ∀ rule ∈ sel, rule.isFilter = true :=
    fun rule hr => (Phase.isFilter_of_mem_selectorFilter hsel hr).1
  have hpass : (pass ls sel).isSome = true ↔ ∀ rule ∈ sel, (rule.step ls).isSome = true := by
    rw [isSome_pass_iff (P := fun _ => True) hread (fun _ _ _ _ _ => trivial)
      (fun rule hr l _ => not_touches_of_isFilter (hfilter rule hr) l)]
    exact forall₂_congr fun rule hr => ⟨fun h => h (hfilter rule hr), fun h _ => h⟩
  rw [← hpass, Option.isSome_iff_exists, ← h.target]
  unfold Phase.selectorFilter at hsel
  split at hsel
  · rename_i s f hs
    rw [hs]
    constructor
    · rintro ⟨kept, hkept⟩ s' f' heq
      cases heq
      exact ⟨sel, kept, hsel, by rw [run_eq_pass hread, hkept]⟩
    · intro hall
      obtain ⟨rules, kept, hrules, hrun⟩ := hall s f rfl
      rw [hsel] at hrules
      cases hrules
      rw [run_eq_pass hread] at hrun
      exact ⟨kept, Except.ok.inj hrun⟩
  · rename_i hs
    cases hsel
    rw [hs]
    simp [pass_nil]

theorem isSome_runningFilter_iff (h : IsContext c r e ctx) (ls : Labels) :
    (∀ rule ∈ Phase.runningFilterRules ctx.target, (rule.step ls).isSome = true) ↔
      (r.target.filterRunning = true →
        ls.value metaPodPhase ≠ "Failed" ∧ ls.value metaPodPhase ≠ "Succeeded") := by
  rw [← h.target, Phase.runningFilterRules]
  cases ctx.target.filterRunning with
  | false => simp
  | true =>
    simp only [if_true, List.mem_singleton, forall_eq, true_implies]
    exact isSome_step_drop_finished ls

theorem isSome_portFilter_iff {addr : List Rule} (h : IsContext c r e ctx)
    (haddr : Phase.addressRules ctx = .ok addr) (ls : Labels)
    (hread : ∀ rule ∈ addr, rule.IsReadable) :
    (∀ rule ∈ addr, rule.isFilter = true → (rule.step ls).isSome = true) ↔
      ∀ spec name, e = .pod spec → spec.port = some (.name name) →
        ls.get? metaPodContainerPortName = some name := by
  constructor
  · intro hall spec name he hspec
    subst he
    obtain ⟨hport, hname⟩ := h.port_of_name hspec
    have hmem : Rule.keep [metaPodContainerPortName] (literal name) ∈ addr := by
      rw [Phase.addressRules, h.endpoint, hport] at haddr
      cases haddr
      simp [Port.rules]
    exact (isSome_step_keep_literal hname (hread _ hmem) ls).mp (hall _ hmem rfl)
  · intro hall rule hr hf
    rcases Phase.mem_addressRules haddr hr with ⟨name, hport, rfl⟩ | rfl | ⟨name, -, hw⟩
    · obtain ⟨⟨spec, he, hspec⟩, hname⟩ := h.port_eq_named hport
      exact (isSome_step_keep_literal hname (hread _ hr) ls).mpr (hall spec name he hspec)
    · cases hf
    · rw [hw.isFilter_eq] at hf
      cases hf

/-- The rules of a job keep what their filters would keep of the candidate as it was found. -/
theorem isSome_pass_rules_iff {sel addr mapped : List Rule}
    (hparts : Phase.Parts ctx sel addr mapped)
    (hread : ∀ rule ∈ Phase.rulesBefore ctx sel addr ++ mapped, rule.IsReadable)
    (ls : Labels) :
    (pass ls (Phase.rulesBefore ctx sel addr ++ mapped)).isSome = true ↔
      ∀ rule ∈ Phase.rulesBefore ctx sel addr, rule.isFilter = true →
        (rule.step ls).isSome = true := by
  have hrest : ∀ ls', (pass ls' mapped).isSome = true := by
    refine isSome_pass (fun rule hr => hread rule (List.mem_append_right _ hr)) fun rule hr => ?_
    obtain ⟨name, hw, -⟩ := Phase.exists_of_mem_mappingRules hparts.mapping hr
    exact hw.isFilter_eq
  have hfront := fun {rule} => Phase.isMeta_of_mem_rulesBefore (r := rule) hparts
  have hkeep := isSome_pass_iff (P := IsMeta)
    (fun rule hr => hread rule (List.mem_append_left _ hr))
    (fun rule hr hf => by
      rcases hfront hr with h | h
      · exact h.2
      · rw [h.1] at hf
        cases hf)
    (fun rule hr l hl ht => by
      rcases hfront hr with h | h
      · exact not_touches_of_isFilter h.1 l ht
      · exact h.2 l ht hl) ls
  rw [pass_append, ← hkeep]
  cases pass ls (Phase.rulesBefore ctx sel addr) with
  | none => simp
  | some ls' => simpa using hrest ls'

/-- The filters of a job are those of the namespace, of the selector, of finished pods and of
the port; every other rule before the mappings writes a label. -/
theorem forall_filter_rulesBefore_iff {sel addr : List Rule} {K : Rule → Prop}
    (hsel : Phase.selectorFilter ctx.target = .ok sel) :
    (∀ rule ∈ Phase.rulesBefore ctx sel addr, rule.isFilter = true → K rule) ↔
      (∀ rule ∈ Phase.namespaceFilter ctx, K rule) ∧ (∀ rule ∈ sel, K rule) ∧
        (∀ rule ∈ Phase.runningFilterRules ctx.target, K rule) ∧
          ∀ rule ∈ addr, rule.isFilter = true → K rule := by
  simp only [Phase.mem_rulesBefore]
  constructor
  · intro hall
    refine ⟨fun rule hr => ?_, fun rule hr => ?_, fun rule hr => ?_, fun rule hr hf => ?_⟩
    · exact hall rule (by simp [hr]) (Phase.isFilter_of_mem_namespaceFilter hr).1
    · exact hall rule (by simp [hr]) (Phase.isFilter_of_mem_selectorFilter hsel hr).1
    · exact hall rule (by simp [hr]) (Phase.isFilter_of_mem_runningFilterRules hr).1
    · exact hall rule (by simp [hr]) hf
  · rintro ⟨hns, hselected, hrunning, hport⟩ rule hr hf
    have hwrites : ∀ {name}, rule.Writes name → K rule := by
      intro name hw
      rw [hw.isFilter_eq] at hf
      cases hf
    rcases hr with hr | hr | hr | hr | hr | hr | hr | hr
    · obtain ⟨-, name, -, hw⟩ := Phase.writes_of_mem_forcedLabelRules hr
      exact hwrites hw
    · exact hns rule hr
    · exact hselected rule hr
    · exact hwrites (Phase.writes_of_mem_namespaceLabel hr).2
    · obtain ⟨m, -, hw, -⟩ := MetadataLabel.exists_of_mem_rules hr
      exact hwrites hw
    · exact hwrites (hr ▸ Phase.writes_set (by decide) ctx.name)
    · exact hrunning rule hr
    · exact hport rule hr hf

theorem isSome_pass_iff_picks (hctx : IsContext c r e ctx) (hjob : IsJobOf c ctx j)
    (ls : Labels) : (pass ls j.relabeling).isSome = true ↔ Picks r e ls := by
  obtain ⟨sel, addr, mapped, hparts, hrules⟩ :=
    Phase.exists_parts_of_allRules hjob.relabeling
  have hread : ∀ rule ∈ Phase.rulesBefore ctx sel addr ++ mapped, rule.IsReadable :=
    fun rule hr => hjob.isReadable (hrules ▸ hr)
  have hbefore : ∀ rule ∈ Phase.rulesBefore ctx sel addr, rule.IsReadable :=
    fun rule hr => hread rule (List.mem_append_left _ hr)
  rw [hrules, isSome_pass_rules_iff hparts hread,
    forall_filter_rulesBefore_iff hparts.selector,
    isSome_namespaceFilter_iff hctx ls fun rule hr =>
      hbefore rule (Phase.mem_rulesBefore.mpr (by simp [hr])),
    isSome_run_selectorFilter_iff hctx hparts.selector ls fun rule hr =>
      hbefore rule (Phase.mem_rulesBefore.mpr (by simp [hr])),
    isSome_runningFilter_iff hctx ls,
    isSome_portFilter_iff hctx hparts.address ls fun rule hr =>
      hbefore rule (Phase.mem_rulesBefore.mpr (by simp [hr]))]
  constructor
  · rintro ⟨hns, hselected, hrunning, hport⟩
    exact ⟨hns, hselected, hrunning, hport⟩
  · intro h
    exact ⟨h.inNamespace, h.selected, h.running, h.port⟩

end Compiler

/-- Nothing is asked of a target to probe. -/
theorem Picks.of_probe {r : Resource} {e : Endpoint} {spec : ProbeSpec}
    (hr : r.target = .probe spec) (he : e ∈ r.target.endpoints) (ls : Labels) :
    Picks r e ls := by
  rw [hr] at he
  obtain ⟨m, -, rfl⟩ := List.mem_map.mp he
  refine ⟨fun spec' ns h => ?_, fun s f h => ?_, fun h => ?_, fun spec' name h => ?_⟩
  · rw [hr] at h
    cases h
  · rw [hr] at h
    cases h
  · rw [hr] at h
    cases h
  · cases h

/-- What a job asks of a candidate can be read off these labels. -/
def Label.IsPicked (l : String) : Prop :=
  l ∈ [metaNamespace, metaPodPhase, metaPodContainerPortName] ∨ IsObjectLabel l

instance : DecidablePred Label.IsPicked := fun _ => inferInstanceAs (Decidable (_ ∨ _))

/-- Of candidates that cannot be told apart on these labels, a job keeps both or none. -/
theorem Picks.of_agreeOn {r : Resource} {e : Endpoint} {a b : Labels} (hp : Picks r e a)
    (h : Labels.AgreeOn IsPicked a b) : Picks r e b where
  inNamespace spec ns hr hns := h metaNamespace (by decide) ▸ hp.inNamespace spec ns hr hns
  selected s f hs := by
    obtain ⟨rules, kept, hrules, hrun⟩ := hp.selected s f hs
    have hfilter : ∀ rule ∈ rules, rule.isFilter = true :=
      fun rule hr => (Selector.isFilter_of_mem_rules hrules hr).1
    have hsteps := (exists_run_iff_of_isFilter hfilter a).mp ⟨kept, hrun⟩
    obtain ⟨kept', hrun'⟩ := (exists_run_iff_of_isFilter hfilter b).mpr fun rule hr => by
      rw [← hsteps rule hr]
      refine (isSome_step_congr (hfilter rule hr) fun l hl => h.value (.inr ?_)).symm
      exact (Selector.isFilter_of_mem_rules hrules hr).2 l hl
    exact ⟨rules, kept', hrules, hrun'⟩
  running hf := h.value (l := metaPodPhase) (by decide) ▸ hp.running hf
  port spec name he hspec :=
    h metaPodContainerPortName (by decide) ▸ hp.port spec name he hspec

/-- The rules of a job run without an error, and they keep a candidate exactly if the
conditions of its resource and its endpoint hold of the candidate as it was found. So a job
for the pods of a namespace keeps no pod of another one, and a job for probes keeps all. -/
theorem isSome_run_iff_picks {c : Compiler} {r : Resource} {i : Nat} {e : Endpoint} {j : Job}
    (h : c.Emits r i e j) (ls : Labels) :
    ∃ out, run ls j.relabeling = .ok out ∧ (out.isSome = true ↔ Picks r e ls) ∧
      (∀ spec ns, r.target = .pod spec → r.namespace? = .ok (some ns) →
        ls.get? metaNamespace ≠ some ns → out = none) ∧
      ∀ spec, r.target = .probe spec → out.isSome = true := by
  obtain ⟨ctx, hctx, hjob⟩ := h.exists_context
  have hiff := Compiler.isSome_pass_iff_picks hctx hjob ls
  refine ⟨_, hjob.run_eq_pass ls, hiff, ?_, ?_⟩
  · intro spec ns hspec hns hother
    rw [← Option.not_isSome_iff_eq_none, hiff]
    exact fun hp => hother (hp.inNamespace spec ns hspec hns)
  · intro spec hspec
    obtain ⟨out, -, he, -⟩ := h
    exact hiff.mpr (.of_probe hspec (List.mem_of_getElem? he) ls)

/-- A running pod that the sample resource selects. -/
def Sample.candidate : Labels where
  entries := [
    (address, "10.0.0.7:9090"), (metaNamespace, "shop.a"),
    (metaPodContainerName, "server"), (metaPodContainerPortName, "http-metrics"),
    (metaPodIp, "10.0.0.7"), (Family.pod.valueOf "app", "web+"),
    (Family.pod.valueOf "tier", "back"), (metaPodName, "web-0"), (metaPodPhase, "Running")]
  sorted := by decide +kernel

/-- What the sample resource asks of a candidate for its named port. -/
theorem Sample.picks_of {ls : Labels} (hns : ls.get? metaNamespace = some "shop.a")
    (hselector : ((selector.rules .pod).toOption.bind fun rules =>
      (run ls rules).toOption.join).isSome = true)
    (hphase : ls.value metaPodPhase ≠ "Failed" ∧ ls.value metaPodPhase ≠ "Succeeded")
    (hport : ls.get? metaPodContainerPortName = some "http-metrics") :
    Picks resource (.pod named) ls := by
  refine ⟨fun spec ns _ hns' => ?_, fun s f hs => ?_, fun _ => hphase, fun spec name he hp => ?_⟩
  · cases hns'
    exact hns
  · cases hs
    obtain ⟨kept, hkept⟩ := Option.isSome_iff_exists.mp hselector
    obtain ⟨rules, hrules, hkept⟩ := Option.bind_eq_some_iff.mp hkept
    exact ⟨rules, kept, eq_ok_of_toOption hrules,
      eq_ok_of_toOption (Option.join_eq_some_iff.mp hkept)⟩
  · cases he
    cases hp
    exact hport

theorem Sample.picks : Picks resource (.pod named) candidate :=
  picks_of (by decide) (by decide) (by decide) (by decide)

/-- The sample pod is kept, and a pod of a namespace that only looks alike is not. -/
theorem isSome_run_sample : ∃ j, Sample.compiler.Emits Sample.resource 0 (.pod Sample.named) j ∧
    (∃ kept, run Sample.candidate j.relabeling = .ok (some kept)) ∧
    run (Sample.candidate.insert metaNamespace "shopXa") j.relabeling = .ok none := by
  obtain ⟨j, hj⟩ := Compiler.exists_emits Sample.isSome_compileResource
    (show Sample.resource.target.endpoints[0]? = some (.pod Sample.named) from rfl)
  obtain ⟨out, hrun, hiff, -, -⟩ := isSome_run_iff_picks hj Sample.candidate
  obtain ⟨out', hrun', -, hother, -⟩ :=
    isSome_run_iff_picks hj (Sample.candidate.insert metaNamespace "shopXa")
  obtain ⟨kept, rfl⟩ := Option.isSome_iff_exists.mp (hiff.mpr Sample.picks)
  have hdropped := hother _ _ rfl rfl (by decide)
  exact ⟨j, hj, ⟨kept, hrun⟩, hdropped ▸ hrun'⟩

end ScrapeJobs
