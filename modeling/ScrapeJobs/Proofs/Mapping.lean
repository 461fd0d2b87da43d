import ScrapeJobs.Mapping
import ScrapeJobs.Proofs.Outcome
import ScrapeJobs.Proofs.Relabel.Checked
import ScrapeJobs.Proofs.Relabel.Texts

/-!
# What label mappings copy

The rules of mappings run one after the other, so a mapping may read what an earlier one has
written. What stands in a label in the end can be traced back: `LabelMapping.origin` is the label of
the object that it comes from (`get?_pass_mapped`). This is the source of the last mapping with the
label as its target, unless the target of a mapping before it is this very source; if there is
no such mapping, then the order of the mappings does not matter. Nothing is ever dropped
(`LabelMapping.run_rules_copies`).
-/

namespace ScrapeJobs

open Label Labels Relabel

variable {ls out : Labels} {l : String}

namespace Labels

/-- The value of a label, if the label is there and its value is not the empty text. -/
def nonempty? (ls : Labels) (l : String) : Option String := (ls.get? l).filter (· ≠ "")

theorem nonempty?_eq_ite (ls : Labels) (l : String) :
    ls.nonempty? l = if ls.value l = "" then none else some (ls.value l) := by
  unfold nonempty? value
  cases ls.get? l with
  | none => rfl
  | some v => by_cases hv : v = "" <;> simp [hv]

theorem get?_set_value (ls : Labels) (source target : String) :
    (ls.set target (ls.value source)).get? target = ls.nonempty? source := by
  rw [get?_set_self, nonempty?_eq_ite]

theorem nonempty?_set_value (ls : Labels) (source target l : String) :
    (ls.set target (ls.value source)).nonempty? l =
      ls.nonempty? (if l = target then source else l) := by
  simp only [nonempty?_eq_ite, value_set]
  split <;> rfl

end Labels

namespace LabelMapping

variable {f : Family} {m n : LabelMapping} {ms before after : List LabelMapping} {rs : List Rule}

/-! ## Rules -/

/-- The label of the object that a mapping reads. -/
def read (f : Family) (m : LabelMapping) : String := f.valueOf m.source

/-- A mapping is fine if it has a source and its target is a label that users may write. -/
theorem fault?_eq_none_iff : m.fault? = none ↔
    m.source ≠ "" ∧ isName m.target = true ∧ Protected.isProtected m.target = false := by
  unfold fault?
  by_cases hsource : m.source = ""
  · simp [hsource]
  · cases isName m.target <;> cases Protected.isProtected m.target <;> simp [hsource]

theorem isName_target (h : m.fault? = none) : isName m.target = true :=
  (fault?_eq_none_iff.mp h).2.1

theorem rule_eq_ok_iff {r : Rule} :
    rule f m = .ok r ↔ m.fault? = none ∧ r = .copy [m.read f] m.target := by
  unfold rule
  cases m.fault? with
  | none => exact ⟨fun h => ⟨rfl, (Except.ok.inj h).symm⟩, fun h => congrArg Except.ok h.2.symm⟩
  | some fault => exact ⟨nofun, nofun⟩

/-- Mappings are accepted if each of them is, and then each one has its own rule. -/
theorem rules_eq_ok_iff : rules f ms = .ok rs ↔
    (∀ m ∈ ms, m.fault? = none) ∧ rs = ms.map fun m => .copy [m.read f] m.target := by
  induction ms generalizing rs with
  | nil => exact ⟨fun h => ⟨nofun, (Except.ok.inj h).symm⟩, fun h => congrArg Except.ok h.2.symm⟩
  | cons m rest ih =>
    rw [List.forall_mem_cons, List.map_cons]
    constructor
    · intro h
      rw [rules, List.mapM_cons] at h
      obtain ⟨r, hr, h⟩ := Outcome.bind_eq_ok h
      obtain ⟨rs', hrest, h⟩ := Outcome.bind_eq_ok h
      obtain rfl : rs = r :: rs' := (Except.ok.inj h).symm
      obtain ⟨hm, rfl⟩ := rule_eq_ok_iff.mp hr
      obtain ⟨hall, rfl⟩ := ih.mp hrest
      exact ⟨⟨hm, hall⟩, rfl⟩
    · rintro ⟨⟨hm, hall⟩, rfl⟩
      rw [rules, List.mapM_cons, rule_eq_ok_iff.mpr ⟨hm, rfl⟩]
      change Except.map _ (rules f rest) = _
      rw [ih.mpr ⟨hall, rfl⟩]
      rfl

theorem isReadable_of_mem_rules (h : rules f ms = .ok rs) : ∀ r ∈ rs, r.IsReadable := by
  intro r hr
  obtain ⟨-, rfl⟩ := rules_eq_ok_iff.mp h
  obtain ⟨m, -, rfl⟩ := List.mem_map.mp hr
  exact isReadable_of_regex_eq rfl

/-! ## Where labels come from -/

/-- The label of the object that the value of a label comes from when all mappings are done. -/
def origin (f : Family) (ms : List LabelMapping) (l : String) : String :=
  ms.foldr (fun m o => if o = m.target then m.read f else o) l

theorem origin_cons (f : Family) (m : LabelMapping) (ms : List LabelMapping) (l : String) :
    origin f (m :: ms) l = if origin f ms l = m.target then m.read f else origin f ms l := rfl

theorem origin_append (f : Family) (before after : List LabelMapping) (l : String) :
    origin f (before ++ after) l = origin f before (origin f after l) := List.foldr_append

/-- A label that no mapping writes comes from itself. -/
theorem origin_of_forall_ne (h : ∀ m ∈ ms, m.target ≠ l) : origin f ms l = l := by
  induction ms with
  | nil => rfl
  | cons m rest ih =>
    obtain ⟨hm, hrest⟩ := List.forall_mem_cons.mp h
    rw [origin_cons, ih hrest, if_neg (Ne.symm hm)]

/-- A label comes from what the last mapping that writes it reads, if no mapping before that one
writes what is read. -/
theorem origin_of_last (hafter : ∀ n ∈ after, n.target ≠ m.target)
    (hbefore : ∀ n ∈ before, n.target ≠ m.read f) :
    origin f (before ++ m :: after) m.target = m.read f := by
  rw [origin_append, origin_cons, origin_of_forall_ne hafter, if_pos rfl,
    origin_of_forall_ne hbefore]

/-! ## Passes -/

/-- What the rules of mappings make of a label set: a label that is a target has the value of its
origin, if there is one, and any other label stays as it is. -/
theorem get?_pass_mapped (h : ∀ m ∈ ms, m.fault? = none) (ls : Labels) :
    ∃ out, pass ls (ms.map fun m => .copy [m.read f] m.target) = some out ∧
      ∀ l, out.get? l = if ∃ m ∈ ms, m.target = l then ls.nonempty? (origin f ms l)
        else ls.get? l := by
  -- the first mapping replaces the origin that the others leave, if it is its target
  induction ms generalizing ls with
  | nil => exact ⟨ls, rfl, fun l => by simp⟩
  | cons m rest ih =>
    obtain ⟨hm, hrest⟩ := List.forall_mem_cons.mp h
    obtain ⟨out, hout, hget⟩ := ih hrest (ls.set m.target (ls.value (m.read f)))
    refine ⟨out, ?_, fun l => ?_⟩
    · rw [List.map_cons, pass_cons, step_copy (isName_target hm), Option.bind_some, hout]
    · rw [hget l, nonempty?_set_value, ← origin_cons]
      by_cases hwritten : ∃ n ∈ rest, n.target = l
      · have hmem : ∃ n ∈ m :: rest, n.target = l :=
          hwritten.imp fun n hn => ⟨List.mem_cons_of_mem _ hn.1, hn.2⟩
        rw [if_pos hwritten, if_pos hmem]
      · have hself : origin f rest l = l :=
          origin_of_forall_ne fun n hn htarget => hwritten ⟨n, hn, htarget⟩
        rw [if_neg hwritten, origin_cons, hself]
        by_cases hl : m.target = l
        · have hmem : ∃ n ∈ m :: rest, n.target = l := ⟨m, List.mem_cons_self, hl⟩
          rw [if_pos hmem, if_pos hl.symm, ← hl, get?_set_value]
        · have hmem : ¬ ∃ n ∈ m :: rest, n.target = l := by
            rintro ⟨n, hn, htarget⟩
            rcases List.mem_cons.mp hn with rfl | hn
            · exact hl htarget
            · exact hwritten ⟨n, hn, htarget⟩
          rw [if_neg hmem, get?_set_ne (Ne.symm hl)]

/-! ## Mappings that do not meet -/

/-- With targets of their own, of which none is what another mapping reads, labels come from what
their mappings read. -/
theorem origin_of_mem (hm : m ∈ ms) (htargets : ms.Pairwise fun n m => n.target ≠ m.target)
    (hreads : ∀ m ∈ ms, ∀ n ∈ ms, n.target = m.read f → n = m) :
    origin f ms m.target = m.read f := by
  obtain ⟨before, after, rfl⟩ := List.append_of_mem hm
  obtain ⟨-, hlater, hearlier⟩ := List.pairwise_append.mp htargets
  refine origin_of_last (fun n hn => Ne.symm ((List.pairwise_cons.mp hlater).1 n hn)) ?_
  intro n hn hread
  obtain rfl : n = m := hreads m hm n (List.mem_append_left _ hn) hread
  exact hearlier n hn n List.mem_cons_self rfl

/-- Such mappings have the same origins in any order. -/
theorem origin_of_perm {ms' : List LabelMapping} (hperm : ms'.Perm ms)
    (htargets : ms.Pairwise fun n m => n.target ≠ m.target)
    (hreads : ∀ m ∈ ms, ∀ n ∈ ms, n.target = m.read f → n = m) (l : String) :
    origin f ms' l = origin f ms l := by
  by_cases hl : ∃ m ∈ ms, m.target = l
  · obtain ⟨m, hm, rfl⟩ := hl
    have htargets' : ms'.Pairwise fun n m => n.target ≠ m.target :=
      (hperm.pairwise_iff fun h => Ne.symm h).mpr htargets
    have hreads' : ∀ m ∈ ms', ∀ n ∈ ms', n.target = m.read f → n = m := fun m hm n hn =>
      hreads m (hperm.mem_iff.mp hm) n (hperm.mem_iff.mp hn)
    rw [origin_of_mem hm htargets hreads,
      origin_of_mem (hperm.mem_iff.mpr hm) htargets' hreads']
  · rw [origin_of_forall_ne fun m hm htarget => hl ⟨m, hm, htarget⟩,
      origin_of_forall_ne fun m hm htarget => hl ⟨m, hperm.mem_iff.mp hm, htarget⟩]

/-! ## Runs -/

/-- The rules of mappings keep every label set. In the end, a target has the value that its origin
had in the beginning and is missing if there was none, and any other label is as it was. A target
has the value of what its last mapping reads, unless an earlier mapping writes that. Mappings
with targets of their own, of which none is what another mapping reads, may come in any order. -/
theorem run_rules_copies (h : rules f ms = .ok rs) (ls : Labels) :
    ∃ out, run ls rs = .ok (some out) ∧
      (∀ l, out.get? l = if ∃ m ∈ ms, m.target = l then ls.nonempty? (origin f ms l)
        else ls.get? l) ∧
      (∀ before m after, ms = before ++ m :: after → (∀ n ∈ after, n.target ≠ m.target) →
        (∀ n ∈ before, n.target ≠ m.read f) →
        out.get? m.target = ls.nonempty? (m.read f)) ∧
      (ms.Pairwise (fun n m => n.target ≠ m.target) →
        (∀ m ∈ ms, ∀ n ∈ ms, n.target = m.read f → n = m) →
        ∀ ms', ms'.Perm ms → ∃ rs', rules f ms' = .ok rs' ∧ run ls rs' = .ok (some out)) := by
  obtain ⟨hms, rfl⟩ := rules_eq_ok_iff.mp h
  obtain ⟨out, hout, hget⟩ := get?_pass_mapped (f := f) hms ls
  refine ⟨out, ?_, hget, ?_, ?_⟩
  · rw [run_eq_pass (isReadable_of_mem_rules h), hout]
  · intro before m after hms' hafter hbefore
    have hm : ∃ n ∈ ms, n.target = m.target :=
      ⟨m, hms' ▸ List.mem_append_right _ List.mem_cons_self, rfl⟩
    rw [hget, if_pos hm, hms', origin_of_last hafter hbefore]
  · intro htargets hreads ms' hperm
    have hms' : ∀ m ∈ ms', m.fault? = none := fun m hm => hms m (hperm.mem_iff.mp hm)
    have hrules := rules_eq_ok_iff (f := f).mpr ⟨hms', rfl⟩
    obtain ⟨out', hout', hget'⟩ := get?_pass_mapped (f := f) hms' ls
    obtain rfl : out' = out := by
      refine Dict.ext_get? fun l => ?_
      rw [hget', hget, origin_of_perm hperm htargets hreads]
      simp only [hperm.mem_iff]
    exact ⟨_, hrules, by rw [run_eq_pass (isReadable_of_mem_rules hrules), hout']⟩

end LabelMapping

namespace Sample

/-- The first mapping writes what the second one reads, and so `t` gets the value of the label `a`
of the pod and not of its label `b`. Mappings that do not meet may be turned around. -/
theorem run_mappings_meeting :
    let ls : Labels := .ofList
      [("__meta_kubernetes_pod_label_a", "1"), ("__meta_kubernetes_pod_label_b", "2")]
    (∃ rs out, LabelMapping.rules .pod [⟨"a", some "__meta_kubernetes_pod_label_b"⟩,
        ⟨"b", some "t"⟩] = .ok rs ∧ run ls rs = .ok (some out) ∧
      out.get? "t" = some "1" ∧ ls.get? "__meta_kubernetes_pod_label_b" = some "2") ∧
    ∃ rs rs' out, LabelMapping.rules .pod [⟨"a", none⟩, ⟨"b", some "t"⟩] = .ok rs ∧
      LabelMapping.rules .pod [⟨"b", some "t"⟩, ⟨"a", none⟩] = .ok rs' ∧
      run ls rs = .ok (some out) ∧ run ls rs' = .ok (some out) ∧
      out.get? "t" = some "2" ∧ out.get? "a" = some "1" := by
  intro ls
  refine ⟨?_, ?_⟩
  · have hrules : LabelMapping.rules .pod
        [⟨"a", some "__meta_kubernetes_pod_label_b"⟩, ⟨"b", some "t"⟩] = .ok _ := rfl
    obtain ⟨out, hrun, hget, -⟩ := LabelMapping.run_rules_copies hrules ls
    exact ⟨_, out, hrules, hrun, (hget "t").trans (by decide +kernel), by decide +kernel⟩
  · have hrules : LabelMapping.rules .pod [⟨"a", none⟩, ⟨"b", some "t"⟩] = .ok _ := rfl
    obtain ⟨out, hrun, -, hlast, horder⟩ := LabelMapping.run_rules_copies hrules ls
    obtain ⟨rs', hrules', hrun'⟩ := horder (by decide) (by decide +kernel)
      [⟨"b", some "t"⟩, ⟨"a", none⟩] (List.Perm.swap _ _ _)
    refine ⟨_, rs', out, hrules, hrules', hrun, hrun', ?_, ?_⟩
    · exact (hlast [⟨"a", none⟩] ⟨"b", some "t"⟩ [] rfl nofun (by decide +kernel)).trans
        (by decide +kernel)
    · exact (hlast [] ⟨"a", none⟩ [⟨"b", some "t"⟩] rfl (by decide) nofun).trans
        (by decide +kernel)

end Sample

end ScrapeJobs
