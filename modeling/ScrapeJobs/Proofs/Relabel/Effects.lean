import Mathlib.Data.List.Induction
import Mathlib.Data.Option.Basic
import Mathlib.Tactic.Choose
import ScrapeJobs.Proofs.Labels
import ScrapeJobs.Proofs.Regex.Captures
import ScrapeJobs.Relabel.Run

/-!
# What rules read and write

`Rule.step` is one rule at work and `pass` a list of rules; a run of rules whose regexes can
be read is the pass of them (`run_eq_pass`). `Rule.Touches` names the labels that a rule may
write or remove, and everything said of a list of rules rests on three facts about one rule:

* `get?_step`: it leaves the other labels alone.
* `isSome_step_congr`: whether a filter keeps a label set depends on the values it reads only.
* `rel_step`: label sets that agree on what it reads agree afterwards.

From these follow when a list of rules keeps a label set (`isSome_pass_iff`), what stands in
a label that a constant was written to (`get?_pass_of_unique`), and that two label sets stay alike
(`rel_pass`).
-/

namespace ScrapeJobs.Relabel

open Labels

variable {r : Rule} {rules : List Rule} {ls a b out : Labels} {P : String → Prop} {l : String}

/-! ## Steps and passes -/

/-- The regex of the rule can be read. -/
def Rule.IsReadable (r : Rule) : Prop := ∃ regex, Regex.anchored? r.regex = some regex

/-- What a rule makes of a label set. A rule whose regex cannot be read makes nothing of it. -/
def Rule.step (r : Rule) (ls : Labels) : Option Labels :=
  (Regex.anchored? r.regex).bind (r.apply · ls)

/-- What rules make of a label set, one after the other. -/
def pass (ls : Labels) (rules : List Rule) : Option Labels :=
  rules.foldlM (fun ls r => r.step ls) ls

theorem step_eq_apply {regex : Regex} (h : Regex.anchored? r.regex = some regex) (ls : Labels) :
    r.step ls = r.apply regex ls := by
  rw [Rule.step, h, Option.bind_some]

theorem pass_nil (ls : Labels) : pass ls [] = some ls := rfl

theorem pass_cons (ls : Labels) (r : Rule) (rest : List Rule) :
    pass ls (r :: rest) = (r.step ls).bind (pass · rest) :=
  List.foldlM_cons

theorem pass_append (ls : Labels) (rules rest : List Rule) :
    pass ls (rules ++ rest) = (pass ls rules).bind (pass · rest) :=
  List.foldlM_append

/-- Rules that can be read run without an error. -/
theorem run_eq_pass (h : ∀ r ∈ rules, r.IsReadable) (ls : Labels) :
    run ls rules = .ok (pass ls rules) := by
  induction rules generalizing ls with
  | nil => rfl
  | cons r rest ih =>
    obtain ⟨regex, hregex⟩ := h r List.mem_cons_self
    simp only [run, hregex, pass_cons, step_eq_apply hregex]
    cases r.apply regex ls with
    | none => rfl
    | some ls' => exact ih (fun r hr => h r (List.mem_cons_of_mem _ hr)) ls'

theorem isReadable_of_check (h : r.check = .ok ()) : r.IsReadable := by
  unfold Rule.check at h
  split at h
  · cases h
  · rename_i hregex
    exact Option.ne_none_iff_exists'.mp (by simpa using hregex)

/-! ## Filters -/

/-- Whether a rule decides only if a label set is kept. -/
def Rule.isFilter (r : Rule) : Bool := r.action = .keep || r.action = .drop

theorem isFilter_iff : r.isFilter = true ↔ r.action = .keep ∨ r.action = .drop := by
  simp [Rule.isFilter]

theorem eq_of_step_of_isFilter (hf : r.isFilter = true) (h : r.step ls = some out) :
    out = ls := by
  obtain ⟨regex, -, h⟩ := Option.bind_eq_some_iff.mp h
  rcases isFilter_iff.mp hf with ha | ha
  all_goals
    rw [Rule.apply, ha] at h
    simp only at h
    split at h
    · cases h
      try rfl
    · cases h
      try rfl

/-- Only filters drop label sets. -/
theorem isSome_step (hr : r.IsReadable) (hf : r.isFilter = false) (ls : Labels) :
    (r.step ls).isSome = true := by
  obtain ⟨regex, hregex⟩ := hr
  rw [step_eq_apply hregex]
  unfold Rule.apply
  split
  case h_1 ha => simp [Rule.isFilter, ha] at hf
  case h_2 ha => simp [Rule.isFilter, ha] at hf
  case h_3 =>
    split
    · rfl
    · simp only
      split <;> rfl
  all_goals rfl

theorem source_congr (h : ∀ l ∈ r.sourceLabels, a.value l = b.value l) :
    r.source a = r.source b := by
  rw [Rule.source, Rule.source, List.map_congr_left h]

theorem source_of_single (h : r.sourceLabels = [l]) (ls : Labels) : r.source ls = ls.value l := by
  rw [Rule.source, h]
  exact String.intercalate_singleton

/-- Filters keep a label set if each of them does. -/
theorem exists_run_iff_of_isFilter (hf : ∀ r ∈ rules, r.isFilter = true) (ls : Labels) :
    (∃ out, run ls rules = .ok (some out)) ↔ ∀ r ∈ rules, (r.step ls).isSome = true := by
  induction rules with
  | nil => simp [run]
  | cons r rest ih =>
    rw [List.forall_mem_cons, ← ih fun t ht => hf t (List.mem_cons_of_mem _ ht)]
    cases hregex : Regex.anchored? r.regex with
    | none => simp [run, Rule.step, hregex]
    | some regex =>
      have hstep := step_eq_apply hregex ls
      cases happly : r.apply regex ls with
      | none => simp [run, hregex, hstep, happly]
      | some out =>
        obtain rfl : out = ls := eq_of_step_of_isFilter (hf r List.mem_cons_self) (hstep ▸ happly)
        simp [run, hregex, hstep, happly]

/-- Whether a filter keeps a label set depends on the labels it reads only. -/
theorem isSome_step_congr (hf : r.isFilter = true)
    (h : ∀ l ∈ r.sourceLabels, a.value l = b.value l) :
    (r.step a).isSome = (r.step b).isSome := by
  unfold Rule.step
  cases Regex.anchored? r.regex with
  | none => rfl
  | some regex =>
    rw [Option.bind_some, Option.bind_some]
    rcases isFilter_iff.mp hf with ha | ha
    all_goals
      rw [Rule.apply, Rule.apply, ha, source_congr h]
      simp only
      split <;> rfl

/-! ## Frames -/

/-- The rule may write the label, or remove it. -/
def Rule.Touches (r : Rule) (l : String) : Prop :=
  match r.action with
  | .keep | .drop => False
  | .replace => '$' ∈ r.targetLabel.toList ∨ r.targetLabel = l
  | .hashMod => r.targetLabel = l
  | .labelMap => True
  | .labelDrop => ∃ regex, Regex.anchored? r.regex = some regex ∧ regex.isMatch l = true
  | .labelKeep => ∃ regex, Regex.anchored? r.regex = some regex ∧ regex.isMatch l = false

theorem expand_of_not_mem (c : Regex.Captures) {s : String} (h : '$' ∉ s.toList) :
    c.expand s = s := by
  rw [Regex.Captures.expand, Regex.expandPieces_of_not_mem _ h, String.ofList_toList]

/-- A rule leaves the labels alone that it does not touch. -/
theorem get?_step (hl : ¬ r.Touches l) (h : r.step ls = some out) :
    out.get? l = ls.get? l := by
  obtain ⟨regex, hregex, h⟩ := Option.bind_eq_some_iff.mp h
  unfold Rule.Touches at hl
  unfold Rule.apply at h
  cases ha : r.action with
  | keep | drop =>
    have hf : r.isFilter = true := by simp [Rule.isFilter, ha]
    have hstep : r.step ls = some out := by
      rw [step_eq_apply hregex, Rule.apply]
      exact h
    rw [eq_of_step_of_isFilter hf hstep]
  | replace =>
    simp only [ha] at h hl
    obtain ⟨hdollar, htarget⟩ := not_or.mp hl
    split at h
    · cases h
      rfl
    · rw [expand_of_not_mem _ hdollar] at h
      split at h
      · cases h
        exact get?_set_ne (Ne.symm htarget) _ _
      · cases h
        rfl
  | hashMod =>
    simp only [ha, Option.some.injEq] at h hl
    rw [← h, get?_set_ne (Ne.symm hl)]
  | labelMap => simp only [ha, not_true_eq_false] at hl
  | labelDrop =>
    simp only [ha, Option.some.injEq] at h hl
    have hm : regex.isMatch l = false := by
      rw [← Bool.not_eq_true]
      exact fun hm => hl ⟨regex, hregex, hm⟩
    rw [← h, Dict.get?_filterKeys, hm]
    rfl
  | labelKeep =>
    simp only [ha, Option.some.injEq] at h hl
    have hm : regex.isMatch l = true := by
      rw [← Bool.not_eq_false]
      exact fun hm => hl ⟨regex, hregex, hm⟩
    rw [← h, Dict.get?_filterKeys, hm]
    rfl

theorem get?_pass (hl : ∀ r ∈ rules, ¬ r.Touches l) (h : pass ls rules = some out) :
    out.get? l = ls.get? l := by
  induction rules generalizing ls with
  | nil =>
    cases h
    rfl
  | cons r rest ih =>
    rw [pass_cons] at h
    obtain ⟨ls', hstep, hrest⟩ := Option.bind_eq_some_iff.mp h
    rw [ih (fun r hr => hl r (List.mem_cons_of_mem _ hr)) hrest,
      get?_step (hl r List.mem_cons_self) hstep]

theorem not_touches_of_isFilter (hf : r.isFilter = true) (l : String) : ¬ r.Touches l := by
  rcases isFilter_iff.mp hf with ha | ha <;> simp [Rule.Touches, ha]

theorem not_mem_of_isName {s : String} (h : Label.isName s = true) : '$' ∉ s.toList := by
  unfold Label.isName at h
  split at h
  · cases h
  · rename_i c rest hs
    obtain ⟨hc, hrest⟩ := Bool.and_eq_true_iff.mp h
    rw [hs]
    intro hmem
    rcases List.mem_cons.mp hmem with rfl | hmem
    · exact absurd hc (by decide)
    · exact absurd (List.all_eq_true.mp hrest _ hmem) (by decide)

/-- The rule is a replace rule for a label of a given name. -/
structure Rule.Writes (r : Rule) (name : String) : Prop where
  action : r.action = .replace
  target : r.targetLabel = name
  isName : Label.isName name = true

theorem Rule.Writes.isFilter_eq {name : String} (h : r.Writes name) : r.isFilter = false := by
  simp [Rule.isFilter, h.action]

theorem Rule.Writes.eq_of_touches {name : String} (h : r.Writes name) (hl : r.Touches l) :
    l = name := by
  simp only [Rule.Touches, h.action, h.target] at hl
  exact (hl.resolve_left (not_mem_of_isName h.isName)).symm

/-! ## When rules keep a label set -/

/-- Rules whose filters read what no rule touches keep a label set if each filter would keep
it on its own. -/
theorem isSome_pass_iff (hread : ∀ r ∈ rules, r.IsReadable)
    (hsources : ∀ r ∈ rules, r.isFilter = true → ∀ l ∈ r.sourceLabels, P l)
    (htouch : ∀ r ∈ rules, ∀ l, P l → ¬ r.Touches l) (ls : Labels) :
    (pass ls rules).isSome = true ↔
      ∀ r ∈ rules, r.isFilter = true → (r.step ls).isSome = true := by
  induction rules generalizing ls with
  | nil => simp [pass_nil]
  | cons r rest ih =>
    have hstart : (r.step ls).isSome = true ↔ (r.isFilter = true → (r.step ls).isSome = true) := by
      constructor
      · exact fun h _ => h
      · intro h
        cases hf : r.isFilter with
        | true => exact h hf
        | false => exact isSome_step (hread r List.mem_cons_self) hf ls
    have hrest : ∀ {ls'}, r.step ls = some ls' → ((pass ls' rest).isSome = true ↔
        ∀ r ∈ rest, r.isFilter = true → (r.step ls).isSome = true) := by
      intro ls' hstep
      have hagree : AgreeOn P ls' ls := fun l hl =>
        get?_step (htouch r List.mem_cons_self l hl) hstep
      rw [ih (fun r hr => hread r (List.mem_cons_of_mem _ hr))
        (fun r hr => hsources r (List.mem_cons_of_mem _ hr))
        (fun r hr => htouch r (List.mem_cons_of_mem _ hr))]
      refine forall_congr' fun s => forall_congr' fun hs => forall_congr' fun hf => ?_
      rw [isSome_step_congr hf fun l hl =>
        hagree.value (hsources s (List.mem_cons_of_mem _ hs) hf l hl)]
    rw [pass_cons, List.forall_mem_cons, ← hstart]
    cases hstep : r.step ls with
    | none => simp
    | some ls' => simp [hrest hstep]

/-- Rules without a filter among them keep every label set. -/
theorem isSome_pass (hread : ∀ r ∈ rules, r.IsReadable)
    (hf : ∀ r ∈ rules, r.isFilter = false) (ls : Labels) : (pass ls rules).isSome = true := by
  refine (isSome_pass_iff (P := fun _ => False) hread ?_ ?_ ls).mpr ?_
  · intro r hr hr'
    rw [hf r hr] at hr'
    cases hr'
  · exact fun _ _ _ h => h.elim
  · intro r hr hr'
    rw [hf r hr] at hr'
    cases hr'

/-! ## Constants and copies -/

/-- The usual regex of a rule matches every text. -/
theorem exists_captures_defaultRegex {regex : Regex}
    (h : Regex.anchored? defaultRegex = some regex) (text : String) :
    ∃ c, regex.captures? text = some c ∧ c.text = text.toList := by
  rw [Regex.anchored?_any] at h
  cases h
  obtain ⟨c, hc, -⟩ := Regex.exists_captures_behind (List.nil_append text.toList).symm
  obtain ⟨m, -, rfl⟩ := Option.map_eq_some_iff.mp hc
  exact ⟨_, hc, rfl⟩

/-- A replace rule with the usual regex writes its target, whatever it reads. -/
theorem step_of_defaultRegex (ha : r.action = .replace) (hregex : r.regex = defaultRegex)
    (ht : Label.isName r.targetLabel = true) :
    ∃ c : String → Regex.Captures, ∀ ls, (c (r.source ls)).text = (r.source ls).toList ∧
      r.step ls = some (ls.set r.targetLabel ((c (r.source ls)).expand r.replacement)) := by
  choose c hc htext using exists_captures_defaultRegex Regex.anchored?_defaultRegex
  refine ⟨c, fun ls => ⟨htext _, ?_⟩⟩
  rw [step_eq_apply (hregex ▸ Regex.anchored?_defaultRegex), Rule.apply, ha]
  simp only [hc, expand_of_not_mem _ (not_mem_of_isName ht), ht, if_true]

theorem expand_of_text_eq_nil {c : Regex.Captures} (h : c.text = []) (template : String) :
    c.expand template = String.ofList (Regex.bare template.toList) := by
  have hgroup : ∀ n, c.group n = [] := by
    intro n
    unfold Regex.Captures.group
    split <;> simp [h]
  have hvalue : c.value = fun _ => [] := by
    funext name
    unfold Regex.Captures.value
    split
    · exact hgroup _
    · split
      · exact hgroup _
      · rfl
  rw [Regex.Captures.expand, hvalue, Regex.bare]

/-- A constant is written with its references left empty. -/
theorem step_set {target : String} (ht : Label.isName target = true) (value : String)
    (ls : Labels) : (Rule.set target value).step ls =
      some (ls.set target (String.ofList (Regex.bare value.toList))) := by
  obtain ⟨c, hc⟩ := step_of_defaultRegex (r := .set target value) rfl rfl ht
  obtain ⟨htext, hstep⟩ := hc ls
  rw [hstep, expand_of_text_eq_nil (htext.trans rfl)]
  rfl

/-- What is read of a label after a constant was written to it through a template. -/
def stamp (value : String) : Option String :=
  if Regex.bare value.toList = [] then none else some (String.ofList (Regex.bare value.toList))

theorem get?_step_set {target value : String} (ht : Label.isName target = true)
    (h : (Rule.set target value).step ls = some out) : out.get? target = stamp value := by
  rw [step_set ht] at h
  cases h
  rw [get?_set_self, stamp]
  simp only [String.ofList_eq_empty_iff]

/-- A label that only one constant is written to has this constant in the end. -/
theorem get?_pass_of_unique {target value : String} (ht : Label.isName target = true)
    (hmem : .set target value ∈ rules)
    (hunique : ∀ r ∈ rules, r.Touches target → r = .set target value)
    (h : pass ls rules = some out) : out.get? target = stamp value := by
  -- from the right: the last rule writes the constant or leaves the label alone
  induction rules using List.reverseRecOn generalizing out with
  | nil => cases hmem
  | append_singleton front r ih =>
    rw [pass_append] at h
    obtain ⟨mid, hmid, h⟩ := Option.bind_eq_some_iff.mp h
    rw [pass_cons] at h
    obtain ⟨out', hstep, hnil⟩ := Option.bind_eq_some_iff.mp h
    cases hnil
    by_cases hr : r = .set target value
    · rw [hr] at hstep
      exact get?_step_set ht hstep
    · have hmem' : .set target value ∈ front := by
        rcases List.mem_append.mp hmem with hmem | hmem
        · exact hmem
        · exact absurd (List.mem_singleton.mp hmem).symm hr
      have hlast : ¬ r.Touches target :=
        fun htouch => hr (hunique r (List.mem_append_right _ List.mem_cons_self) htouch)
      rw [get?_step hlast hstep]
      exact ih hmem' (fun s hs => hunique s (List.mem_append_left _ hs)) hmid

/-! ## Two label sets -/

/-- The rule treats label sets alike that agree on the labels with `P`: it reads nothing else,
or it is no filter and touches none of them. -/
def Rule.Respects (P : String → Prop) (r : Rule) : Prop :=
  (r.action ≠ .labelMap ∧ ∀ l ∈ r.sourceLabels, P l) ∨
    (r.isFilter = false ∧ ∀ l, P l → ¬ r.Touches l)

theorem Rule.Respects.of_isFilter (hf : r.isFilter = true) (hs : ∀ l ∈ r.sourceLabels, P l) :
    r.Respects P := by
  refine .inl ⟨fun ha => ?_, hs⟩
  rcases isFilter_iff.mp hf with h | h
  · rw [h] at ha
    cases ha
  · rw [h] at ha
    cases ha

theorem Rule.Respects.of_writes {name : String} (hw : r.Writes name)
    (hs : ∀ l ∈ r.sourceLabels, P l) : r.Respects P := by
  refine .inl ⟨fun ha => ?_, hs⟩
  rw [hw.action] at ha
  cases ha

/-- What a rule writes to a label without `P` does not matter, whatever it reads. -/
theorem Rule.Respects.of_writes_not {name : String} (hw : r.Writes name) (hname : ¬ P name) :
    r.Respects P := by
  refine .inr ⟨hw.isFilter_eq, fun l hl ht => ?_⟩
  rw [hw.eq_of_touches ht] at hl
  exact hname hl

theorem rel_apply_of_sources (ha : r.action ≠ .labelMap) (hs : ∀ l ∈ r.sourceLabels, P l)
    (h : AgreeOn P a b) (regex : Regex) :
    Option.Rel (AgreeOn P) (r.apply regex a) (r.apply regex b) := by
  have hsource : r.source a = r.source b := source_congr fun l hl => h.value (hs l hl)
  have hset : ∀ name value, AgreeOn P (a.set name value) (b.set name value) :=
    fun name value => (h.set name value).mono fun _ => .inl
  have hfilter : ∀ p, AgreeOn P (a.filterKeys p) (b.filterKeys p) :=
    fun p => (h.filterKeys p).mono fun _ => .inl
  unfold Rule.apply
  rw [hsource]
  cases hact : r.action with
  | keep | drop =>
    simp only
    split <;> first | exact .some h | exact .none
  | replace =>
    simp only
    split
    · exact .some h
    · split
      · exact .some (hset _ _)
      · exact .some h
  | hashMod => exact .some (hset _ _)
  | labelMap => exact (ha hact).elim
  | labelDrop | labelKeep => exact .some (hfilter _)

theorem rel_step (hr : r.Respects P) (h : AgreeOn P a b) :
    Option.Rel (AgreeOn P) (r.step a) (r.step b) := by
  unfold Rule.step
  cases hregex : Regex.anchored? r.regex with
  | none => exact .none
  | some regex =>
    rw [Option.bind_some, Option.bind_some]
    rcases hr with ⟨ha, hs⟩ | ⟨hf, ht⟩
    · exact rel_apply_of_sources ha hs h regex
    · obtain ⟨a', ha'⟩ := Option.isSome_iff_exists.mp (isSome_step ⟨regex, hregex⟩ hf a)
      obtain ⟨b', hb'⟩ := Option.isSome_iff_exists.mp (isSome_step ⟨regex, hregex⟩ hf b)
      rw [← step_eq_apply hregex, ← step_eq_apply hregex, ha', hb']
      refine .some fun l hl => ?_
      rw [get?_step (ht l hl) ha', get?_step (ht l hl) hb', h l hl]

theorem rel_bind {R S : Labels → Labels → Prop} {x y : Option Labels}
    {f g : Labels → Option Labels} (h : Option.Rel R x y)
    (hfg : ∀ a b, R a b → Option.Rel S (f a) (g b)) : Option.Rel S (x.bind f) (y.bind g) := by
  cases h with
  | none => exact .none
  | some h => exact hfg _ _ h

theorem rel_mono {Q : String → Prop} {x y : Option Labels} (h : Option.Rel (AgreeOn P) x y)
    (hQP : ∀ l, Q l → P l) : Option.Rel (AgreeOn Q) x y := by
  cases h with
  | none => exact .none
  | some h => exact .some (h.mono hQP)

theorem rel_pass (hr : ∀ r ∈ rules, r.Respects P) (h : AgreeOn P a b) :
    Option.Rel (AgreeOn P) (pass a rules) (pass b rules) := by
  induction rules generalizing a b with
  | nil => exact .some h
  | cons r rest ih =>
    rw [pass_cons, pass_cons]
    exact rel_bind (rel_step (hr r List.mem_cons_self) h) fun _ _ h' =>
      ih (fun r hr' => hr r (List.mem_cons_of_mem _ hr')) h'

/-- A rule that writes its target whatever it reads makes label sets agree on it. -/
theorem rel_step_write (ha : r.action = .replace) (hregex : r.regex = defaultRegex)
    (ht : Label.isName r.targetLabel = true) (hs : ∀ l ∈ r.sourceLabels, P l)
    (h : AgreeOn P a b) :
    Option.Rel (AgreeOn fun l => P l ∨ l = r.targetLabel) (r.step a) (r.step b) := by
  obtain ⟨c, hc⟩ := step_of_defaultRegex ha hregex ht
  rw [(hc a).2, (hc b).2, source_congr fun l hl => h.value (hs l hl)]
  exact .some (h.set _ _)

/-- Label sets agree on the labels that were removed from both. -/
theorem rel_step_labelDrop {regex : Regex} {pattern : String}
    (hregex : Regex.anchored? pattern = some regex) (h : AgreeOn P a b) :
    Option.Rel (AgreeOn fun l => P l ∨ regex.isMatch l = true)
      ((Rule.labelDrop pattern).step a) ((Rule.labelDrop pattern).step b) := by
  have hstep : ∀ ls, (Rule.labelDrop pattern).step ls =
      some (ls.filterKeys fun l => !regex.isMatch l) := by
    intro ls
    rw [Rule.step, show (Rule.labelDrop pattern).regex = pattern from rfl, hregex]
    rfl
  rw [hstep, hstep]
  refine .some ((h.filterKeys fun l => !regex.isMatch l).mono fun l hl => hl.imp_right fun hm => ?_)
  rw [hm]
  rfl

end ScrapeJobs.Relabel
