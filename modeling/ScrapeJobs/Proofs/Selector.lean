import ScrapeJobs.Proofs.Regex.Words
import ScrapeJobs.Proofs.Selection

/-!
# Selectors and their rules

What discovery provides of the labels of an object is `Family.metaLabels`. The rules of a
selector run on that, and the selector itself holds of the labels.

Rules do not tell a label that is missing from one that is empty: a selector without sets of
values and its rules agree but for that (`kept_iff_of_setFree`). The values of a set are one
pattern: a requirement on a set keeps what the pattern matches, which are the values if these
have no pattern characters (`run_setRule`).
-/

namespace ScrapeJobs

open Label Outcome Relabel

/-! ## Labels of discovered objects -/

/-- The object has no other key that is taken for this one. -/
def Label.Alone (ls : Labels) (key : String) : Prop :=
  ∀ k ∈ ls.keys, sanitize k = sanitize key → k = key

instance (ls : Labels) (key : String) : Decidable (Label.Alone ls key) :=
  inferInstanceAs (Decidable (∀ k ∈ ls.keys, _))

namespace Label.Family

variable {f : Family} {key : String}

/-- Adds what discovery provides of a label of an object: its value, and that it is there. -/
def addMeta (f : Family) (out : Labels) (e : String × String) : Labels :=
  (out.insert (f.valueOf e.1) e.2).insert (f.presenceOf e.1) "true"

/-- What discovery provides of the labels of an object. -/
def metaLabels (f : Family) (ls : Labels) : Labels := ls.entries.foldl f.addMeta ∅

theorem valueOf_inj {k l : String} : f.valueOf k = f.valueOf l ↔ sanitize k = sanitize l := by
  unfold valueOf
  generalize sanitize k = s
  generalize sanitize l = t
  exact String.append_right_inj _

theorem presenceOf_inj {k l : String} :
    f.presenceOf k = f.presenceOf l ↔ sanitize k = sanitize l := by
  unfold presenceOf
  generalize sanitize k = s
  generalize sanitize l = t
  exact String.append_right_inj _

/-- The two names differ where the first one goes on with the key. -/
theorem valueOf_ne_presenceOf (f : Family) (k l : String) : f.valueOf k ≠ f.presenceOf l := by
  unfold valueOf presenceOf
  generalize sanitize k = s
  generalize sanitize l = t
  intro h
  cases f with
  | pod =>
    have hplace := congrArg (fun u : String => u.toList[27]?) h
    simp at hplace
  | node =>
    have hplace := congrArg (fun u : String => u.toList[28]?) h
    simp at hplace

theorem get?_valueOf_addMeta (out : Labels) (e : String × String) :
    (f.addMeta out e).get? (f.valueOf key) =
      if sanitize key = sanitize e.1 then some e.2 else out.get? (f.valueOf key) := by
  rw [addMeta, Dict.get?_insert, if_neg (valueOf_ne_presenceOf f key e.1), Dict.get?_insert]
  simp only [valueOf_inj]

theorem get?_presenceOf_addMeta (out : Labels) (e : String × String) :
    (f.addMeta out e).get? (f.presenceOf key) =
      if sanitize key = sanitize e.1 then some "true" else out.get? (f.presenceOf key) := by
  rw [addMeta, Dict.get?_insert, Dict.get?_insert,
    if_neg (Ne.symm (valueOf_ne_presenceOf f e.1 key))]
  simp only [presenceOf_inj]

/-- A key that no other one is taken for has what the last entry for it gives. -/
theorem get?_foldl_addMeta {entries : List (String × String)}
    (hnodup : (entries.map (·.1)).Nodup)
    (halone : ∀ e ∈ entries, sanitize e.1 = sanitize key → e.1 = key) (out : Labels) :
    (entries.foldl f.addMeta out).get? (f.valueOf key) =
        (entries.lookup key).or (out.get? (f.valueOf key)) ∧
      (entries.foldl f.addMeta out).get? (f.presenceOf key) =
        ((entries.lookup key).map fun _ => "true").or (out.get? (f.presenceOf key)) := by
  induction entries generalizing out with
  | nil => exact ⟨rfl, rfl⟩
  | cons e rest ih =>
    obtain ⟨he, hrest⟩ := List.nodup_cons.mp hnodup
    obtain ⟨hvalue, hpresence⟩ :=
      ih hrest (fun d hd => halone d (List.mem_cons_of_mem _ hd)) (f.addMeta out e)
    rw [List.foldl_cons, hvalue, hpresence, get?_valueOf_addMeta, get?_presenceOf_addMeta,
      Dict.lookup_cons_eq]
    by_cases hkey : key = e.1
    · subst hkey
      simp [Dict.lookup_eq_none_of_notMem he]
    · have hother : sanitize key ≠ sanitize e.1 :=
        fun h => hkey (halone e List.mem_cons_self h.symm).symm
      simp [hkey, hother]

variable {ls : Labels}

theorem get?_metaLabels (h : Alone ls key) :
    (f.metaLabels ls).get? (f.valueOf key) = ls.get? key ∧
      (f.metaLabels ls).get? (f.presenceOf key) = (ls.get? key).map fun _ => "true" := by
  have halone : ∀ e ∈ ls.entries, sanitize e.1 = sanitize key → e.1 = key :=
    fun e he => h e.1 (List.mem_map.mpr ⟨e, he, rfl⟩)
  obtain ⟨hvalue, hpresence⟩ := get?_foldl_addMeta (f := f) ls.nodup_keys halone ∅
  rw [metaLabels, hvalue, hpresence, Dict.get?_empty, Dict.get?_empty, Option.or_none,
    Option.or_none]
  exact ⟨rfl, rfl⟩

theorem value_valueOf (h : Alone ls key) :
    (f.metaLabels ls).value (f.valueOf key) = ls.value key := by
  rw [Labels.value, (get?_metaLabels h).1]
  rfl

theorem value_presenceOf (h : Alone ls key) :
    (f.metaLabels ls).value (f.presenceOf key) = if (ls.get? key).isSome then "true" else "" := by
  rw [Labels.value, (get?_metaLabels h).2]
  cases ls.get? key <;> rfl

end Label.Family

namespace Selector

variable {f : Family} {ls : Labels} {q : Requirement} {rule : Rule}

/-! ## Requirements that a label is there -/

theorem literal_true : literal "true" = "true" := by decide

theorem exists_anchored?_true : ∃ regex, Regex.anchored? "true" = some regex ∧
    ∀ text, regex.isMatch text = true ↔ text = "true" := by
  have hread : Regex.anchored? (literal "true") =
      some ⟨Regex.Expr.whole ("true".toList.map .char), []⟩ := by
    rw [Regex.anchored?_literal, if_neg (by decide)]
  exact ⟨_, literal_true ▸ hread, Regex.isMatch_literal_iff hread⟩

/-- A requirement without values and its rule agree on the labels of an object. -/
theorem isSome_step_iff_of_setFree (hop : q.operator.takesValues = false)
    (hrule : q.rule f = .ok rule) (halone : Alone ls q.key) :
    rule.isFilter = true ∧ ((rule.step (f.metaLabels ls)).isSome = true ↔ q.holds ls = true) := by
  obtain ⟨regex, hregex, hmatch⟩ := exists_anchored?_true
  rcases q.rule_cases hrule with ⟨hq, -⟩ | ⟨hq, -⟩ | ⟨hq, rfl⟩ | ⟨hq, rfl⟩
  · rw [hq] at hop
    cases hop
  · rw [hq] at hop
    cases hop
  · refine ⟨rfl, ?_⟩
    rw [step_keep hregex, Label.Family.value_presenceOf halone, Requirement.holds, hq,
      Operator.holds]
    cases ls.get? q.key <;> simp [hmatch]
  · refine ⟨rfl, ?_⟩
    rw [step_drop hregex, Label.Family.value_presenceOf halone, Requirement.holds, hq,
      Operator.holds]
    cases ls.get? q.key <;> simp [hmatch]

/-! ## Selectors without sets -/

/-- A pattern that matches this text only can be read: it is not too large. -/
def IsPatternable (s : String) : Prop := Regex.literalSize s.toList ≤ Regex.sizeLimit

instance (s : String) : Decidable (IsPatternable s) := inferInstanceAs (Decidable (_ ≤ _))

/-- The rule for a label value asks for the value that is read, missing or not. -/
theorem isSome_step_valueRule {key value : String} (halone : Alone ls key) :
    ((valueRule f key value).step (f.metaLabels ls)).isSome = true ↔
      IsPatternable value ∧ ls.value key = value := by
  by_cases hsize : IsPatternable value
  · have hread : Regex.anchored? (literal value) =
        some ⟨Regex.Expr.whole (value.toList.map .char), []⟩ := by
      rw [Regex.anchored?_literal, if_neg (Nat.not_lt.mpr hsize)]
    rw [valueRule, step_keep hread, Label.Family.value_valueOf halone, and_iff_right hsize,
      ← Regex.isMatch_literal_iff hread]
    split <;> simp [*]
  · have hread : Regex.anchored? (literal value) = none := by
      rw [Regex.anchored?_literal, if_pos (Nat.not_le.mp hsize)]
    have hstep : (valueRule f key value).step (f.metaLabels ls) = none := by
      rw [Rule.step, valueRule, Rule.keep, hread, Option.bind_none]
    simp [hstep, hsize]

theorem exists_of_rules {s : Selector} {rules : List Rule} (h : s.rules f = .ok rules) :
    ∃ rest, rules = (s.matchLabels.entries.map fun e => valueRule f e.1 e.2) ++ rest ∧
      List.Forall₂ (fun q r => q.rule f = .ok r) s.requirements rest := by
  obtain ⟨rest, hrest, h⟩ := bind_eq_ok h
  cases h
  exact ⟨rest, rfl, mapM_eq_ok hrest⟩

theorem forall_mem_iff_of_forall₂ {α β : Type} {R : α → β → Prop} {P : α → Prop} {Q : β → Prop}
    {as : List α} {bs : List β} (h : List.Forall₂ R as bs)
    (hiff : ∀ a ∈ as, ∀ b, R a b → (Q b ↔ P a)) : (∀ b ∈ bs, Q b) ↔ ∀ a ∈ as, P a := by
  induction h with
  | nil => simp
  | @cons a b as bs hab _ ih =>
    rw [List.forall_mem_cons, List.forall_mem_cons, hiff a List.mem_cons_self b hab,
      ih fun a ha => hiff a (List.mem_cons_of_mem _ ha)]

/-- The keys that a selector asks for. -/
def keys (s : Selector) : List String := s.matchLabels.keys ++ s.requirements.map (·.key)

/-- The rules of a selector without sets of values keep an object exactly if the labels have the
values that the selector asks for, where what is missing has the empty one, and the requirements
hold. That is the same as the selector itself unless it asks for the empty value of a label that
is missing. -/
theorem kept_iff_of_setFree {s : Selector} {rules : List Rule}
    (hfree : ∀ q ∈ s.requirements, q.operator.takesValues = false)
    (hrules : s.rules f = .ok rules)
    (hdistinct : ∀ k ∈ s.keys ++ ls.keys, ∀ l ∈ s.keys ++ ls.keys,
      sanitize k = sanitize l → k = l) :
    ((∃ out, run (f.metaLabels ls) rules = .ok (some out)) ↔
      (∀ e ∈ s.matchLabels.entries, IsPatternable e.2 ∧ ls.value e.1 = e.2) ∧
        ∀ q ∈ s.requirements, q.holds ls = true) ∧
    ((∀ e ∈ s.matchLabels.entries, IsPatternable e.2 ∧ (e.2 = "" → (ls.get? e.1).isSome = true)) →
      ((∃ out, run (f.metaLabels ls) rules = .ok (some out)) ↔ s.holds ls = true)) := by
  obtain ⟨rest, rfl, hrest⟩ := exists_of_rules hrules
  -- no other key of the object is taken for one that the selector asks for
  have halone : ∀ key ∈ s.keys, Alone ls key := fun key hkey k hk =>
    hdistinct k (List.mem_append_right _ hk) key (List.mem_append_left _ hkey)
  have hvalueKey : ∀ e ∈ s.matchLabels.entries, Alone ls e.1 := fun e he =>
    halone e.1 (List.mem_append_left _ (List.mem_map.mpr ⟨e, he, rfl⟩))
  have hrequirement : ∀ q ∈ s.requirements, ∀ r, q.rule f = .ok r → r.isFilter = true ∧
      ((r.step (f.metaLabels ls)).isSome = true ↔ q.holds ls = true) := fun q hq r hr =>
    isSome_step_iff_of_setFree (hfree q hq) hr
      (halone q.key (List.mem_append_right _ (List.mem_map.mpr ⟨q, hq, rfl⟩)))
  have hfilter : ∀ r ∈ (s.matchLabels.entries.map fun e => valueRule f e.1 e.2) ++ rest,
      r.isFilter = true := by
    refine List.forall_mem_append.mpr ⟨List.forall_mem_map.mpr fun _ _ => rfl, ?_⟩
    exact (forall_mem_iff_of_forall₂ (P := fun _ => True) hrest fun q hq r hr =>
      iff_true_intro (hrequirement q hq r hr).1).mpr fun _ _ => trivial
  have hkept : (∃ out, run (f.metaLabels ls)
      ((s.matchLabels.entries.map fun e => valueRule f e.1 e.2) ++ rest) = .ok (some out)) ↔
      (∀ e ∈ s.matchLabels.entries, IsPatternable e.2 ∧ ls.value e.1 = e.2) ∧
        ∀ q ∈ s.requirements, q.holds ls = true := by
    rw [exists_run_iff_of_isFilter hfilter, List.forall_mem_append, List.forall_mem_map,
      forall_mem_iff_of_forall₂ hrest fun q hq r hr => (hrequirement q hq r hr).2]
    exact and_congr_left' (forall₂_congr fun e he => isSome_step_valueRule (hvalueKey e he))
  refine ⟨hkept, fun hvalues => ?_⟩
  rw [hkept, holds, Bool.and_eq_true, List.all_eq_true, List.all_eq_true]
  refine and_congr_left' (forall₂_congr fun e he => ?_)
  obtain ⟨hsize, hthere⟩ := hvalues e he
  rw [and_iff_right hsize, decide_eq_true_eq]
  by_cases hempty : e.2 = ""
  · obtain ⟨v, hv⟩ := Option.isSome_iff_exists.mp (hthere hempty)
    simp [Labels.value, hv]
  · exact Labels.value_eq_iff hempty ls e.1

end Selector

namespace Sample

/-- Asks for an empty value of one label and that another one is missing. -/
def emptyApp : Selector where
  matchLabels := .ofList [("app", "")]
  requirements := [⟨"tier", .absent, []⟩]

/-- An object without labels is kept, although the selector does not pick it. -/
theorem kept_without_label :
    ∃ rules, emptyApp.rules .pod = .ok rules ∧
      (∃ out, run (Family.pod.metaLabels ∅) rules = .ok (some out)) ∧
      emptyApp.holds ∅ = false := by
  have hrules : (emptyApp.rules .pod).toOption.isSome = true := by decide +kernel
  obtain ⟨rules, hrules⟩ := Option.isSome_iff_exists.mp hrules
  have hrules := eq_ok_of_toOption hrules
  have hkept : (∃ out, run (Family.pod.metaLabels ∅) rules = .ok (some out)) ↔ _ :=
    (Selector.kept_iff_of_setFree (by decide) hrules (by decide)).1
  exact ⟨rules, hrules, hkept.mpr (by decide +kernel), by decide⟩

end Sample

namespace Selector

/-! ## Sets of values -/

variable {f : Family} {ls : Labels} {q : Requirement} {rule : Rule}

/-- The rule of a requirement on a set has the values for a pattern, which can be read. -/
theorem exists_of_setRule (hop : q.operator.takesValues = true) (hrule : q.rule f = .ok rule) :
    q.values ≠ [] ∧ (∃ regex, Regex.anchored? (anyOf q.values) = some regex) ∧
      (q.operator = .isIn ∧ rule = .keep [f.valueOf q.key] (anyOf q.values) ∨
        q.operator = .notIn ∧ rule = .drop [f.valueOf q.key] (anyOf q.values)) := by
  have hvalues : q.values ≠ [] := by
    intro hnil
    have hfault := q.fault?_of_rule hrule
    unfold Requirement.fault? at hfault
    rw [hop, hnil] at hfault
    split at hfault <;> cases hfault
  rcases q.rule_cases hrule with ⟨hq, hregex, rfl⟩ | ⟨hq, hregex, rfl⟩ | ⟨hq, -⟩ | ⟨hq, -⟩
  · exact ⟨hvalues, hregex, .inl ⟨hq, rfl⟩⟩
  · exact ⟨hvalues, hregex, .inr ⟨hq, rfl⟩⟩
  · rw [hq] at hop
    cases hop
  · rw [hq] at hop
    cases hop

/-- The rule of a requirement on a set runs without an error. It goes by what the values match
as one pattern: that is the requirement itself if no value has a pattern character. -/
theorem run_setRule {v : String} (hop : q.operator.takesValues = true)
    (hrule : q.rule f = .ok rule) (halone : Alone ls q.key) (hv : ls.get? q.key = some v) :
    ∃ regex out, Regex.anchored? (anyOf q.values) = some regex ∧
      run (f.metaLabels ls) [rule] = .ok out ∧
      (out.isSome = true ↔ (q.operator = .isIn ↔ regex.isMatch v = true)) ∧
      ((∀ w ∈ q.values, ∀ c ∈ w.toList, isPatternChar c = false) →
        (out.isSome = true ↔ q.holds ls = true)) := by
  obtain ⟨hvalues, ⟨regex, hregex⟩, hshape⟩ := exists_of_setRule hop hrule
  have hsource : (f.metaLabels ls).value (f.valueOf q.key) = v := by
    rw [Label.Family.value_valueOf halone, Labels.value, hv, Option.getD_some]
  have hrun : run (f.metaLabels ls) [rule] = .ok (rule.step (f.metaLabels ls)) := by
    have hread : ∀ r ∈ [rule], r.IsReadable := by
      intro r hr
      rw [List.mem_singleton.mp hr]
      obtain ⟨-, rfl⟩ | ⟨-, rfl⟩ := hshape <;> exact ⟨regex, hregex⟩
    rw [run_eq_pass hread, pass_cons]
    cases rule.step (f.metaLabels ls) <;> rfl
  have hstep : (rule.step (f.metaLabels ls)).isSome = true ↔
      (q.operator = .isIn ↔ regex.isMatch v = true) := by
    obtain ⟨hq, rfl⟩ | ⟨hq, rfl⟩ := hshape
    · rw [step_keep hregex, hsource, hq]
      cases regex.isMatch v <;> simp
    · rw [step_drop hregex, hsource, hq]
      cases regex.isMatch v <;> simp
  refine ⟨regex, _, hregex, hrun, hstep, fun hplain => ?_⟩
  have hmatch : regex.isMatch v = true ↔ v ∈ q.values :=
    Regex.isMatch_words_iff hvalues hplain hregex v
  rw [hstep, hmatch, Requirement.holds, hv]
  obtain ⟨hq, -⟩ | ⟨hq, -⟩ := hshape <;> simp [hq, Operator.holds]

end Selector

namespace Sample

/-- Asks for one value, which has a pattern character in it. -/
def version : Selector.Requirement := ⟨"tier", .isIn, ["v1.2"]⟩

def otherVersion : Labels := .ofList [("tier", "v1x2")]

/-- An object with another value is kept, although the requirement does not hold of it. -/
theorem kept_with_other_value :
    ∃ rule out, version.rule .pod = .ok rule ∧
      run (Family.pod.metaLabels otherVersion) [rule] = .ok (some out) ∧
      version.holds otherVersion = false := by
  have hrule : (version.rule .pod).toOption.isSome = true := by decide +kernel
  obtain ⟨rule, hrule⟩ := Option.isSome_iff_exists.mp hrule
  have hrule := eq_ok_of_toOption hrule
  have halone : Alone otherVersion version.key := by decide
  have hvalue : otherVersion.get? version.key = some "v1x2" := by decide
  obtain ⟨regex, out, hregex, hrun, hiff, -⟩ := Selector.run_setRule rfl hrule halone hvalue
  have hmatch : (Regex.anchored? (Selector.anyOf version.values)).any (·.isMatch "v1x2") = true :=
    by decide +kernel
  rw [hregex] at hmatch
  obtain ⟨kept, rfl⟩ := Option.isSome_iff_exists.mp (hiff.mpr (iff_of_true rfl hmatch))
  exact ⟨rule, kept, hrule, hrun, by decide⟩

end Sample

end ScrapeJobs
