import ScrapeJobs.Proofs.Regex.Captures
import ScrapeJobs.Proofs.Relabel.Effects

/-!
# Rules that write texts

What a replace rule writes is what its replacement makes of the groups that its regex captures
(`step_of_captures?_eq_some`). With the usual regex this is what is read, with a text behind it
(`step_of_suffix`).
-/

namespace ScrapeJobs

open Label Labels Relabel

variable {ls : Labels} {r : Rule} {rules rest : List Rule}

/-! ## Label sets -/

namespace Labels

theorem set_set (ls : Labels) (name v w : String) : (ls.set name v).set name w = ls.set name w := by
  refine Dict.ext_get? fun l => ?_
  simp only [get?_set]
  split <;> rfl

theorem set_comm (ls : Labels) {name other : String} (h : name ≠ other) (v w : String) :
    (ls.set name v).set other w = (ls.set other w).set name v := by
  refine Dict.ext_get? fun l => ?_
  simp only [get?_set]
  by_cases hl : l = name
  · rw [if_neg (hl ▸ h), if_pos hl, if_pos hl]
  · rw [if_neg hl, if_neg hl]

theorem value_set (ls : Labels) (name v l : String) :
    (ls.set name v).value l = if l = name then v else ls.value l := by
  simp only [value, get?_set]
  split
  · split
    · rename_i hv
      exact hv.symm
    · rfl
  · rfl

theorem value_erase (ls : Labels) {name l : String} (h : l ≠ name) :
    Labels.value (ls.erase name) l = ls.value l := by
  rw [value, value, Dict.get?_erase, if_neg h]

end Labels

namespace Relabel

/-! ## Joined texts -/

theorem toList_joined (a b : String) : (a ++ ";" ++ b).toList = a.toList ++ ';' :: b.toList := by
  rw [String.toList_append, String.toList_append, List.append_assoc]
  rfl

/-- What stands before the first semicolon of a joined text can be told from the whole. -/
theorem prefix_append_cons_iff {a b c : List Char} (ha : ';' ∉ a) (hb : ';' ∉ b) :
    b ++ [';'] <+: a ++ ';' :: c ↔ a = b := by
  induction b generalizing a with
  | nil =>
    cases a with
    | nil => simp
    | cons x a =>
      have hx : ¬ ';' = x := fun h => ha (h ▸ List.mem_cons_self)
      simp [hx]
  | cons y b ih =>
    obtain ⟨hy, hb'⟩ := not_or.mp (mt List.mem_cons.mpr hb)
    cases a with
    | nil => simp [Ne.symm hy]
    | cons x a =>
      have ha' : ';' ∉ a := fun h => ha (List.mem_cons_of_mem _ h)
      rw [List.cons_append, List.cons_append, List.cons_prefix_cons, ih ha' hb', List.cons.injEq,
        eq_comm]

/-! ## Rules for texts -/

theorem source_of_pair {a b : String} (h : r.sourceLabels = [a, b]) (ls : Labels) :
    r.source ls = ls.value a ++ r.separator ++ ls.value b := by
  rw [Rule.source, h, ← String.toList_inj, String.toList_intercalate]
  simp [List.intercalate]

theorem source_of_triple {a b c : String} (h : r.sourceLabels = [a, b, c]) (ls : Labels) :
    r.source ls = ls.value a ++ r.separator ++ (ls.value b ++ r.separator ++ ls.value c) := by
  rw [Rule.source, h, ← String.toList_inj, String.toList_intercalate]
  simp [List.intercalate]

/-- A replace rule whose regex captures nothing leaves everything as it is. -/
theorem step_of_captures?_eq_none {regex : Regex} (ha : r.action = .replace)
    (hregex : Regex.anchored? r.regex = some regex)
    (h : regex.captures? (r.source ls) = none) : r.step ls = some ls := by
  rw [step_eq_apply hregex, Rule.apply, ha]
  simp only [h]

/-- A replace rule writes what its replacement makes of the groups. -/
theorem step_of_captures?_eq_some {regex : Regex} {c : Regex.Captures} (ha : r.action = .replace)
    (hregex : Regex.anchored? r.regex = some regex) (ht : isName r.targetLabel = true)
    (h : regex.captures? (r.source ls) = some c) :
    r.step ls = some (ls.set r.targetLabel (c.expand r.replacement)) := by
  rw [step_eq_apply hregex, Rule.apply, ha]
  simp only [h, expand_of_not_mem _ (not_mem_of_isName ht), ht, if_true]

/-- What is read is written with a text behind it. -/
theorem step_of_suffix {suffix : String} (ha : r.action = .replace)
    (hregex : r.regex = defaultRegex) (ht : isName r.targetLabel = true)
    (hreplacement : r.replacement = "$1" ++ suffix) (hdollar : '$' ∉ suffix.toList)
    (hsuffix : suffix.toList.takeWhile Regex.isReferenceChar = []) (ls : Labels) :
    r.step ls = some (ls.set r.targetLabel (r.source ls ++ suffix)) := by
  have hread : Regex.anchored? r.regex = some (Regex.behind []) := by
    rw [hregex, Regex.anchored?_any]
  have htext : (r.source ls).toList = [] ++ (r.source ls).toList := rfl
  obtain ⟨c, hc, hgroup⟩ := Regex.exists_captures_behind htext
  rw [step_of_captures?_eq_some ha hread ht hc, hreplacement,
    Regex.expand_first c hdollar hsuffix, hgroup, String.ofList_toList]

theorem step_copy {source target : String} (ht : isName target = true) (ls : Labels) :
    (Rule.copy [source] target).step ls = some (ls.set target (ls.value source)) := by
  have hreplacement : (Rule.copy [source] target).replacement = "$1" ++ "" :=
    String.append_empty.symm
  have hstep := step_of_suffix rfl rfl ht hreplacement List.not_mem_nil rfl ls
  rwa [source_of_single (r := .copy [source] target) rfl, String.append_empty] at hstep

/-- Rules that can be read run one list after the other. -/
theorem run_append (h : ∀ r ∈ rules, r.IsReadable) (ls : Labels) : run ls (rules ++ rest) =
    match pass ls rules with
    | none => .ok none
    | some ls' => run ls' rest := by
  induction rules generalizing ls with
  | nil => rfl
  | cons r rules ih =>
    obtain ⟨⟨regex, hregex⟩, hrest⟩ := List.forall_mem_cons.mp h
    simp only [List.cons_append, run, hregex, pass_cons, step_eq_apply hregex]
    cases r.apply regex ls with
    | none => rfl
    | some ls' => exact ih hrest ls'

end Relabel

end ScrapeJobs
