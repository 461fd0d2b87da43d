import ScrapeJobs.Proofs.Relabel.Effects

/-!
# Rules that pass the check

A collector checks of a rule that its regex can be read, that it reads labels with valid names,
and what its action needs. Filters need no more than that (`check_of_isFilter`), and a rule that
writes a label of a valid name has what it needs (`Rule.Writes.check_eq_ok`).
-/

namespace ScrapeJobs

/-! ## Names of labels -/

namespace Label

theorem ne_empty_of_isName {s : String} (h : isName s = true) : s ≠ "" := by
  rintro rfl
  cases h

/-- Word characters behind a name make a name again. -/
theorem isName_append {p s : String} (hp : isName p = true)
    (hs : ∀ c ∈ s.toList, isWordChar c = true) : isName (p ++ s) = true := by
  unfold isName at hp ⊢
  rw [String.toList_append]
  cases h : p.toList with
  | nil =>
    rw [h] at hp
    cases hp
  | cons c rest =>
    rw [h] at hp
    obtain ⟨hc, hrest⟩ := Bool.and_eq_true_iff.mp hp
    have hall : (rest ++ s.toList).all isWordChar = true := by
      rw [List.all_append, hrest, List.all_eq_true.mpr hs]
      rfl
    exact Bool.and_eq_true_iff.mpr ⟨hc, hall⟩

theorem isWordChar_of_mem_sanitize {s : String} {c : Char} (h : c ∈ (sanitize s).toList) :
    isWordChar c = true := by
  rw [sanitize, String.toList_ofList] at h
  obtain ⟨d, -, rfl⟩ := List.mem_map.mp h
  split
  · assumption
  · decide

theorem isName_valueOf (f : Family) (key : String) : isName (f.valueOf key) = true := by
  cases f <;> exact isName_append (by decide) fun _ => isWordChar_of_mem_sanitize

theorem isName_presenceOf (f : Family) (key : String) : isName (f.presenceOf key) = true := by
  cases f <;> exact isName_append (by decide) fun _ => isWordChar_of_mem_sanitize

end Label

namespace Relabel

open Label

variable {r : Rule} {name : String}

/-! ## Regexes -/

theorem isReadable_of_regex_eq (h : r.regex = defaultRegex) : r.IsReadable := by
  rw [Rule.IsReadable, h]
  exact ⟨_, Regex.anchored?_defaultRegex⟩

/-! ## Checks -/

theorem check_eq_checkAction (hread : r.IsReadable)
    (hsources : ∀ l ∈ r.sourceLabels, isName l = true) : r.check = r.checkAction := by
  obtain ⟨regex, hregex⟩ := hread
  have hfind : r.sourceLabels.find? (!isName ·) = none := by
    rw [List.find?_eq_none]
    intro l hl
    simp [hsources l hl]
  rw [Rule.check, hregex, hfind]
  rfl

/-- A filter needs nothing besides its regex and the labels that it reads. -/
theorem check_of_isFilter (hf : r.isFilter = true) (hread : r.IsReadable)
    (hsources : ∀ l ∈ r.sourceLabels, isName l = true) : r.check = .ok () := by
  rw [check_eq_checkAction hread hsources, Rule.checkAction]
  rcases isFilter_iff.mp hf with ha | ha <;> rw [ha]

theorem isTarget_of_isName (h : isName name = true) : isTarget name = true := by
  have hdollar : ¬ name.toList.contains '$' = true := by
    intro hmem
    exact not_mem_of_isName h (List.contains_iff_mem.mp hmem)
  rw [isTarget, if_neg hdollar, h]

/-- A rule that writes a label of a valid name needs nothing besides its regex and the labels
that it reads. -/
theorem Rule.Writes.check_eq_ok (hw : r.Writes name) (hread : r.IsReadable)
    (hsources : ∀ l ∈ r.sourceLabels, Label.isName l = true) : r.check = .ok () := by
  have hne : r.targetLabel ≠ "" := hw.target ▸ ne_empty_of_isName hw.isName
  have htarget : isTarget r.targetLabel = true := hw.target ▸ isTarget_of_isName hw.isName
  rw [check_eq_checkAction hread hsources, Rule.checkAction, hw.action]
  simp only [if_neg hne, if_pos htarget]

theorem check_labelDrop {pattern : String} (h : (Rule.labelDrop pattern).IsReadable) :
    (Rule.labelDrop pattern).check = .ok () := by
  rw [check_eq_checkAction h fun l hl => (List.not_mem_nil hl).elim]
  simp [Rule.checkAction, Rule.labelDrop, Rule.hasRegexOnly]

end Relabel

end ScrapeJobs
