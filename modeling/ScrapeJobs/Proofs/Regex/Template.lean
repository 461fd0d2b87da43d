import Mathlib.Data.List.TakeWhile
import ScrapeJobs.Regex.Template

/-!
# Templates whose references are empty

A constant that is written through a template comes out as it went in only if the template
has no reference: `bare` is what a template becomes when every reference stands for the
empty text, and `bare_eq_self_iff` says that it is the template itself exactly if no dollar
sign in it starts a reference or doubles another one (`isVerbatim`). A text without a
dollar sign is its own expansion whatever the references stand for
(`expandPieces_of_not_mem`), and a reference without braces goes as far as its characters
(`expandPieces_group`).
-/

namespace ScrapeJobs.Regex

/-! ## Texts without dollar signs -/

theorem pieces_of_not_mem {cs : List Char} (h : '$' ∉ cs) : pieces cs = cs.map .char := by
  induction cs with
  | nil => rw [pieces, List.map_nil]
  | cons c rest ih =>
    obtain ⟨hc, hrest⟩ := not_or.mp (mt List.mem_cons.mpr h)
    have hc' : c ≠ '$' := fun he => hc he.symm
    rw [pieces.eq_5 c rest (by simp [hc']) (by simp [hc']) (by simp [hc'])]
    rw [ih hrest, List.map_cons]

theorem expandPieces_of_not_mem (value : List Char → List Char) {cs : List Char}
    (h : '$' ∉ cs) : expandPieces value cs = cs := by
  rw [expandPieces, pieces_of_not_mem h]
  clear h
  induction cs with
  | nil => rfl
  | cons c rest ih => rw [List.map_cons, List.flatMap_cons, ih]; rfl

/-! ## References without braces -/

theorem expandPieces_cons (value : List Char → List Char) {c : Char} (h : c ≠ '$')
    (rest : List Char) : expandPieces value (c :: rest) = c :: expandPieces value rest := by
  rw [expandPieces, pieces.eq_5 c rest (by simp [h]) (by simp [h]) (by simp [h]),
    List.flatMap_cons]
  rfl

/-- A name behind a dollar sign is a reference as far as its characters go. -/
theorem expandPieces_group (value : List Char → List Char) {name rest : List Char}
    (hne : name ≠ []) (hname : ∀ c ∈ name, isReferenceChar c = true)
    (hrest : rest.takeWhile isReferenceChar = []) :
    expandPieces value ('$' :: (name ++ rest)) = value name ++ expandPieces value rest := by
  have hhead : ∀ {c : Char} {r : List Char}, isReferenceChar c = false →
      name ++ rest = c :: r → False := by
    intro c r hc h
    obtain ⟨d, tail, rfl⟩ := List.exists_cons_of_ne_nil hne
    have hd := hname d List.mem_cons_self
    rw [(List.cons.inj h).1, hc] at hd
    cases hd
  have htake : (name ++ rest).takeWhile isReferenceChar = name := by
    rw [List.takeWhile_append_of_pos hname, hrest, List.append_nil]
  have hdrop : (name ++ rest).dropWhile isReferenceChar = rest := by
    rw [List.dropWhile_append_of_pos hname]
    have hsplit := List.takeWhile_append_dropWhile (p := isReferenceChar) (l := rest)
    rwa [hrest, List.nil_append] at hsplit
  rw [expandPieces, pieces.eq_4 _ (fun _ => hhead (by decide)) (fun _ => hhead (by decide)),
    htake, hdrop, if_neg hne, List.flatMap_cons]
  rfl

/-! ## Empty references -/

/-- The text of a template in which every reference is empty. -/
def bare (cs : List Char) : List Char := expandPieces (fun _ => []) cs

/-- Whether a dollar sign is no plain character when it stands before a text: it starts a
reference there, or is one of two. -/
def startsReference : List Char → Bool
  | [] => false
  | '$' :: _ => true
  | '\x7b' :: rest => rest.contains '\x7d'
  | c :: _ => isReferenceChar c

/-- Whether every dollar sign of a template stands for itself. -/
def isVerbatim : List Char → Bool
  | [] => true
  | c :: rest => !(c = '$' && startsReference rest) && isVerbatim rest

theorem bare_of_char {cs rest : List Char} {c : Char} (h : pieces cs = .char c :: pieces rest) :
    bare cs = c :: bare rest := by
  rw [bare, expandPieces, h, List.flatMap_cons]
  rfl

theorem bare_of_group {cs rest name : List Char}
    (h : pieces cs = .group name :: pieces rest) : bare cs = bare rest := by
  rw [bare, expandPieces, h, List.flatMap_cons]
  rfl

theorem bare_nil : bare [] = [] := by
  rw [bare, expandPieces, pieces, List.flatMap_nil]

theorem bare_braced {rest after : List Char} {c : Char}
    (h : rest.dropWhile (· != '\x7d') = c :: after) :
    bare ('$' :: '\x7b' :: rest) = bare after := by
  have hpieces : pieces ('$' :: '\x7b' :: rest) =
      .group (rest.takeWhile (· != '\x7d')) :: pieces after := by
    rw [pieces.eq_3]
    split <;> simp_all
  exact bare_of_group hpieces

theorem bare_unclosed {rest : List Char} (h : rest.dropWhile (· != '\x7d') = []) :
    bare ('$' :: '\x7b' :: rest) = '$' :: bare ('\x7b' :: rest) := by
  refine bare_of_char ?_
  rw [pieces.eq_3]
  split <;> simp_all

theorem bare_lone {rest : List Char} (h₁ : ∀ r, rest = '$' :: r → False)
    (h₂ : ∀ r, rest = '\x7b' :: r → False) (hname : rest.takeWhile isReferenceChar = []) :
    bare ('$' :: rest) = '$' :: bare rest := by
  refine bare_of_char ?_
  rw [pieces.eq_4 rest h₁ h₂, if_pos hname]

theorem contains_of_dropWhile {c d : Char} {cs after : List Char}
    (h : cs.dropWhile (· != c) = d :: after) : cs.contains c = true := by
  rw [List.contains_iff_mem]
  refine Decidable.by_contra fun hc => ?_
  have hnil : cs.dropWhile (· != c) = [] := by
    rw [List.dropWhile_eq_nil_iff]
    intro x hx
    exact bne_iff_ne.mpr fun he => hc (he ▸ hx)
  rw [hnil] at h
  cases h

theorem contains_eq_false_of_dropWhile {c : Char} {cs : List Char}
    (h : cs.dropWhile (· != c) = []) : cs.contains c = false := by
  rw [List.contains_eq_mem, decide_eq_false_iff_not]
  intro hc
  simpa using List.dropWhile_eq_nil_iff.mp h c hc

theorem startsReference_eq {rest : List Char} (h₁ : ∀ r, rest = '$' :: r → False)
    (h₂ : ∀ r, rest = '\x7b' :: r → False) :
    startsReference rest = !(rest.takeWhile isReferenceChar).isEmpty := by
  unfold startsReference
  split
  · rfl
  · exact (h₁ _ rfl).elim
  · exact (h₂ _ rfl).elim
  · rename_i c _ _ _
    rw [List.takeWhile_cons]
    cases isReferenceChar c <;> rfl

theorem isVerbatim_cons (c : Char) (rest : List Char) :
    isVerbatim (c :: rest) = (!(c = '$' && startsReference rest) && isVerbatim rest) := rfl

theorem length_bare_le (cs : List Char) : (bare cs).length ≤ cs.length := by
  induction cs using pieces.induct with
  | case1 => exact Nat.le_of_eq (congrArg _ bare_nil)
  | case2 rest ih =>
    rw [bare_of_char (pieces.eq_2 rest)]
    simp only [List.length_cons]
    omega
  | case3 rest c after hdrop ih =>
    have hle := length_dropWhile_le (· != '\x7d') rest
    rw [hdrop] at hle
    rw [bare_braced hdrop]
    simp only [List.length_cons] at hle ⊢
    omega
  | case4 rest hdrop ih =>
    rw [bare_unclosed hdrop]
    simpa using ih
  | case5 rest h₁ h₂ hname ih =>
    rw [bare_lone h₁ h₂ hname]
    simpa using ih
  | case6 rest h₁ h₂ hname ih =>
    have hle := length_dropWhile_le isReferenceChar rest
    rw [bare_of_group (pieces.eq_4 rest h₁ h₂ ▸ if_neg hname)]
    simp only [List.length_cons]
    omega
  | case7 c rest h₁ h₂ h₃ ih =>
    rw [bare_of_char (pieces.eq_5 c rest h₁ h₂ h₃)]
    simpa using ih

/-- A template with references comes out shorter, so it is its own text only if it has
none. -/
theorem bare_eq_self_iff (cs : List Char) : bare cs = cs ↔ isVerbatim cs = true := by
  induction cs using pieces.induct with
  | case1 => simp [bare_nil, isVerbatim]
  | case2 rest ih =>
    have hle := length_bare_le rest
    rw [bare_of_char (pieces.eq_2 rest)]
    refine iff_of_false (fun h => ?_) (by simp [isVerbatim_cons, startsReference])
    have := congrArg List.length h
    simp only [List.length_cons] at this
    omega
  | case3 rest c after hdrop ih =>
    have hle := length_bare_le after
    have hdropLe := length_dropWhile_le (· != '\x7d') rest
    rw [hdrop] at hdropLe
    rw [bare_braced hdrop]
    refine iff_of_false (fun h => ?_) ?_
    · have := congrArg List.length h
      simp only [List.length_cons] at this hdropLe
      omega
    · simp [isVerbatim_cons, startsReference, contains_of_dropWhile hdrop, -List.contains_eq_mem]
  | case4 rest hdrop ih =>
    rw [bare_unclosed hdrop, List.cons_inj_right, ih, isVerbatim_cons '$']
    simp [startsReference, contains_eq_false_of_dropWhile hdrop, -List.contains_eq_mem]
  | case5 rest h₁ h₂ hname ih =>
    rw [bare_lone h₁ h₂ hname, List.cons_inj_right, ih, isVerbatim_cons '$']
    simp [startsReference_eq h₁ h₂, hname]
  | case6 rest h₁ h₂ hname ih =>
    have hle := length_bare_le (rest.dropWhile isReferenceChar)
    have hdropLe := length_dropWhile_le isReferenceChar rest
    rw [bare_of_group (pieces.eq_4 rest h₁ h₂ ▸ if_neg hname)]
    refine iff_of_false (fun h => ?_) ?_
    · have := congrArg List.length h
      simp only [List.length_cons] at this
      omega
    · simp [isVerbatim_cons, startsReference_eq h₁ h₂, hname]
  | case7 c rest h₁ h₂ h₃ ih =>
    have hc : c ≠ '$' := fun he => h₃ he
    rw [bare_of_char (pieces.eq_5 c rest h₁ h₂ h₃), List.cons_inj_right, ih, isVerbatim_cons c]
    simp [hc]

example : isVerbatim "acme$1".toList = false := by decide

example : isVerbatim "acme$-1".toList = true := by decide

end ScrapeJobs.Regex
