import ScrapeJobs.Proofs.Regex.CutRun
import ScrapeJobs.Proofs.Regex.Mirror
import ScrapeJobs.Proofs.Regex.Literal

/-!
# Patterns between the ends of a text

`Regex.anchored?` pastes a pattern as it is into a group between the start and the end of the text.
If the pattern can be read on its own (`IsWellFormed`), then all of it stays in this group
(`run?_pasted`), and every match is one of the whole text (`ends_of_find?`). Otherwise it is taken
only if a parenthesis in it closes the group (`matches_whole_or_closes_group`), and then a match may
be a part of the text (`matches_part_of_text`).
-/

namespace ScrapeJobs.Regex

open State (Reaches Mirrors)

variable {m : Nat} {p w rest mid : List Char} {st st' u fin : State} {outer : List OpenGroup}

/-! ## Patterns on their own -/

/-- The pattern can be read on its own. Sizes do not matter here. -/
def IsWellFormed (p : List Char) : Prop := (State.run? (p.length + 1) {} p).isSome = true

instance (p : List Char) : Decidable (IsWellFormed p) :=
  inferInstanceAs (Decidable (_ = true))

theorem isWellFormed_of_ofPattern? {p : String} {r : Regex} (h : ofPattern? p = some r) :
    IsWellFormed p.toList := by
  obtain ⟨_, hread, -⟩ := Option.map_eq_some_iff.mp h
  obtain ⟨fin, hrun, -⟩ := Option.bind_eq_some_iff.mp hread
  rw [IsWellFormed, hrun]
  rfl

theorem isWellFormed_of_reaches (h : Reaches {} p fin rest) (hend : fin.flags.skip rest = [])
    (hgroups : fin.groups = []) : IsWellFormed p := by
  obtain ⟨k, hk, hrun⟩ := h.run? (Nat.lt_succ_self p.length)
  obtain ⟨k, rfl⟩ := Nat.exists_eq_add_one.mpr (Nat.zero_lt_of_lt hk)
  rw [IsWellFormed, hrun, State.run?, hend, hgroups]
  rfl

/-- A parenthesis that closes nothing ends the reading. -/
theorem not_isWellFormed_of_reaches (h : Reaches {} p u mid)
    (hclosing : u.flags.skip mid = ')' :: w) (hgroups : u.groups = []) : ¬ IsWellFormed p := by
  obtain ⟨k, hk, hrun⟩ := h.run? (Nat.lt_succ_self p.length)
  obtain ⟨k, rfl⟩ := Nat.exists_eq_add_one.mpr (Nat.zero_lt_of_lt hk)
  have hnone : State.run? (k + 1) u mid = none := by
    simp only [State.run?, hclosing, State.step?, State.close?, hgroups]
    rfl
  rw [IsWellFormed, hrun, hnone]
  exact Bool.false_ne_true

/-! ## Patterns in a group -/

/-- A run that ends outside of groups leaves them where what mirrors it has nothing to close. -/
theorem State.Mirrors.leaves (h : Mirrors outer st st') (houter : outer ≠ [])
    (hreach : Reaches st p fin rest) (hfin : fin.groups = []) :
    ∃ u u' mid w, Reaches st' p u' mid ∧ Mirrors outer u u' ∧ u'.groups = [] ∧
      u.flags.skip mid = ')' :: w ∧ ∃ v, u.close? = some v ∧ Reaches v w fin rest := by
  induction hreach generalizing st' with
  | refl st cs =>
    obtain ⟨inner, hinner, -⟩ := h.groups
    rw [hinner] at hfin
    exact absurd (List.append_eq_nil_iff.mp hfin).2 houter
  | @step st st₁ _ cs mid _ first more ih =>
    by_cases hleaves : (st.flags.skip cs).head? = some ')' ∧ st'.groups = []
    · obtain ⟨⟨w, hw⟩, hgroups⟩ := hleaves.imp_left List.head?_eq_some_iff.mp
      rw [hw] at first
      obtain ⟨v, hclose, hv⟩ := Option.map_eq_some_iff.mp first
      cases hv
      exact ⟨st, st', cs, _, .refl _ _, h, hgroups, hw, st₁, hclose, more⟩
    · obtain ⟨st₁', hstep, hmirror⟩ := h.step? first fun hhead hgroups => hleaves ⟨hhead, hgroups⟩
      obtain ⟨u, u', mid', w, hreach, hrest⟩ := ih hmirror hfin
      exact ⟨u, u', mid', w, .step (h.skip ▸ hstep) hreach, hrest⟩

theorem mirrors_opened : Mirrors opened.groups opened {} where
  flags := ⟨false, rfl⟩
  parts := rfl
  groups := ⟨[], rfl, .nil⟩
  count := rfl
  names := rfl

/-- The end of the pattern is read from the closing parenthesis of its group. -/
theorem eq_of_reaches_dollar (hflags : st.flags = {}) (h : Reaches st ['$'] fin rest)
    (hend : fin.flags.skip rest = []) :
    fin = st.push { expr := .anchor .textEnd, size := 32 } := by
  have hskip : st.flags.skip ['$'] = ['$'] := by rw [hflags]; rfl
  cases h with
  | refl =>
    rw [hskip] at hend
    cases hend
  | step first more =>
    rw [hskip] at first
    obtain ⟨rfl, rfl⟩ : st.push { expr := .anchor st.flags.endAnchor, size := 32 } = _ ∧ [] = _ :=
      Prod.mk.inj (Option.some.inj first)
    have hanchor : st.flags.endAnchor = .textEnd := by rw [hflags]; rfl
    rw [← hanchor]
    cases more with
    | refl => rfl
    | step first _ =>
      have hnil : (st.push { expr := .anchor st.flags.endAnchor, size := 32 }).flags.skip [] = [] :=
        List.suffix_nil.mp (skip_suffix _ [])
      rw [hnil] at first
      cases first

/-- What stands before the end of the pattern when its group is closed. -/
theorem parts_of_close? (h : Mirrors opened.groups u st') (hgroups : st'.groups = [])
    (hclose : u.close? = some st) :
    st.flags = {} ∧ st.branches = [] ∧ ∃ body : Part,
      st.parts = [{ body with depth := body.depth + 1, setsFlags := false },
        { expr := .anchor .textStart, size := 32 }] := by
  obtain ⟨inner, hinner, hmirror⟩ := h.groups
  rw [hgroups] at hmirror
  cases hmirror
  unfold State.close? at hclose
  rw [hinner] at hclose
  cases hclose
  exact ⟨rfl, rfl, _, rfl⟩

/-- Where a parenthesis stands in a pattern with its closing. -/
theorem closing_suffix (h : ')' :: w <:+ p ++ [')', '$']) :
    w = ['$'] ∨ ∃ q rest, p = q ++ ')' :: rest ∧ w = rest ++ [')', '$'] := by
  obtain ⟨q, hq⟩ := h
  obtain ⟨inside, rfl, hp⟩ | ⟨behind, rfl, hp⟩ := List.append_eq_append_iff.mp hq
  · cases inside with
    | nil =>
      cases hp
      exact .inl rfl
    | cons c rest =>
      obtain ⟨rfl, rfl⟩ := List.cons.inj hp
      exact .inr ⟨q, rest, rfl, rfl⟩
  · cases behind with
    | nil =>
      cases hp
      exact .inl rfl
    | cons c more =>
      -- Only the dollar would be left to begin with a parenthesis.
      obtain ⟨-, hmore⟩ := List.cons.inj hp
      cases more with
      | nil => cases hmore
      | cons d more =>
        obtain ⟨-, hmore⟩ := List.cons.inj hmore
        cases more <;> cases hmore

/-- A pattern in its group is read to the closing of the group, or it closes the group itself. -/
theorem run?_pasted (h : State.run? m opened (p ++ [')', '$']) = some fin) :
    (IsWellFormed p ∧ fin.branches = [] ∧ ∃ body : Part, fin.parts = enclosed body) ∨
    (¬ IsWellFormed p ∧ ∃ q rest, p = q ++ ')' :: rest ∧ IsWellFormed q) := by
  obtain ⟨rest, hreach, hend, hfin⟩ := reaches_of_run? h
  obtain ⟨u, u', mid, w, hown, hmirror, hgroups, hclosing, v, hclose, hmore⟩ :=
    mirrors_opened.leaves (List.cons_ne_nil _ _) hreach hfin
  have hbrace : mid.head? ≠ some '\x7b' := by
    intro hhead
    obtain ⟨r, rfl⟩ := List.head?_eq_some_iff.mp hhead
    rw [skip_brace] at hclosing
    cases hclosing
  have hskip : u'.flags.skip mid = ')' :: w := hmirror.skip ▸ hclosing
  have hcut : ∀ l s : List Char, p ++ [')', '$'] = l ++ s → s.length ≤ w.length + 1 →
      Reaches {} l u' (mid.rdrop s.length) ∧
        u'.flags.skip (mid.rdrop s.length) = (')' :: w).rdrop s.length := by
    intro l s htext hs
    have hs' : s.length ≤ (u'.flags.skip mid).length := by rw [hskip]; exact hs
    have hread := hown.rdrop (hs'.trans (length_skip_le _ _)) hbrace
    rw [htext, List.rdrop_append_length] at hread
    exact ⟨hread, by rw [skip_rdrop hs', hskip]⟩
  have hsuffix : ')' :: w <:+ p ++ [')', '$'] := hskip ▸ (skip_suffix _ mid).trans hown.suffix
  obtain rfl | ⟨q, behind, rfl, rfl⟩ := closing_suffix hsuffix
  · obtain ⟨hread, hnil⟩ := hcut p [')', '$'] rfl (Nat.le_refl 2)
    obtain ⟨hflags, hbranches, body, hbody⟩ := parts_of_close? hmirror hgroups hclose
    obtain rfl := eq_of_reaches_dollar hflags hmore hend
    exact .inl ⟨isWellFormed_of_reaches hread hnil hgroups, hbranches, body, by
      rw [State.push, hbody, enclosed]⟩
  · obtain ⟨hread, hbehind⟩ := hcut (q ++ ')' :: behind) [')', '$'] rfl (by simp)
    obtain ⟨hread', hnil⟩ := hcut q (')' :: (behind ++ [')', '$'])) (by simp) (Nat.le_refl _)
    rw [← List.cons_append, List.rdrop_append_length] at hbehind
    rw [rdrop_eq_nil (Nat.le_refl _)] at hnil
    exact .inr ⟨not_isWellFormed_of_reaches hread hbehind hgroups, q, behind, rfl,
      isWellFormed_of_reaches hread' hnil hgroups⟩

/-! ## Matches of what is tied to both ends -/

variable {text : Array Char} {xs : List Expr} {x : Expr} {q : Path} {i : Nat}
  {passed : List Path} {a : Arrival} {start : Nat} {found : Match}

/-- A sequence matches only where its first part does. -/
theorem exists_first_arrival (ha : a ∈ (xs.foldl Expr.seq x).arrivals text q i passed) :
    ∃ q', ∃ b, b ∈ x.arrivals text q' i passed := by
  induction xs using List.reverseRecOn generalizing q a with
  | nil => exact ⟨q, a, ha⟩
  | append_singleton xs y ih =>
    rw [List.foldl_append] at ha
    obtain ⟨b, hb, -⟩ := exists_of_mem_goOn ha
    exact ih hb

/-- What is tied to both ends is matched from end to end, whatever stands between them. -/
theorem ends_of_mem_arrivals (ha : a ∈ (Expr.whole xs).arrivals text q i passed) :
    i = 0 ∧ a.pos = text.size := by
  rw [Expr.whole, Expr.ofParts, List.foldl_append] at ha
  obtain ⟨b, hb, c, hc, rfl⟩ := exists_of_mem_goOn ha
  obtain ⟨_, d, hd⟩ := exists_first_arrival hb
  have hstart := (spans_of_mem_arrivals (x := .anchor .textStart) rfl hd).2
  have hstop := spans_of_mem_arrivals (x := .anchor .textEnd) rfl hc
  exact ⟨of_decide_eq_true hstart, hstop.1.trans (of_decide_eq_true hstop.2)⟩

theorem ends_of_find? (h : (Expr.whole xs).find? text start = some found) :
    start = 0 ∧ found.start = 0 ∧ found.stop = text.size := by
  obtain ⟨i, hi, hmatch⟩ := List.exists_of_findSome?_eq_some h
  obtain ⟨a, ha, rfl⟩ := Option.map_eq_some_iff.mp hmatch
  obtain ⟨rfl, hstop⟩ := ends_of_mem_arrivals (List.mem_of_mem_head? ha)
  exact ⟨Nat.le_zero.mp (List.mem_range'_1.mp hi).1, rfl, hstop⟩

theorem find?_later (xs : List Expr) (text : Array Char) (h : start ≠ 0) :
    (Expr.whole xs).find? text start = none := by
  cases hfound : (Expr.whole xs).find? text start with
  | none => rfl
  | some found => exact absurd (ends_of_find? hfound).1 h

/-- There is no other match than the one of the whole text. -/
theorem findAll_whole (xs : List Expr) (text : Array Char) :
    (Expr.whole xs).findAll text = ((Expr.whole xs).find? text 0).toList := by
  rw [Expr.findAll, Expr.findAll.go]
  cases hfound : (Expr.whole xs).find? text 0 with
  | none => rfl
  | some found =>
    obtain ⟨-, hstart, hstop⟩ := ends_of_find? hfound
    simp only [reduceCtorEq, and_false, if_false, Option.toList_some]
    congr 1
    rw [hstop, Expr.findAll.go]
    by_cases hempty : text.size = 0
    · simp only [hempty, hfound, hstart, hstop, and_self, if_true]
      rfl
    · rw [find?_later xs text hempty]

/-- A text is replaced as a whole or not at all. -/
theorem replaceAll_whole (xs : List Expr) (names : List (String × Nat)) (text template : String) :
    (Regex.mk (Expr.whole xs) names).replaceAll text template =
      (((Regex.mk (Expr.whole xs) names).captures? text).map (·.expand template)).getD text := by
  rw [replaceAll, captures?, findAll_whole]
  cases hfound : (Expr.whole xs).find? text.toList.toArray 0 with
  | none =>
    change String.ofList (text.toList.drop 0) = text
    rw [List.drop_zero, String.ofList_toList]
  | some found =>
    obtain ⟨-, hstart, hstop⟩ := ends_of_find? hfound
    simp only [Option.toList_some, replaceAll.go, hstart, hstop, Option.map_some, Option.getD_some]
    rw [Captures.expand, List.size_toArray, List.drop_length, List.append_nil]
    rfl

/-! ## Patterns that are tied to both ends -/

/-- A pattern that is read in its group can be read on its own, unless it closes the group. -/
theorem anchored?_cases {p : String} {r : Regex} (h : anchored? p = some r) :
    (IsWellFormed p.toList ∧ ∃ xs names, r = ⟨.whole xs, names⟩) ∨
    (¬ IsWellFormed p.toList ∧ ∃ q rest, p.toList = q ++ ')' :: rest ∧ IsWellFormed q) := by
  obtain ⟨⟨expr, names⟩, hread, rfl⟩ := Option.map_eq_some_iff.mp h
  rw [String.toList_ofList] at hread
  obtain ⟨fin, hrun, hread⟩ := Option.bind_eq_some_iff.mp hread
  have hlength : (anchoredText p.toList).length + 1 = p.toList.length + 6 + 2 := by
    simp [anchoredText_eq]
  rw [hlength, run?_anchoredText] at hrun
  refine (run?_pasted hrun).imp_left fun ⟨hwell, hbranches, body, hparts⟩ => ⟨hwell, ?_⟩
  simp only [hbranches, hparts, alternatives_closed] at hread
  split at hread
  · cases hread
  · cases hread
    exact ⟨_, _, rfl⟩

/-- A pattern that can be read on its own matches whole texts only, and a text is replaced as a
whole or not at all. Any other pattern that is taken closes the group it was pasted in: what is
before the closing parenthesis can be read on its own. -/
theorem matches_whole_or_closes_group {p : String} {r : Regex} (h : anchored? p = some r) :
    (IsWellFormed p.toList →
      (∀ text start found, r.expr.find? text start = some found →
        found.start = 0 ∧ found.stop = text.size) ∧
      ∀ text template, r.replaceAll text template =
        ((r.captures? text).map (·.expand template)).getD text) ∧
    (¬ IsWellFormed p.toList → ∃ q rest, p.toList = q ++ ')' :: rest ∧ IsWellFormed q) := by
  obtain ⟨hwell, xs, names, rfl⟩ | ⟨hill, hcloses⟩ := anchored?_cases h
  · refine ⟨fun _ => ⟨fun text start found hfound => (ends_of_find? hfound).2, ?_⟩,
      fun hill => absurd hwell hill⟩
    exact replaceAll_whole xs names
  · exact ⟨fun hwell => absurd hwell hill, fun _ => hcloses⟩

/-- Alternatives match whole texts only; not so if they close the group and open another one. -/
theorem matches_part_of_text :
    (∃ r, anchored? "a|b" = some r ∧ IsWellFormed "a|b".toList ∧
      ∀ text start found, r.expr.find? text start = some found →
        found.start = 0 ∧ found.stop = text.size) ∧
    ∃ r, anchored? "a)|(?:b" = some r ∧ ofPattern? "a)|(?:b" = none ∧
      ¬ IsWellFormed "a)|(?:b".toList ∧
      (∃ q rest, "a)|(?:b".toList = q ++ ')' :: rest ∧ IsWellFormed q) ∧
      r.expr.find? "axx".toList.toArray 0 = some ⟨0, 1, []⟩ := by
  constructor
  · obtain ⟨r, hr⟩ := Option.isSome_iff_exists.mp
      (show (anchored? "a|b").isSome = true by decide +kernel)
    have hwell : IsWellFormed "a|b".toList := by decide +kernel
    exact ⟨r, hr, hwell, ((matches_whole_or_closes_group hr).1 hwell).1⟩
  · have hfound : ((anchored? "a)|(?:b").bind fun r => r.expr.find? "axx".toList.toArray 0) =
        some ⟨0, 1, []⟩ := by decide +kernel
    obtain ⟨r, hr, hpart⟩ := Option.bind_eq_some_iff.mp hfound
    have hill : ¬ IsWellFormed "a)|(?:b".toList := by decide +kernel
    have hnone : ofPattern? "a)|(?:b" = none :=
      Option.eq_none_iff_forall_ne_some.mpr fun _ h => hill (isWellFormed_of_ofPattern? h)
    exact ⟨r, hr, hnone, hill, (matches_whole_or_closes_group hr).2 hill, hpart⟩

end ScrapeJobs.Regex
