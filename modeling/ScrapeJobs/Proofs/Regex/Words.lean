import Mathlib.Data.List.Basic
import ScrapeJobs.Proofs.CharSet
import ScrapeJobs.Proofs.Regex.Literal

/-!
# Alternatives of words

A pattern of words between bars, none of which has a pattern character, matches exactly these
words (`isMatch_words_iff`). It is read as alternatives of literals (`anchored?_words`). These are
kept in a normal form, where single characters are one set and common beginnings are written
once; neither changes what is matched (`spans_factored`).
-/

namespace ScrapeJobs.Regex

open Relabel

variable {text : Array Char} {i j : Nat}

/-! ## Parts and branches -/

theorem spansAll_singleton {x : Expr} : SpansAll text [x] i j ↔ x.Spans text i j := by
  simp [SpansAll]

theorem spansAll_parts (x : Expr) (i j : Nat) :
    SpansAll text x.parts i j ↔ x.Spans text i j := by
  induction x generalizing i j with
  | empty => rfl
  | seq x y ihx ihy => simp only [Expr.parts, spansAll_append, ihx, ihy, Expr.Spans]
  | _ => exact spansAll_singleton

theorem spans_ofParts (xs : List Expr) :
    (Expr.ofParts xs).Spans text i j ↔ SpansAll text xs i j := by
  cases xs with
  | nil => rfl
  | cons x rest => exact spans_foldl_seq x rest i j

theorem spans_ofBranches (xs : List Expr) :
    (Expr.ofBranches xs).Spans text i j ↔ ∃ x ∈ xs, x.Spans text i j := by
  induction xs with
  | nil => simp [Expr.ofBranches, Expr.Spans, CharSet.contains, CharSet.containsCode, CharSet.empty]
  | cons x rest ih =>
    cases rest with
    | nil => simp [Expr.ofBranches]
    | cons y rest =>
      rw [Expr.ofBranches, Expr.Spans, ih]
      · simp
      · exact List.cons_ne_nil y rest

theorem isLoopFree_ofParts {xs : List Expr} (h : ∀ x ∈ xs, x.isLoopFree = true) :
    (Expr.ofParts xs).isLoopFree = true := by
  cases xs with
  | nil => rfl
  | cons x rest =>
    exact isLoopFree_foldl_seq (h x List.mem_cons_self) fun y hy => h y (List.mem_cons_of_mem _ hy)

theorem isLoopFree_ofBranches {xs : List Expr} (h : ∀ x ∈ xs, x.isLoopFree = true) :
    (Expr.ofBranches xs).isLoopFree = true := by
  induction xs with
  | nil => rfl
  | cons x rest ih =>
    have hx := h x List.mem_cons_self
    have hrest := ih fun y hy => h y (List.mem_cons_of_mem _ hy)
    cases rest with
    | nil => exact hx
    | cons y rest => exact Bool.and_eq_true_iff.mpr ⟨hx, hrest⟩

theorem isLoopFree_of_mem_parts {x y : Expr} (h : x.isLoopFree = true) (hy : y ∈ x.parts) :
    y.isLoopFree = true := by
  induction x with
  | empty => cases hy
  | seq a b iha ihb =>
    obtain ⟨ha, hb⟩ := Bool.and_eq_true_iff.mp h
    rcases List.mem_append.mp hy with hy | hy
    · exact iha ha hy
    · exact ihb hb hy
  | _ =>
    rw [List.mem_singleton.mp hy]
    exact h

theorem isLoopFree_of_mem_branches {x y : Expr} (h : x.isLoopFree = true) (hy : y ∈ x.branches) :
    y.isLoopFree = true := by
  induction x with
  | alt a b iha ihb =>
    obtain ⟨ha, hb⟩ := Bool.and_eq_true_iff.mp h
    rcases List.mem_append.mp hy with hy | hy
    · exact iha ha hy
    · exact ihb hb hy
  | _ =>
    rw [List.mem_singleton.mp hy]
    exact h

/-! ## Literals -/

theorem spans_literal (cs : List Char) :
    (Expr.literal cs).Spans text i j ↔ SpansAll text (cs.map .char) i j :=
  spans_ofParts (cs.map .char)

theorem parts_literal (cs : List Char) : (Expr.literal cs).parts = cs.map .char := by
  refine (parts_ofParts (cs.map .char)).trans (flatMap_parts_eq_self fun x hx => ?_)
  obtain ⟨c, -, rfl⟩ := List.mem_map.mp hx
  rfl

/-- A literal of several characters is a sequence. -/
theorem exists_literal_eq_seq (c d : Char) (cs : List Char) :
    ∃ x y, Expr.literal (c :: d :: cs) = .seq x y := by
  have hseq : ∀ (xs : List Expr) (a b : Expr), ∃ x y, xs.foldl Expr.seq (.seq a b) = .seq x y := by
    intro xs
    induction xs with
    | nil => exact fun a b => ⟨a, b, rfl⟩
    | cons z rest ih => exact fun a b => ih (.seq a b) z
  exact hseq (cs.map .char) (.char c) (.char d)

theorem branches_literal (cs : List Char) : (Expr.literal cs).branches = [Expr.literal cs] := by
  match cs with
  | [] => rfl
  | [c] => rfl
  | c :: d :: cs =>
    obtain ⟨x, y, hxy⟩ := exists_literal_eq_seq c d cs
    rw [hxy]
    rfl

theorem flatMap_branches_literal (ws : List (List Char)) :
    (ws.map Expr.literal).flatMap Expr.branches = ws.map Expr.literal := by
  induction ws with
  | nil => rfl
  | cons w rest ih => rw [List.map_cons, List.flatMap_cons, branches_literal, ih]; rfl

theorem spans_ofBranches_literal (ws : List (List Char)) :
    (Expr.ofBranches (ws.map Expr.literal)).Spans text i j ↔
      ∃ w ∈ ws, (Expr.literal w).Spans text i j := by
  rw [spans_ofBranches]
  constructor
  · rintro ⟨x, hx, hspan⟩
    obtain ⟨w, hw, rfl⟩ := List.mem_map.mp hx
    exact ⟨w, hw, hspan⟩
  · rintro ⟨w, hw, hspan⟩
    exact ⟨_, List.mem_map.mpr ⟨w, hw, rfl⟩, hspan⟩

/-! ## Normal forms -/

/-- Single characters match what the set of them matches. -/
theorem spans_charSets? {ws : List (List Char)} {s : CharSet}
    (h : Expr.charSets? (ws.map Expr.literal) = some s) :
    s.IsSorted ∧ ∀ i j, (Expr.chars s).Spans text i j ↔
      ∃ w ∈ ws, (Expr.literal w).Spans text i j := by
  induction ws generalizing s with
  | nil =>
    cases h
    refine ⟨CharSet.isSorted_empty, fun i j => ?_⟩
    simp [Expr.Spans, CharSet.contains, CharSet.containsCode, CharSet.empty]
  | cons w rest ih =>
    rcases w with _ | ⟨c, _ | ⟨d, cs⟩⟩
    · cases h
    · obtain ⟨t, ht, rfl⟩ := Option.map_eq_some_iff.mp h
      obtain ⟨hsorted, hspans⟩ := ih ht
      have hc := CharSet.isSorted_singleton c
      refine ⟨CharSet.isSorted_union hc hsorted, fun i j => ?_⟩
      have hunion : (Expr.chars ((CharSet.singleton c).union t)).Spans text i j ↔
          (Expr.chars (.singleton c)).Spans text i j ∨ (Expr.chars t).Spans text i j := by
        simp only [Expr.Spans, CharSet.contains_union hc hsorted, ← and_or_left, ← exists_or]
      rw [hunion, hspans]
      simp only [List.mem_cons, exists_eq_or_imp]
      rfl
    · obtain ⟨x, y, hxy⟩ := exists_literal_eq_seq c d cs
      rw [List.map_cons, hxy] at h
      cases h

theorem commonStart_begins {α : Type} [DecidableEq α] (xs ys : List α) :
    Expr.commonStart xs ys <+: xs ∧ Expr.commonStart xs ys <+: ys := by
  induction xs generalizing ys with
  | nil => exact ⟨List.nil_prefix, List.nil_prefix⟩
  | cons x xs ih =>
    cases ys with
    | nil => exact ⟨List.nil_prefix, List.nil_prefix⟩
    | cons y ys =>
      unfold Expr.commonStart
      split
      · rename_i hxy
        subst hxy
        exact ⟨List.prefix_cons_inj x |>.mpr (ih ys).1, List.prefix_cons_inj x |>.mpr (ih ys).2⟩
      · exact ⟨List.nil_prefix, List.nil_prefix⟩

/-- The common beginning of several lists begins each of them. -/
theorem foldl_commonStart_begins {α : Type} [DecidableEq α] (p : List α) (ls : List (List α)) :
    ∀ l ∈ p :: ls, ls.foldl Expr.commonStart p <+: l := by
  induction ls generalizing p with
  | nil =>
    intro l hl
    rw [List.mem_singleton.mp hl]
    exact List.prefix_rfl
  | cons q rest ih =>
    intro l hl
    have hshared := ih (Expr.commonStart p q)
    rw [List.foldl_cons]
    rcases List.mem_cons.mp hl with rfl | hl
    · exact (hshared _ List.mem_cons_self).trans (commonStart_begins l q).1
    · rcases List.mem_cons.mp hl with rfl | hl
      · exact (hshared _ List.mem_cons_self).trans (commonStart_begins p l).2
      · exact hshared l (List.mem_cons_of_mem _ hl)

/-- The alternatives behind a common beginning of some length. -/
def rests (n : Nat) (xs : List Expr) : List Expr :=
  (xs.map fun x => Expr.ofParts (x.parts.drop n)).flatMap Expr.branches

/-- What the normal form of alternatives can be: a set, the alternatives themselves, or what
begins each of them followed by the normal form of the rests. -/
theorem factored_cases (fuel : Nat) (xs : List Expr) :
    (∃ s, Expr.charSets? xs = some s ∧ Expr.factored fuel xs = .chars s) ∨
    Expr.factored fuel xs = .ofBranches xs ∨
    ∃ n shared, fuel = n + 1 ∧ xs ≠ [] ∧ (∀ x ∈ xs, shared <+: x.parts) ∧
      Expr.factored fuel xs =
        .ofParts (shared ++ (Expr.factored n (rests shared.length xs)).parts) := by
  rw [Expr.factored.eq_def fuel xs]
  split
  · rename_i s hs
    split
    · exact .inr (.inl rfl)
    · exact .inl ⟨s, hs, rfl⟩
  · split
    · rename_i n p q rest hparts
      split
      · have hshared : ∀ x ∈ xs, (q :: rest).foldl Expr.commonStart p <+: x.parts := by
          intro x hx
          have hmem : x.parts ∈ p :: q :: rest := hparts ▸ List.mem_map.mpr ⟨x, hx, rfl⟩
          exact foldl_commonStart_begins p (q :: rest) x.parts hmem
        have hne : xs ≠ [] := by
          rintro rfl
          cases hparts
        split
        · exact .inr (.inl rfl)
        · refine .inr (.inr ⟨n, _, rfl, hne, hshared, ?_⟩)
          simp only [← hparts, List.map_map]
          rfl
      · exact .inr (.inl rfl)
    · exact .inr (.inl rfl)

theorem isLoopFree_factored {fuel : Nat} {xs : List Expr} (h : ∀ x ∈ xs, x.isLoopFree = true) :
    (Expr.factored fuel xs).isLoopFree = true := by
  induction fuel generalizing xs with
  | zero =>
    obtain ⟨s, -, heq⟩ | heq | ⟨n, -, hn, -⟩ := factored_cases 0 xs
    · rw [heq]
      rfl
    · rw [heq]
      exact isLoopFree_ofBranches h
    · cases hn
  | succ fuel ih =>
    obtain ⟨s, -, heq⟩ | heq | ⟨n, shared, hn, hne, hshared, heq⟩ := factored_cases (fuel + 1) xs
    · rw [heq]
      rfl
    · rw [heq]
      exact isLoopFree_ofBranches h
    · obtain rfl := Nat.succ.inj hn
      rw [heq]
      refine isLoopFree_ofParts fun y hy => ?_
      rcases List.mem_append.mp hy with hy | hy
      · obtain ⟨x, hx⟩ := List.exists_mem_of_ne_nil xs hne
        exact isLoopFree_of_mem_parts (h x hx) ((hshared x hx).subset hy)
      · refine isLoopFree_of_mem_parts (ih fun z hz => ?_) hy
        obtain ⟨r, hr, hz⟩ := List.mem_flatMap.mp hz
        obtain ⟨x, hx, rfl⟩ := List.mem_map.mp hr
        refine isLoopFree_of_mem_branches (isLoopFree_ofParts fun y hy => ?_) hz
        exact isLoopFree_of_mem_parts (h x hx) (List.mem_of_mem_drop hy)

/-- What is left of literals behind a common beginning are literals too. -/
theorem rests_literal (n : Nat) (ws : List (List Char)) :
    rests n (ws.map Expr.literal) = (ws.map (·.drop n)).map Expr.literal := by
  have hrests : ((ws.map Expr.literal).map fun x => Expr.ofParts (x.parts.drop n)) =
      (ws.map (·.drop n)).map Expr.literal := by
    rw [List.map_map, List.map_map]
    refine List.map_congr_left fun w _ => ?_
    rw [Function.comp_apply, parts_literal, ← List.map_drop]
    rfl
  rw [rests, hrests, flatMap_branches_literal]

/-- The normal form of literals matches what one of them matches. -/
theorem spans_factored (fuel : Nat) (ws : List (List Char)) (i j : Nat) :
    (Expr.factored fuel (ws.map Expr.literal)).Spans text i j ↔
      ∃ w ∈ ws, (Expr.literal w).Spans text i j := by
  -- on the fuel, for all words: what is left behind a common beginning are words again
  induction fuel generalizing ws i j with
  | zero =>
    obtain ⟨s, hs, heq⟩ | heq | ⟨n, -, hn, -⟩ := factored_cases 0 (ws.map Expr.literal)
    · rw [heq]
      exact (spans_charSets? hs).2 i j
    · rw [heq]
      exact spans_ofBranches_literal ws
    · cases hn
  | succ fuel ih =>
    obtain ⟨s, hs, heq⟩ | heq | ⟨n, shared, hn, -, hshared, heq⟩ :=
      factored_cases (fuel + 1) (ws.map Expr.literal)
    · rw [heq]
      exact (spans_charSets? hs).2 i j
    · rw [heq]
      exact spans_ofBranches_literal ws
    · obtain rfl := Nat.succ.inj hn
      have hword : ∀ w ∈ ws, shared ++ (w.drop shared.length).map Expr.char = w.map Expr.char := by
        intro w hw
        have hpre := hshared _ (List.mem_map.mpr ⟨w, hw, rfl⟩)
        rw [parts_literal] at hpre
        rw [List.map_drop]
        exact List.prefix_iff_eq_append.mp hpre
      rw [heq, rests_literal, spans_ofParts, spansAll_append]
      simp only [spansAll_parts, ih, spans_literal]
      constructor
      · rintro ⟨k, hk, v, hv, hrest⟩
        obtain ⟨w, hw, rfl⟩ := List.mem_map.mp hv
        exact ⟨w, hw, hword w hw ▸ (spansAll_append shared _ i j).mpr ⟨k, hk, hrest⟩⟩
      · rintro ⟨w, hw, hspan⟩
        rw [← hword w hw, spansAll_append] at hspan
        obtain ⟨k, hk, hrest⟩ := hspan
        exact ⟨k, hk, _, List.mem_map.mpr ⟨w, hw, rfl⟩, hrest⟩

/-! ## Reading -/

theorem escaped_of_plain {cs : List Char} (h : ∀ c ∈ cs, isPatternChar c = false) :
    escaped cs = cs := by
  induction cs with
  | nil => rfl
  | cons c rest ih =>
    have hrest := ih fun d hd => h d (List.mem_cons_of_mem _ hd)
    rw [escaped, List.flatMap_cons, h c List.mem_cons_self, if_neg Bool.false_ne_true]
    exact congrArg (c :: ·) hrest

/-- The part that a word is read as. -/
def Part.word (cs : List Char) : Part := .sequence (cs.map .char).reverse

theorem expr_word (cs : List Char) : (Part.word cs).expr = Expr.literal cs := by
  match cs with
  | [] => rfl
  | [c] => rfl
  | c :: d :: cs =>
    have hparts : ∀ x ∈ (c :: d :: cs).map Expr.char, x.parts = [x] := by
      intro x hx
      obtain ⟨c, -, rfl⟩ := List.mem_map.mp hx
      rfl
    have hexpr : ∀ ps : List Part, 2 ≤ ps.length → (Part.sequence ps.reverse).expr =
        Expr.sequence (ps.map (·.expr)) := by
      intro ps hps
      unfold Part.sequence
      split
      · rename_i h
        rw [List.reverse_eq_nil_iff.mp h] at hps
        cases hps
      · rename_i p h
        rw [List.reverse_eq_iff.mp h] at hps
        simp at hps
      · rw [List.reverse_reverse]
    rw [Part.word, hexpr _ (by simp), List.map_map, Expr.sequence]
    exact congrArg Expr.ofParts (flatMap_parts_eq_self hparts)

theorem step?_bar (st : State) (rest : List Char) :
    st.step? ('|' :: rest) =
      some ({ st with parts := [], branches := .sequence st.parts :: st.branches }, rest) := rfl

/-- Reading words that end with a bar adds a branch for each word. -/
theorem run?_words {st : State} (hf : st.flags = { dotAll := true }) (hparts : st.parts = [])
    {ws : List (List Char)} (hplain : ∀ w ∈ ws, ∀ c ∈ w, isPatternChar c = false)
    (rest : List Char) (fuel : Nat) :
    State.run? ((ws.flatMap (· ++ ['|'])).length + fuel) st (ws.flatMap (· ++ ['|']) ++ rest) =
      State.run? fuel { st with branches := (ws.map .word).reverse ++ st.branches } rest := by
  -- a bar leaves a state without parts again, which the next word starts from
  induction ws generalizing st with
  | nil => rw [List.flatMap_nil, List.length_nil, Nat.zero_add]; rfl
  | cons w ws ih =>
    have hskip : st.flags.skipsBlanks = false := by rw [hf]
    have hlen : ((w :: ws).flatMap (· ++ ['|'])).length + fuel =
        w.length + ((ws.flatMap (· ++ ['|'])).length + fuel + 1) := by
      rw [List.flatMap_cons, List.length_append, List.length_append, List.length_singleton]
      omega
    have htext : (w :: ws).flatMap (· ++ ['|']) ++ rest =
        escaped w ++ ('|' :: (ws.flatMap (· ++ ['|']) ++ rest)) := by
      rw [escaped_of_plain (hplain w List.mem_cons_self), List.flatMap_cons]
      simp
    rw [hlen, htext, run?_escaped hf, run?_of_step? (by exact hskip) (step?_bar _ _)]
    rw [ih (by exact hf) rfl fun v hv => hplain v (List.mem_cons_of_mem _ hv)]
    simp [Part.word, hparts]

/-- The words before the last one with their bars, and the last one. -/
def barred (init : List (List Char)) (last : List Char) : List Char :=
  init.flatMap (· ++ ['|']) ++ last

variable {init : List (List Char)} {last : List Char}

theorem run?_barred (hinit : ∀ w ∈ init, ∀ c ∈ w, isPatternChar c = false)
    (hlast : ∀ c ∈ last, isPatternChar c = false) :
    State.run? ((anchoredText (barred init last)).length + 1) {} (anchoredText (barred init last)) =
      some { parts :=
        enclosed (Part.alternatives (last.map .char).reverse (init.map .word).reverse) } := by
  have hlength : (anchoredText (barred init last)).length + 1 =
      (init.flatMap (· ++ ['|'])).length + (last.length + (3 + 3)) + 2 := by
    rw [anchoredText_eq, barred]
    simp only [List.length_cons, List.length_append, List.length_nil]
    omega
  have htext : barred init last ++ [')', '$'] =
      init.flatMap (· ++ ['|']) ++ (escaped last ++ [')', '$']) := by
    rw [barred, escaped_of_plain hlast, List.append_assoc]
  rw [hlength, run?_anchoredText, htext, run?_words rfl rfl hinit, run?_escaped (by rfl)]
  have hclose := run?_closing (last.map .char).reverse (init.map .word).reverse 0 3
  simpa [opened] using hclose

/-- A pattern of words is read as the normal form of their alternatives, from end to end. -/
theorem anchored?_barred (hinit : ∀ w ∈ init, ∀ c ∈ w, isPatternChar c = false)
    (hlast : ∀ c ∈ last, isPatternChar c = false) {r : Regex}
    (h : anchored? (String.ofList (barred init last)) = some r) :
    r = ⟨Expr.whole
      (Part.alternatives (last.map .char).reverse (init.map .word).reverse).expr.parts, []⟩ := by
  rw [anchored?, ofPattern?, String.toList_ofList, String.toList_ofList, read?,
    run?_barred hinit hlast] at h
  simp only [Option.bind_eq_bind, Option.bind_some, alternatives_closed] at h
  split at h
  · cases h
  · cases h
    rfl

/-- The alternatives that are read match what one of the words matches. -/
theorem spans_alternatives_words (init : List (List Char)) (last : List Char) (i j : Nat) :
    (Part.alternatives (last.map .char).reverse (init.map .word).reverse).expr.Spans text i j ↔
      ∃ w ∈ init ++ [last], (Expr.literal w).Spans text i j := by
  have hlast : (Part.sequence (last.map .char).reverse).expr = Expr.literal last := expr_word last
  rcases List.eq_nil_or_concat init with rfl | ⟨front, w, rfl⟩
  · simp [Part.alternatives, hlast]
  · have hwords : (fun p : Part => p.expr) ∘ Part.word = Expr.literal := funext expr_word
    have hexpr : (Part.alternatives (last.map .char).reverse
        ((front ++ [w]).map .word).reverse).expr =
        Expr.alternatives ((front ++ [w] ++ [last]).map Expr.literal) := by
      simp [Part.alternatives, hlast, expr_word, hwords]
    rw [List.concat_eq_append, hexpr, Expr.alternatives, flatMap_branches_literal]
    exact spans_factored _ _ i j

theorem isLoopFree_alternatives_words (init : List (List Char)) (last : List Char) :
    (Part.alternatives (last.map .char).reverse
      (init.map .word).reverse).expr.isLoopFree = true := by
  have hword : ∀ w, (Part.word w).expr.isLoopFree = true := by
    intro w
    rw [expr_word]
    refine isLoopFree_ofParts fun x hx => ?_
    obtain ⟨c, -, rfl⟩ := List.mem_map.mp hx
    rfl
  unfold Part.alternatives
  split
  · exact hword last
  · rename_i before _
    refine isLoopFree_factored fun x hx => ?_
    obtain ⟨y, hy, hx⟩ := List.mem_flatMap.mp hx
    obtain ⟨p, hp, rfl⟩ := List.mem_map.mp hy
    refine isLoopFree_of_mem_branches ?_ hx
    rcases List.mem_cons.mp (List.mem_reverse.mp hp) with rfl | hp
    · exact hword last
    · obtain ⟨w, -, rfl⟩ := List.mem_map.mp (List.mem_reverse.mp hp)
      exact hword w

theorem intercalate_bar (init : List (List Char)) (last : List Char) :
    ['|'].intercalate (init ++ [last]) = barred init last := by
  induction init with
  | nil => simp [barred]
  | cons w rest ih =>
    rw [List.cons_append, List.intercalate_cons_of_ne_nil (by simp), ih, barred, barred,
      List.flatMap_cons, List.append_assoc, List.append_assoc, List.append_assoc]

/-- A pattern of words between bars matches exactly the words. -/
theorem isMatch_words_iff {ws : List String} (hws : ws ≠ [])
    (hplain : ∀ w ∈ ws, ∀ c ∈ w.toList, isPatternChar c = false) {r : Regex}
    (h : anchored? ("|".intercalate ws) = some r) (text : String) :
    r.isMatch text = true ↔ text ∈ ws := by
  rcases List.eq_nil_or_concat ws with rfl | ⟨init, last, rfl⟩
  · exact (hws rfl).elim
  rw [List.concat_eq_append] at hplain h ⊢
  have hpattern : "|".intercalate (init ++ [last]) =
      String.ofList (barred (init.map String.toList) last.toList) := by
    rw [← String.toList_inj, String.toList_ofList, String.toList_intercalate, List.map_append,
      ← intercalate_bar]
    rfl
  have hinit : ∀ w ∈ init.map String.toList, ∀ c ∈ w, isPatternChar c = false := by
    intro w hw
    obtain ⟨v, hv, rfl⟩ := List.mem_map.mp hw
    exact hplain v (List.mem_append_left _ hv)
  have hlast : ∀ c ∈ last.toList, isPatternChar c = false :=
    hplain last (List.mem_append_right _ (List.mem_singleton_self last))
  rw [hpattern] at h
  obtain rfl := anchored?_barred hinit hlast h
  rw [isMatch_whole_iff fun x hx =>
      isLoopFree_of_mem_parts (isLoopFree_alternatives_words _ _) hx,
    spansAll_parts, spans_alternatives_words]
  simp only [spans_literal, spansAll_chars_whole_iff, exists_eq_right']
  rw [← List.map_singleton, ← List.map_append]
  exact List.mem_map_of_injective fun _ _ h => String.toList_injective h

end ScrapeJobs.Regex