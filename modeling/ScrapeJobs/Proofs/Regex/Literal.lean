import ScrapeJobs.Proofs.Regex.Spans
import ScrapeJobs.Relabel

/-!
# Literal patterns

A pattern made by `Relabel.literal` is read as the sequence of its characters between the
two ends of the text, unless it is too large (`anchored?_literal`), and such a sequence
matches one text only (`isMatch_whole_iff`). So a literal matches exactly the text it was
made from (`isMatch_literal_iff`).
-/

namespace ScrapeJobs.Regex

open Relabel

/-! ## Sequences from end to end -/

/-- Parts one after the other between the start and the end of the text. -/
def Expr.whole (xs : List Expr) : Expr :=
  ofParts (anchor .textStart :: (xs ++ [anchor .textEnd]))

/-- One part after the other from one place to another. -/
def SpansAll (text : Array Char) : List Expr → Nat → Nat → Prop
  | [], i, j => j = i
  | x :: rest, i, j => ∃ k, x.Spans text i k ∧ SpansAll text rest k j

theorem spans_foldl_seq {text : Array Char} (x : Expr) (xs : List Expr) (i j : Nat) :
    (xs.foldl Expr.seq x).Spans text i j ↔ ∃ k, x.Spans text i k ∧ SpansAll text xs k j := by
  induction xs generalizing x with
  | nil =>
    constructor
    · intro h
      exact ⟨j, h, rfl⟩
    · rintro ⟨k, h, rfl⟩
      exact h
  | cons y rest ih =>
    rw [List.foldl_cons, ih]
    constructor
    · rintro ⟨k, ⟨l, hx, hy⟩, hrest⟩
      exact ⟨l, hx, k, hy, hrest⟩
    · rintro ⟨l, hx, k, hy, hrest⟩
      exact ⟨k, ⟨l, hx, hy⟩, hrest⟩

theorem spansAll_append {text : Array Char} (xs ys : List Expr) (i j : Nat) :
    SpansAll text (xs ++ ys) i j ↔ ∃ k, SpansAll text xs i k ∧ SpansAll text ys k j := by
  induction xs generalizing i with
  | nil =>
    constructor
    · intro h
      exact ⟨i, rfl, h⟩
    · rintro ⟨k, rfl, h⟩
      exact h
  | cons x rest ih =>
    simp only [List.cons_append, SpansAll, ih]
    constructor
    · rintro ⟨k, hx, l, hrest, hys⟩
      exact ⟨l, ⟨k, hx, hrest⟩, hys⟩
    · rintro ⟨l, ⟨k, hx, hrest⟩, hys⟩
      exact ⟨k, hx, l, hrest, hys⟩

theorem spans_whole_iff {text : Array Char} (xs : List Expr) (i j : Nat) :
    (Expr.whole xs).Spans text i j ↔ i = 0 ∧ j = text.size ∧ SpansAll text xs 0 text.size := by
  rw [Expr.whole, Expr.ofParts, spans_foldl_seq]
  simp only [spansAll_append, SpansAll, Expr.Spans, Anchor.holds]
  constructor
  · rintro ⟨k, ⟨rfl, hi⟩, l, hxs, m, ⟨rfl, hl⟩, rfl⟩
    obtain rfl := of_decide_eq_true hi
    obtain rfl := of_decide_eq_true hl
    exact ⟨rfl, rfl, hxs⟩
  · rintro ⟨rfl, rfl, hxs⟩
    exact ⟨0, ⟨rfl, rfl⟩, text.size, hxs, text.size, ⟨rfl, decide_eq_true rfl⟩, rfl⟩

theorem isLoopFree_foldl_seq {x : Expr} {xs : List Expr} (hx : x.isLoopFree = true)
    (hxs : ∀ y ∈ xs, y.isLoopFree = true) : (xs.foldl Expr.seq x).isLoopFree = true := by
  induction xs generalizing x with
  | nil => exact hx
  | cons y rest ih =>
    refine ih ?_ fun z hz => hxs z (List.mem_cons_of_mem _ hz)
    exact Bool.and_eq_true_iff.mpr ⟨hx, hxs y List.mem_cons_self⟩

theorem isLoopFree_whole {xs : List Expr} (h : ∀ x ∈ xs, x.isLoopFree = true) :
    (Expr.whole xs).isLoopFree = true := by
  refine isLoopFree_foldl_seq rfl fun y hy => ?_
  rcases List.mem_append.mp hy with hy | hy
  · exact h y hy
  · rw [List.mem_singleton.mp hy]
    rfl

/-- What is tied to both ends matches the whole text or nothing. -/
theorem isMatch_whole_iff {xs : List Expr} (h : ∀ x ∈ xs, x.isLoopFree = true)
    (names : List (String × Nat)) (text : String) :
    (Regex.mk (Expr.whole xs) names).isMatch text = true ↔
      SpansAll text.toList.toArray xs 0 text.toList.length := by
  rw [isMatch_iff (isLoopFree_whole h)]
  simp only [spans_whole_iff, List.size_toArray]
  constructor
  · rintro ⟨i, j, -, -, -, hxs⟩
    exact hxs
  · intro hxs
    exact ⟨0, _, Nat.zero_le _, rfl, rfl, hxs⟩

/-! ## Single characters -/

/-- The expression of one character. -/
def Expr.char (c : Char) : Expr := chars (.singleton c)

theorem contains_singleton (c d : Char) : (CharSet.singleton c).contains d = true ↔ d = c := by
  simp only [CharSet.contains, CharSet.containsCode, CharSet.singleton, List.any_cons,
    List.any_nil, Bool.or_false, Bool.and_eq_true, decide_eq_true_eq]
  rw [← Char.toNat_inj]
  omega

theorem cons_prefix_drop_iff {α : Type} (a : α) (as l : List α) (i : Nat) :
    a :: as <+: l.drop i ↔ l[i]? = some a ∧ as <+: l.drop (i + 1) := by
  by_cases hi : i < l.length
  · rw [List.drop_eq_getElem_cons hi, List.cons_prefix_cons, List.getElem?_eq_getElem hi]
    simp [eq_comm]
  · rw [List.drop_eq_nil_of_le (by omega), List.getElem?_eq_none (by omega)]
    simp

theorem spansAll_chars_iff (text cs : List Char) (i j : Nat) :
    SpansAll text.toArray (cs.map .char) i j ↔ j = i + cs.length ∧ cs <+: text.drop i := by
  induction cs generalizing i with
  | nil => simp [SpansAll]
  | cons c rest ih =>
    rw [cons_prefix_drop_iff, List.map_cons, SpansAll]
    constructor
    · rintro ⟨k, ⟨rfl, d, hd, hc⟩, hrest⟩
      obtain ⟨rfl, hpre⟩ := (ih _).mp hrest
      rw [contains_singleton] at hc
      subst hc
      exact ⟨by rw [List.length_cons]; omega, by simpa using hd, hpre⟩
    · rintro ⟨rfl, hd, hpre⟩
      refine ⟨i + 1, ⟨rfl, c, by simpa using hd, (contains_singleton c c).mpr rfl⟩, ?_⟩
      exact (ih _).mpr ⟨by rw [List.length_cons]; omega, hpre⟩

/-- A text spans the whole of another one only if they are the same. -/
theorem spansAll_chars_whole_iff (text cs : List Char) :
    SpansAll text.toArray (cs.map .char) 0 text.length ↔ text = cs := by
  rw [spansAll_chars_iff, List.drop_zero, Nat.zero_add]
  constructor
  · rintro ⟨hlen, hpre⟩
    exact (hpre.eq_of_length hlen.symm).symm
  · rintro rfl
    exact ⟨rfl, List.prefix_rfl⟩

/-! ## Reading -/

/-- The part that a character is read as. -/
def Part.char (c : Char) : Part := { expr := .char c, size := 32 * c.utf8Size }

/-- A text with its pattern characters escaped. -/
def escaped (cs : List Char) : List Char :=
  cs.flatMap fun c => if isPatternChar c then ['\\', c] else [c]

theorem toList_literal (s : String) : (Relabel.literal s).toList = escaped s.toList :=
  String.toList_ofList

theorem step?_plain {st : State} (hf : st.flags = { dotAll := true }) {c : Char}
    (hc : isPatternChar c = false) (rest : List Char) :
    st.step? (c :: rest) = some (st.push (.char c), rest) := by
  unfold State.step?
  split
  case h_1 h => cases h
  case h_14 h =>
    obtain ⟨rfl, rfl⟩ := List.cons.inj h
    simp [hf, Flags.part?, Part.char, Expr.char]
  all_goals
    rename_i h
    obtain ⟨rfl, -⟩ := List.cons.inj h
    exact absurd hc (by decide)

theorem step?_escape {st : State} (hf : st.flags = { dotAll := true }) {c : Char}
    (hc : isPatternChar c = true) (rest : List Char) :
    st.step? ('\\' :: c :: rest) = some (st.push (.char c), rest) := by
  have hescape : ({ dotAll := true } : Flags).escape? (c :: rest) = some (.char c false, rest) := by
    simp only [isPatternChar, List.contains_iff_mem] at hc
    simp at hc
    rcases hc with rfl | rfl | rfl | rfl | rfl | rfl | rfl | rfl | rfl | rfl | rfl | rfl | rfl | rfl
    all_goals rfl
  simp [State.step?, hescape, hf, Flags.part?, Part.char, Expr.char]

theorem run?_of_step? {st st' : State} (hf : st.flags.skipsBlanks = false) {c : Char}
    {cs rest : List Char} (h : st.step? (c :: cs) = some (st', rest)) (fuel : Nat) :
    State.run? (fuel + 1) st (c :: cs) = State.run? fuel st' rest := by
  simp [State.run?, Flags.skip, hf, h]

theorem escaped_cons (c : Char) (cs rest : List Char) :
    escaped (c :: cs) ++ rest =
      (if isPatternChar c then ['\\', c] else [c]) ++ (escaped cs ++ rest) := by
  rw [escaped, List.flatMap_cons, List.append_assoc]
  rfl

/-- Reading an escaped text adds one part for each character, and takes no step more. -/
theorem run?_escaped {st : State} (hf : st.flags = { dotAll := true }) (cs rest : List Char)
    (fuel : Nat) :
    State.run? (cs.length + fuel) st (escaped cs ++ rest) =
      State.run? fuel { st with parts := (cs.map .char).reverse ++ st.parts } rest := by
  induction cs generalizing st with
  | nil => rw [List.length_nil, Nat.zero_add]; rfl
  | cons c cs ih =>
    have hskip : st.flags.skipsBlanks = false := by rw [hf]
    have hlen : (c :: cs).length + fuel = (cs.length + fuel) + 1 := by
      rw [List.length_cons]
      omega
    have hparts : ((c :: cs).map Part.char).reverse ++ st.parts =
        (cs.map Part.char).reverse ++ (st.push (.char c)).parts := by
      simp [State.push]
    have hstep : State.run? (cs.length + fuel + 1) st (escaped (c :: cs) ++ rest) =
        State.run? (cs.length + fuel) (st.push (.char c)) (escaped cs ++ rest) := by
      rw [escaped_cons]
      cases hc : isPatternChar c with
      | true => exact run?_of_step? hskip (step?_escape hf hc _) _
      | false => exact run?_of_step? hskip (step?_plain hf hc _) _
    rw [hlen, hparts, hstep]
    exact @ih (st.push (.char c)) hf

/-- What is read when the pattern of an anchored text begins. -/
def opened : State where
  flags := { dotAll := true }
  groups := [⟨none, {}, [{ expr := .anchor .textStart, size := 32 }], []⟩]

theorem anchoredText_eq (p : List Char) :
    anchoredText p = '^' :: '(' :: '?' :: 's' :: ':' :: (p ++ [')', '$']) := rfl

theorem run?_anchoredText (p : List Char) (fuel : Nat) :
    State.run? (fuel + 2) {} (anchoredText p) = State.run? fuel opened (p ++ [')', '$']) := by
  rw [anchoredText_eq]
  rfl

/-- The parts of an anchored text, latest first: its pattern in a group between the two ends. -/
def enclosed (body : Part) : List Part := [
  { expr := .anchor .textEnd, size := 32 },
  { body with depth := body.depth + 1, setsFlags := false },
  { expr := .anchor .textStart, size := 32 }]

/-- What is read when an anchored text ends. -/
theorem run?_closing (ps bs : List Part) (count fuel : Nat) :
    State.run? (fuel + 3) { opened with parts := ps, branches := bs, count } [')', '$'] =
      some { parts := enclosed (Part.alternatives ps bs), count } := by
  rfl

/-! ## The expression that is read -/

theorem parts_foldl_seq (x : Expr) (xs : List Expr) :
    (xs.foldl Expr.seq x).parts = x.parts ++ xs.flatMap Expr.parts := by
  induction xs generalizing x with
  | nil => simp
  | cons y rest ih =>
    rw [List.foldl_cons, ih, Expr.parts, List.flatMap_cons, List.append_assoc]

theorem parts_ofParts (xs : List Expr) : (Expr.ofParts xs).parts = xs.flatMap Expr.parts := by
  cases xs with
  | nil => rfl
  | cons x rest => rw [Expr.ofParts, parts_foldl_seq, List.flatMap_cons]

theorem flatMap_parts_eq_self {xs : List Expr} (h : ∀ x ∈ xs, x.parts = [x]) :
    xs.flatMap Expr.parts = xs := by
  induction xs with
  | nil => rfl
  | cons x rest ih =>
    rw [List.flatMap_cons, h x List.mem_cons_self, ih fun y hy => h y (List.mem_cons_of_mem _ hy)]
    rfl

/-- The sequence of parts that are no sequences themselves. -/
theorem parts_sequence {ps : List Part} (h : ∀ p ∈ ps, p.expr.parts = [p.expr]) :
    (Part.sequence ps).expr.parts = ps.reverse.map (·.expr) := by
  cases ps with
  | nil => rfl
  | cons p rest =>
    cases rest with
    | nil => exact h p List.mem_cons_self
    | cons q rest =>
      have hparts : ∀ x ∈ (p :: q :: rest).reverse.map (·.expr), x.parts = [x] := by
        intro x hx
        obtain ⟨r, hr, rfl⟩ := List.mem_map.mp hx
        exact h r (List.mem_reverse.mp hr)
      have hexpr : (Part.sequence (p :: q :: rest)).expr =
          Expr.sequence ((p :: q :: rest).reverse.map (·.expr)) := rfl
      rw [hexpr, Expr.sequence, flatMap_parts_eq_self hparts, parts_ofParts,
        flatMap_parts_eq_self hparts]

theorem foldl_max_eq_zero {l : List Nat} (h : ∀ n ∈ l, n = 0) : l.foldl max 0 = 0 := by
  induction l with
  | nil => rfl
  | cons n rest ih =>
    rw [List.foldl_cons, h n List.mem_cons_self, Nat.max_self]
    exact ih fun m hm => h m (List.mem_cons_of_mem _ hm)

theorem depth_sequence_le {ps : List Part} (h : ∀ p ∈ ps, p.depth = 0) :
    (Part.sequence ps).depth ≤ 1 := by
  cases ps with
  | nil => exact Nat.zero_le 1
  | cons p rest =>
    cases rest with
    | nil => exact Nat.le_succ_of_le (Nat.le_of_eq (h p List.mem_cons_self))
    | cons q rest =>
      have hzero : ((p :: q :: rest).map (·.depth)).foldl max 0 = 0 := by
        refine foldl_max_eq_zero fun n hn => ?_
        obtain ⟨r, hr, rfl⟩ := List.mem_map.mp hn
        exact h r hr
      have hdepth : (Part.sequence (p :: q :: rest)).depth =
          ((p :: q :: rest).map (·.depth)).foldl max 0 + 1 := rfl
      exact Nat.le_of_eq (hdepth.trans (congrArg (· + 1) hzero))

/-- The size of a literal pattern. -/
def literalSize (cs : List Char) : Nat := (Part.sequence (cs.map .char).reverse).size + 64

theorem length_le_length_escaped (cs : List Char) : cs.length ≤ (escaped cs).length := by
  induction cs with
  | nil => exact Nat.le_refl 0
  | cons c rest ih =>
    rw [escaped, List.flatMap_cons, List.length_append]
    have : 1 ≤ (if isPatternChar c then ['\\', c] else [c]).length := by split <;> simp
    rw [List.length_cons, Nat.add_comm]
    exact Nat.add_le_add this ih

theorem run?_literal (cs : List Char) :
    State.run? ((anchoredText (escaped cs)).length + 1) {} (anchoredText (escaped cs)) =
      some { parts := enclosed (Part.sequence (cs.map .char).reverse) } := by
  obtain ⟨n, hn⟩ := Nat.exists_eq_add_of_le (length_le_length_escaped cs)
  have hlength : (anchoredText (escaped cs)).length + 1 = cs.length + ((n + 3) + 3) + 2 := by
    rw [anchoredText_eq]
    simp only [List.length_cons, List.length_append, List.length_nil]
    omega
  rw [hlength, run?_anchoredText, run?_escaped rfl]
  have hclose := run?_closing (cs.map .char).reverse [] 0 (n + 3)
  simpa [opened, Part.alternatives] using hclose

theorem parts_sequence_chars (cs : List Char) :
    (Part.sequence (cs.map Part.char).reverse).expr.parts = cs.map .char := by
  rw [parts_sequence]
  · rw [List.reverse_reverse, List.map_map]
    rfl
  · intro p hp
    obtain ⟨c, -, rfl⟩ := List.mem_map.mp (List.mem_reverse.mp hp)
    rfl

theorem depth_sequence_chars_le (cs : List Char) :
    (Part.sequence (cs.map Part.char).reverse).depth ≤ 1 := by
  refine depth_sequence_le fun p hp => ?_
  obtain ⟨c, -, rfl⟩ := List.mem_map.mp (List.mem_reverse.mp hp)
  rfl

/-- What stands between two anchors is read from end to end. -/
theorem alternatives_closed (body : Part) :
    Part.alternatives (enclosed body) [] = {
      expr := .whole body.expr.parts
      depth := body.depth + 2
      size := body.size + 64 } := by
  simp [enclosed, Part.alternatives, Part.sequence, Expr.sequence, Expr.whole, Expr.parts]
  omega

theorem read?_literal (cs : List Char) :
    read? (anchoredText (escaped cs)) =
      if sizeLimit < literalSize cs then none
      else some (Expr.whole (cs.map .char), []) := by
  have hdepth : ¬ depthLimit < (Part.sequence (cs.map .char).reverse).depth + 2 := by
    have := depth_sequence_chars_le cs
    rw [depthLimit]
    omega
  rw [read?, run?_literal]
  simp only [Option.bind_eq_bind, Option.bind_some, alternatives_closed, hdepth, false_or,
    parts_sequence_chars]
  rfl

/-- A literal pattern is read as its characters, unless there are too many. -/
theorem anchored?_literal (s : String) :
    anchored? (Relabel.literal s) =
      if sizeLimit < literalSize s.toList then none
      else some ⟨Expr.whole (s.toList.map .char), []⟩ := by
  rw [anchored?, ofPattern?, String.toList_ofList, toList_literal, read?_literal]
  split <;> rfl

/-- A literal pattern matches exactly the text it was made from. -/
theorem isMatch_literal_iff {s : String} {r : Regex}
    (h : anchored? (Relabel.literal s) = some r) (text : String) :
    r.isMatch text = true ↔ text = s := by
  rw [anchored?_literal] at h
  split at h
  · cases h
  · cases h
    rw [isMatch_whole_iff, spansAll_chars_whole_iff, String.toList_inj]
    intro x hx
    obtain ⟨c, -, rfl⟩ := List.mem_map.mp hx
    rfl

/-- Every text that is not too large has a literal pattern, which matches this text only. -/
theorem exists_anchored?_literal {s : String} (h : literalSize s.toList ≤ sizeLimit) :
    ∃ r, anchored? (Relabel.literal s) = some r ∧ ∀ text, r.isMatch text = true ↔ text = s := by
  have hread : anchored? (Relabel.literal s) = some ⟨Expr.whole (s.toList.map .char), []⟩ := by
    rw [anchored?_literal, if_neg (Nat.not_lt.mpr h)]
  exact ⟨_, hread, isMatch_literal_iff hread⟩

/-- A text of pattern characters, blanks and lines is told from the same text without its end. -/
theorem exists_anchored?_literal_sample :
    literalSize "a-b #&~ .+*?()|[]\x7b2\x7d^$\\\té\n".toList ≤ sizeLimit ∧
    ∃ r, anchored? (Relabel.literal "a-b #&~ .+*?()|[]\x7b2\x7d^$\\\té\n") = some r ∧
      r.isMatch "a-b #&~ .+*?()|[]\x7b2\x7d^$\\\té\n" = true ∧
      r.isMatch "a-b #&~ .+*?()|[]\x7b2\x7d^$\\\té" = false := by
  have hsize : literalSize "a-b #&~ .+*?()|[]\x7b2\x7d^$\\\té\n".toList ≤ sizeLimit := by decide
  obtain ⟨r, hr, hmatch⟩ := exists_anchored?_literal hsize
  refine ⟨hsize, r, hr, (hmatch _).mpr rfl, ?_⟩
  rw [← Bool.not_eq_true, hmatch]
  decide

end ScrapeJobs.Regex
