import ScrapeJobs.Regex

/-!
# What expressions match

`Expr.Spans text x i j` says, without any order of preference, that `x` matches the
characters of `text` from place `i` to place `j`. The search of `ScrapeJobs.Regex.Search`
follows one way to each end and refuses to pass a choice twice at one place.

* `passed_of_mem_arrivals`: the ways of an expression pass choices inside it only.
* `spans_of_mem_arrivals`: each arrival of an expression without loops is the end of a span.
* `exists_arrival_of_spans`: each span of such an expression has an arrival, as long as no
  choice of the expression was passed before.
* `isMatch_iff`: so a search succeeds exactly if some span exists.
-/

namespace ScrapeJobs.Regex

/-! ## Spans -/

/-- From `i` to `j` in `n` steps of a relation. -/
def Rounds (R : Nat → Nat → Prop) : Nat → Nat → Nat → Prop
  | 0, i, j => j = i
  | n + 1, i, j => ∃ k, R i k ∧ Rounds R n k j

/-- The expression matches the text from one place to another. -/
def Expr.Spans (text : Array Char) : Expr → Nat → Nat → Prop
  | empty, i, j => j = i
  | chars s, i, j => j = i + 1 ∧ ∃ c, text[i]? = some c ∧ s.contains c = true
  | anchor a, i, j => j = i ∧ a.holds text i = true
  | group _ x, i, j => x.Spans text i j
  | seq x y, i, j => ∃ k, x.Spans text i k ∧ y.Spans text k j
  | alt x y, i, j => x.Spans text i j ∨ y.Spans text i j
  | «repeat» x min max _, i, j =>
    ∃ n, min ≤ n ∧ (∀ m, max = some m → n ≤ m) ∧ Rounds (x.Spans text) n i j

/-- The expression has no repetition in it. -/
def Expr.isLoopFree : Expr → Bool
  | empty | chars _ | anchor _ => true
  | group _ x => x.isLoopFree
  | seq x y | alt x y => x.isLoopFree && y.isLoopFree
  | «repeat» .. => false

/-! ## First arrivals -/

theorem mem_of_mem_firsts {a : Arrival} {seen : Nat} {as : List Arrival}
    (h : a ∈ firsts seen as) : a ∈ as := by
  induction as generalizing seen with
  | nil => simp [firsts] at h
  | cons b rest ih =>
    unfold firsts at h
    split at h
    · exact List.mem_cons_of_mem _ (ih h)
    · rcases List.mem_cons.mp h with rfl | h
      · exact List.mem_cons_self
      · exact List.mem_cons_of_mem _ (ih h)

theorem testBit_or_shiftLeft (seen i j : Nat) :
    (seen ||| 1 <<< i).testBit j = (seen.testBit j || decide (i = j)) := by
  rw [Nat.testBit_or, Nat.one_shiftLeft, Nat.testBit_two_pow]

/-- Only arrivals at a place that has one already are left out. -/
theorem exists_mem_firsts {a : Arrival} {seen : Nat} {as : List Arrival} (h : a ∈ as)
    (hseen : seen.testBit a.pos = false) : ∃ b ∈ firsts seen as, b.pos = a.pos := by
  induction as generalizing seen with
  | nil => cases h
  | cons c rest ih =>
    unfold firsts
    split
    · rename_i hc
      rcases List.mem_cons.mp h with rfl | h
      · rw [hseen] at hc
        cases hc
      · exact ih h hseen
    · by_cases hpos : c.pos = a.pos
      · exact ⟨c, List.mem_cons_self, hpos⟩
      · rcases List.mem_cons.mp h with rfl | h
        · exact (hpos rfl).elim
        · have hseen' : (seen ||| 1 <<< c.pos).testBit a.pos = false := by
            rw [testBit_or_shiftLeft, hseen, Bool.false_or, decide_eq_false hpos]
          obtain ⟨b, hb, hbpos⟩ := ih h hseen'
          exact ⟨b, List.mem_cons_of_mem _ hb, hbpos⟩

theorem exists_of_mem_goOn {w : Ways} {p : Path} {as : List Arrival} {b : Arrival}
    (h : b ∈ w.goOn p as) : ∃ a ∈ as, ∃ c ∈ w p a.pos a.passed, a.andThen c = b := by
  obtain ⟨a, ha, hb⟩ := List.mem_flatMap.mp (mem_of_mem_firsts h)
  obtain ⟨c, hc, hcb⟩ := List.mem_map.mp hb
  exact ⟨a, ha, c, hc, hcb⟩

theorem exists_mem_goOn {w : Ways} {p : Path} {as : List Arrival} {a c : Arrival}
    (ha : a ∈ as) (hc : c ∈ w p a.pos a.passed) : ∃ b ∈ w.goOn p as, b.pos = c.pos := by
  have hmem : a.andThen c ∈ as.flatMap fun a => (w p a.pos a.passed).map a.andThen :=
    List.mem_flatMap.mpr ⟨a, ha, List.mem_map.mpr ⟨c, hc, rfl⟩⟩
  exact exists_mem_firsts (a := a.andThen c) hmem (Nat.zero_testBit _)

/-! ## Choices that were passed -/

theorem not_suffix_sibling {m n : Nat} (hmn : m ≠ n) {p q : Path} (hm : (m :: p) <:+ q) :
    ¬ (n :: p) <:+ q := by
  intro hn
  have h := List.suffix_of_suffix_length_le hm hn (by simp)
  have := h.eq_of_length (by simp)
  exact hmn (List.cons.inj this).1

theorem suffix_of_cons_suffix {n : Nat} {p q : Path} (h : (n :: p) <:+ q) : p <:+ q :=
  (List.suffix_cons n p).trans h

/-- Arrivals have passed no choices but some that were passed before and some below a path. -/
def PassBelow (p : Path) (passed : List Path) (as : List Arrival) : Prop :=
  ∀ a ∈ as, ∀ q ∈ a.passed, q ∈ passed ∨ p <:+ q

/-- Choices are passed below the path that the ways start from. -/
def Ways.IsLocal (w : Ways) : Prop := ∀ p i passed, PassBelow p passed (w p i passed)

section Below

variable {w v : Ways} {p q : Path} {passed : List Path} {as bs : List Arrival} {a : Arrival}

theorem PassBelow.singleton (h : ∀ r ∈ a.passed, r ∈ passed ∨ p <:+ r) :
    PassBelow p passed [a] := by
  intro b hb
  rw [List.mem_singleton.mp hb]
  exact h

theorem PassBelow.cons (ha : ∀ r ∈ a.passed, r ∈ passed ∨ p <:+ r)
    (h : PassBelow p passed as) : PassBelow p passed (a :: as) :=
  List.forall_mem_cons.mpr ⟨ha, h⟩

theorem PassBelow.firsts {seen : Nat} (h : PassBelow p passed as) :
    PassBelow p passed (firsts seen as) :=
  fun b hb => h b (mem_of_mem_firsts hb)

theorem PassBelow.of_suffix (hpq : p <:+ q) (h : PassBelow q passed as) :
    PassBelow p passed as :=
  fun b hb r hr => (h b hb r hr).imp_right hpq.trans

theorem PassBelow.goOn (hw : w.IsLocal) (hpq : p <:+ q) (h : PassBelow p passed as) :
    PassBelow p passed (w.goOn q as) := by
  intro b hb r hr
  obtain ⟨a, ha, c, hc, rfl⟩ := exists_of_mem_goOn hb
  rcases hw q a.pos a.passed c hc r hr with hr | hr
  · exact h a ha r hr
  · exact .inr (hpq.trans hr)

theorem Ways.isLocal_stay : stay.IsLocal := fun _ _ _ => .singleton fun _ hr => .inl hr

theorem Ways.IsLocal.alt (hv : v.IsLocal) (hw : w.IsLocal) : (v.alt w).IsLocal := by
  intro p i passed
  unfold Ways.alt
  split
  · exact fun b hb => (List.not_mem_nil hb).elim
  · have hbranch : ∀ {u : Ways} (n : Nat), u.IsLocal →
        PassBelow p passed (u (n :: p) i (p :: passed)) := by
      intro u n hu b hb r hr
      rcases hu _ _ _ b hb r hr with hr | hr
      · rcases List.mem_cons.mp hr with rfl | hr
        · exact .inr List.suffix_rfl
        · exact .inl hr
      · exact .inr (suffix_of_cons_suffix hr)
    refine PassBelow.firsts fun b hb => ?_
    rcases List.mem_append.mp hb with hb | hb
    · exact hbranch 0 hv b hb
    · exact hbranch 1 hw b hb

theorem Ways.IsLocal.times (hw : w.IsLocal) (n : Nat) : (w.times n).IsLocal := by
  intro p i passed
  have hgoOn : ∀ {ks : List Nat} {as : List Arrival}, PassBelow p passed as →
      PassBelow p passed (ks.foldl (fun as k => w.goOn (k :: 0 :: p) as) as) := by
    intro ks
    induction ks with
    | nil => exact fun h => h
    | cons k rest ih =>
      intro as h
      exact ih (h.goOn hw (List.suffix_append [k, 0] p))
  exact hgoOn (.singleton fun _ hr => .inl hr)

/-- A loop passes its own choice and those of its body; the induction is on the fuel. -/
theorem PassBelow.more (hw : w.IsLocal) {greedy : Bool} {places : Nat} {level : Nat → Nat}
    {body : Nat → Path} (hbody : ∀ k, p <:+ body k) {fuel : Nat}
    (ha : ∀ r ∈ a.passed, r ∈ passed ∨ p <:+ r) {state : List Arrival × Nat}
    (h : PassBelow p passed state.1) :
    PassBelow p passed (w.more greedy places level body p fuel a state).1 := by
  induction fuel generalizing a state with
  | zero => exact .cons ha h
  | succ fuel ih =>
    have hchoice : ∀ r ∈ (level (fuel + 1) :: 1 :: p) :: a.passed, r ∈ passed ∨ p <:+ r := by
      intro r hr
      rcases List.mem_cons.mp hr with rfl | hr
      · exact .inr (List.suffix_append [level (fuel + 1), 1] p)
      · exact ha r hr
    have hagain : ∀ {bs : List Arrival} {state : List Arrival × Nat},
        PassBelow p passed bs → PassBelow p passed state.1 →
        PassBelow p passed (bs.foldl (fun state b =>
          w.more greedy places level body p fuel (a.andThen b) state) state).1 := by
      intro bs
      induction bs with
      | nil => exact fun _ h => h
      | cons b rest ihb =>
        intro state hbs h
        obtain ⟨hb, hrest⟩ := List.forall_mem_cons.mp hbs
        exact ihb hrest (ih (a := a.andThen b) hb h)
    have hround : PassBelow p passed (w (body (fuel + 1)) a.pos
        ((level (fuel + 1) :: 1 :: p) :: a.passed)) := by
      intro b hb r hr
      rcases hw _ _ _ b hb r hr with hr | hr
      · exact hchoice r hr
      · exact .inr ((hbody _).trans hr)
    unfold Ways.more
    simp only
    split
    · exact h
    · cases greedy with
      | true => exact .cons hchoice (hagain hround h)
      | false => exact hagain hround (.cons hchoice h)

theorem PassBelow.foldl_more (hw : w.IsLocal) {greedy : Bool} {places : Nat}
    {level : Nat → Nat} {body : Nat → Path} (hbody : ∀ k, p <:+ body k) {fuel : Nat}
    (has : PassBelow p passed as) :
    PassBelow p passed (Regex.firsts 0 (as.foldl (fun state a =>
      w.more greedy places level body p fuel a state) ([], 0)).1.reverse) := by
  have hfold : ∀ {as : List Arrival} {state : List Arrival × Nat}, PassBelow p passed as →
      PassBelow p passed state.1 → PassBelow p passed (as.foldl (fun state a =>
        w.more greedy places level body p fuel a state) state).1 := by
    intro as
    induction as with
    | nil => exact fun _ h => h
    | cons a rest ih =>
      intro state has h
      obtain ⟨ha, hrest⟩ := List.forall_mem_cons.mp has
      exact ih hrest (.more hw hbody ha h)
  refine PassBelow.firsts fun b hb => ?_
  exact hfold has (fun b hb => (List.not_mem_nil hb).elim) b (List.mem_reverse.mp hb)

theorem Ways.IsLocal.repeat (hw : w.IsLocal) (size : Nat) (consumes : Bool) (min : Nat)
    (max : Option Nat) (greedy : Bool) : (w.repeat size consumes min max greedy).IsLocal := by
  have hloop : ∀ {as p passed k}, PassBelow p passed as →
      PassBelow p passed (w.loop greedy size (k :: p) p as) := by
    intro as p passed k h
    exact .foldl_more hw (fun _ => List.suffix_cons k p) h
  have hoptional : Ways.IsLocal fun q i passed =>
      w.loop greedy size (0 :: q) q (w (0 :: q) i passed) :=
    fun q i passed => hloop (.of_suffix (List.suffix_cons 0 q) (hw _ _ _))
  intro p i passed
  unfold Ways.repeat
  split
  · exact .foldl_more hw (fun k => List.suffix_append [k, 2] p) (hw.times min p i passed)
  · split
    · split
      · exact .foldl_more hw (fun _ => List.suffix_append [0, 2] p) (.singleton fun _ hr => .inl hr)
      · cases greedy with
        | true => exact hoptional.alt isLocal_stay p i passed
        | false => exact isLocal_stay.alt hoptional p i passed
    · rename_i n
      exact .foldl_more hw (fun _ => List.suffix_append [n, 0] p) (hw.times (n + 1) p i passed)

end Below

theorem isLocal_arrivals (text : Array Char) (x : Expr) : (x.arrivals text).IsLocal := by
  induction x with
  | empty => exact Ways.isLocal_stay
  | chars s =>
    intro p i passed a ha q hq
    simp only [Expr.arrivals] at ha
    split at ha
    · split at ha
      · rw [List.mem_singleton] at ha
        subst ha
        cases hq
      · cases ha
    · cases ha
  | anchor c =>
    intro p i passed a ha q hq
    simp only [Expr.arrivals] at ha
    split at ha
    · rw [List.mem_singleton] at ha
      subst ha
      exact .inl hq
    · cases ha
  | group n x ih =>
    intro p i passed a ha q hq
    simp only [Expr.arrivals, List.mem_map] at ha
    obtain ⟨b, hb, rfl⟩ := ha
    exact ih p i passed b hb q hq
  | seq x y ihx ihy =>
    intro p i passed
    exact PassBelow.goOn ihy (List.suffix_cons 1 p) (.of_suffix (List.suffix_cons 0 p) (ihx _ _ _))
  | alt x y ihx ihy => exact ihx.alt ihy
  | «repeat» x min max greedy ih => exact ih.repeat text.size x.consumes min max greedy

/-- What an arrival has passed it has passed before or inside the expression. -/
theorem passed_of_mem_arrivals {text : Array Char} {x : Expr} {p : Path} {i : Nat}
    {passed : List Path} {a : Arrival} (ha : a ∈ x.arrivals text p i passed) {q : Path}
    (hq : q ∈ a.passed) : q ∈ passed ∨ p <:+ q :=
  isLocal_arrivals text x p i passed a ha q hq

/-- No choice at a path or below it was passed: none that lies there is refused. -/
def IsFresh (p : Path) (passed : List Path) : Prop := ∀ q ∈ passed, ¬ p <:+ q

namespace IsFresh

variable {p : Path} {passed : List Path}

theorem nil (p : Path) : IsFresh p [] := fun _ hq => (List.not_mem_nil hq).elim

theorem not_mem (h : IsFresh p passed) : p ∉ passed := fun hp => h p hp List.suffix_rfl

theorem child (h : IsFresh p passed) (n : Nat) : IsFresh (n :: p) passed :=
  fun q hq hsuffix => h q hq (suffix_of_cons_suffix hsuffix)

/-- A choice is not below its own branches. -/
theorem branch (h : IsFresh p passed) (n : Nat) : IsFresh (n :: p) (p :: passed) := by
  refine List.forall_mem_cons.mpr ⟨fun hsuffix => ?_, h.child n⟩
  have hlength := hsuffix.length_le
  rw [List.length_cons] at hlength
  omega

/-- The first part of a sequence passes nothing of the second one. -/
theorem second (h : IsFresh p passed) {text : Array Char} {x : Expr} {i : Nat} {a : Arrival}
    (ha : a ∈ x.arrivals text (0 :: p) i passed) : IsFresh (1 :: p) a.passed := by
  intro q hq hsuffix
  rcases passed_of_mem_arrivals ha hq with hq | hq
  · exact h.child 1 q hq hsuffix
  · exact not_suffix_sibling (by omega) hq hsuffix

end IsFresh

/-! ## Arrivals and spans -/

theorem spans_of_mem_arrivals {text : Array Char} {x : Expr} (hx : x.isLoopFree = true)
    {p : Path} {i : Nat} {passed : List Path} {a : Arrival}
    (ha : a ∈ x.arrivals text p i passed) : x.Spans text i a.pos := by
  induction x generalizing p i passed a with
  | empty =>
    simp only [Expr.arrivals, Ways.stay, List.mem_singleton] at ha
    subst ha
    rfl
  | chars s =>
    simp only [Expr.arrivals] at ha
    split at ha
    · rename_i c hc
      split at ha
      · rename_i hs
        rw [List.mem_singleton] at ha
        subst ha
        exact ⟨rfl, c, hc, hs⟩
      · cases ha
    · cases ha
  | anchor c =>
    simp only [Expr.arrivals] at ha
    split at ha
    · rename_i hc
      rw [List.mem_singleton] at ha
      subst ha
      exact ⟨rfl, hc⟩
    · cases ha
  | group n x ih =>
    simp only [Expr.arrivals, List.mem_map] at ha
    obtain ⟨b, hb, rfl⟩ := ha
    have hspan := ih hx hb
    exact hspan
  | seq x y ihx ihy =>
    obtain ⟨hx', hy'⟩ := Bool.and_eq_true_iff.mp hx
    obtain ⟨b, hb, c, hc, rfl⟩ := exists_of_mem_goOn ha
    have hsecond := ihy hy' hc
    exact ⟨b.pos, ihx hx' hb, hsecond⟩
  | alt x y ihx ihy =>
    obtain ⟨hx', hy'⟩ := Bool.and_eq_true_iff.mp hx
    simp only [Expr.arrivals, Ways.alt] at ha
    split at ha
    · cases ha
    · rcases List.mem_append.mp (mem_of_mem_firsts ha) with ha | ha
      · exact .inl (ihx hx' ha)
      · exact .inr (ihy hy' ha)
  | «repeat» => cases hx

/-- The search misses no span: paths of different parts never meet, so a choice that is
refused was passed before the expression was entered. -/
theorem exists_arrival_of_spans {text : Array Char} {x : Expr} (hx : x.isLoopFree = true)
    {p : Path} {i j : Nat} {passed : List Path} (hfresh : IsFresh p passed)
    (hspan : x.Spans text i j) : ∃ a ∈ x.arrivals text p i passed, a.pos = j := by
  induction x generalizing p i j passed with
  | empty => exact ⟨⟨i, [], passed⟩, by simp [Expr.arrivals, Ways.stay], hspan.symm⟩
  | chars s =>
    obtain ⟨rfl, c, hc, hs⟩ := hspan
    exact ⟨⟨i + 1, [], []⟩, by simp [Expr.arrivals, hc, hs], rfl⟩
  | anchor c =>
    obtain ⟨rfl, hc⟩ := hspan
    exact ⟨⟨j, [], passed⟩, by simp [Expr.arrivals, hc], rfl⟩
  | group n x ih =>
    obtain ⟨a, ha, hpos⟩ := ih hx hfresh hspan
    refine ⟨{ a with groups := (n, i, a.pos) :: a.groups }, ?_, hpos⟩
    simp only [Expr.arrivals, List.mem_map]
    exact ⟨a, ha, rfl⟩
  | seq x y ihx ihy =>
    obtain ⟨hx', hy'⟩ := Bool.and_eq_true_iff.mp hx
    obtain ⟨k, hxk, hyk⟩ := hspan
    obtain ⟨a, ha, rfl⟩ := ihx hx' (hfresh.child 0) hxk
    obtain ⟨c, hc, rfl⟩ := ihy hy' (hfresh.second ha) hyk
    exact exists_mem_goOn ha hc
  | alt x y ihx ihy =>
    obtain ⟨hx', hy'⟩ := Bool.and_eq_true_iff.mp hx
    simp only [Expr.arrivals, Ways.alt, if_neg hfresh.not_mem]
    rcases hspan with hspan | hspan
    · obtain ⟨a, ha, rfl⟩ := ihx hx' (hfresh.branch 0) hspan
      exact exists_mem_firsts (List.mem_append_left _ ha) (Nat.zero_testBit _)
    · obtain ⟨a, ha, rfl⟩ := ihy hy' (hfresh.branch 1) hspan
      exact exists_mem_firsts (List.mem_append_right _ ha) (Nat.zero_testBit _)
  | «repeat» => cases hx

theorem isSome_matchAt?_iff {text : Array Char} {x : Expr} (hx : x.isLoopFree = true)
    (i : Nat) : (x.matchAt? text i).isSome = true ↔ ∃ j, x.Spans text i j := by
  rw [Expr.matchAt?, Option.isSome_map]
  constructor
  · intro h
    obtain ⟨a, ha⟩ := Option.isSome_iff_exists.mp h
    exact ⟨a.pos, spans_of_mem_arrivals hx (List.mem_of_mem_head? ha)⟩
  · rintro ⟨j, hj⟩
    obtain ⟨a, ha, -⟩ := exists_arrival_of_spans hx (.nil []) hj
    exact List.isSome_head?.mpr (List.ne_nil_of_mem ha)

/-- A text has a match if some part of it is a span. -/
theorem isMatch_iff {r : Regex} (hr : r.expr.isLoopFree = true) (text : String) :
    r.isMatch text = true ↔
      ∃ i j, i ≤ text.toList.length ∧ r.expr.Spans text.toList.toArray i j := by
  simp only [isMatch, Expr.find?, List.findSome?_isSome_iff, List.mem_range'_1,
    isSome_matchAt?_iff hr, List.size_toArray]
  constructor
  · rintro ⟨i, hi, j, hj⟩
    exact ⟨i, j, by omega, hj⟩
  · rintro ⟨i, j, hi, hj⟩
    exact ⟨i, by omega, j, hj⟩

end ScrapeJobs.Regex
