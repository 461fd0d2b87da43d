import Mathlib.Data.List.Basic
import ScrapeJobs.Proofs.Regex.Literal

/-!
# Which match is preferred

`Expr.ways` lists the ways to match in the order in which a backtracking search meets them,
without leaving any out. The search of `ScrapeJobs.Regex.Search` keeps the first way to each
end only, and loses nothing by that: whatever is asked of what follows, as long as it depends
on the place alone, is first found on the same way (`findSome?_arrivals`). So the preferred
match is the first of all ways (`matchAt?_eq_head?`), and the match of a sequence between the
two ends of a text is the first way of its parts that reaches the end (`find?_whole`).

Loops are over single characters here (`Expr.hasCharLoops`), greedy ones without an upper bound or
ones with a fixed count, as in all patterns of generated rules.
-/

namespace ScrapeJobs.Regex

/-! ## Ways in order -/

/-- One way to match: where it ends, and what its groups matched, latest first. -/
structure Way where
  stop : Nat
  groups : List (Nat × Nat × Nat)
  deriving DecidableEq

def Arrival.way (a : Arrival) : Way := ⟨a.pos, a.groups⟩

/-- The way `w`, which goes on from `v`, with the groups of both. -/
def Way.andThen (v w : Way) : Way := ⟨w.stop, w.groups ++ v.groups⟩

/-- Goes on from ways, from each in the order of what follows. -/
def goOnWays (ws : List Way) (next : Nat → List Way) : List Way :=
  ws.flatMap fun v => (next v.stop).map v.andThen

/-- How many characters of a set stand in a row from a place on. -/
def runLength (text : Array Char) (s : CharSet) (i : Nat) : Nat :=
  ((text.toList.drop i).takeWhile s.contains).length

/-- The ways to match from a place, in the order of a backtracking search. -/
def Expr.ways (text : Array Char) : Expr → Nat → List Way
  | empty, i => [⟨i, []⟩]
  | chars s, i => if text[i]?.any s.contains then [⟨i + 1, []⟩] else []
  | anchor a, i => if a.holds text i then [⟨i, []⟩] else []
  | group n x, i => (x.ways text i).map fun w => ⟨w.stop, (n, i, w.stop) :: w.groups⟩
  | seq x y, i => goOnWays (x.ways text i) (y.ways text)
  | alt x y, i => x.ways text i ++ y.ways text i
  | «repeat» (chars s) min none _, i =>
    (List.range' (i + min) (runLength text s i + 1 - min)).reverse.map fun k => ⟨k, []⟩
  | «repeat» (chars s) _ (some n) _, i => if n ≤ runLength text s i then [⟨i + n, []⟩] else []
  | «repeat» .., _ => []

/-- Every loop is over single characters, and it is a greedy one without an upper bound or has a
fixed count. -/
def Expr.hasCharLoops : Expr → Bool
  | empty | chars _ | anchor _ => true
  | group _ x => x.hasCharLoops
  | seq x y | alt x y => x.hasCharLoops && y.hasCharLoops
  | «repeat» (chars _) _ none true => true
  | «repeat» (chars _) min (some max) _ => min = max
  | «repeat» .. => false

variable {text : Array Char} {s : CharSet} {x : Expr} {xs : List Expr} {i n : Nat}

/-! ## Loops over characters -/

theorem runLength_eq (text : Array Char) (s : CharSet) (i : Nat) :
    runLength text s i = if text[i]?.any s.contains then runLength text s (i + 1) + 1 else 0 := by
  unfold runLength
  by_cases hi : i < text.toList.length
  · rw [List.drop_eq_getElem_cons hi, List.takeWhile_cons]
    have hsome : text[i]? = some text.toList[i] := by
      rw [← Array.getElem?_toList, List.getElem?_eq_getElem hi]
    rw [hsome, Option.any_some]
    split <;> rfl
  · have hnone : text[i]? = none := by
      rw [← Array.getElem?_toList, List.getElem?_eq_none (by omega)]
    rw [List.drop_eq_nil_of_le (by omega), hnone]
    rfl

theorem runLength_le (text : Array Char) (s : CharSet) (i : Nat) :
    runLength text s i ≤ text.size - i := by
  have hle := (List.takeWhile_prefix (l := text.toList.drop i) s.contains).length_le
  rwa [List.length_drop, Array.length_toList] at hle

/-- Behind the first characters of a run stands what is left of it. -/
theorem runLength_add (h : n ≤ runLength text s i) :
    runLength text s i = n + runLength text s (i + n) := by
  induction n with
  | zero => rw [Nat.zero_add, Nat.add_zero]
  | succ n ih =>
    have hn := ih (by omega)
    rw [runLength_eq text s (i + n)] at hn
    split at hn
    · rw [hn, Nat.add_assoc i n 1]
      omega
    · omega

theorem arrivals_chars (text : Array Char) (s : CharSet) (p : Path) (i : Nat)
    (passed : List Path) : (Expr.chars s).arrivals text p i passed =
      if text[i]?.any s.contains then [⟨i + 1, [], []⟩] else [] := by
  simp only [Expr.arrivals]
  cases text[i]? <;> rfl

/-- A fixed number of characters is one run or nothing. -/
theorem times_chars (text : Array Char) (s : CharSet) (p : Path) (i : Nat) (passed : List Path)
    (n : Nat) : Ways.times ((Expr.chars s).arrivals text) n p i passed =
      if n ≤ runLength text s i then [⟨i + n, [], if n = 0 then passed else []⟩] else [] := by
  induction n with
  | zero => simp [Ways.times]
  | succ n ih =>
    have hstep : Ways.times ((Expr.chars s).arrivals text) (n + 1) p i passed =
        Ways.goOn ((Expr.chars s).arrivals text) (n :: 0 :: p)
          (Ways.times ((Expr.chars s).arrivals text) n p i passed) := by
      simp only [Ways.times, List.range_succ, List.foldl_append, List.foldl_cons, List.foldl_nil]
    rw [hstep, ih]
    by_cases hn : n ≤ runLength text s i
    · have hadd := runLength_add hn
      rw [runLength_eq text s (i + n)] at hadd
      rw [if_pos hn, Ways.goOn, List.flatMap_cons, List.flatMap_nil, List.append_nil,
        arrivals_chars]
      simp only
      by_cases hc : text[i + n]?.any s.contains
      · rw [if_pos hc] at hadd
        have hle : n + 1 ≤ runLength text s i := by omega
        rw [if_pos hc, if_pos hle]
        simp [firsts, Arrival.andThen, Nat.add_assoc]
      · rw [if_neg hc] at hadd
        have hnot : ¬ n + 1 ≤ runLength text s i := by omega
        rw [if_neg hc, if_neg hnot]
        rfl
    · have hnot : ¬ n + 1 ≤ runLength text s i := by omega
      rw [if_neg hn, if_neg hnot]
      rfl

/-- A loop that is not taken any more stays where it is. -/
theorem upTo_zero_singleton (w : Ways) (greedy : Bool) (size : Nat) (p : Path) (a : Arrival) :
    Ways.upTo w greedy size 0 p [a] = [a] := by
  simp [Ways.upTo, Ways.more, firsts]

/-- A greedy loop over characters stops once at each place of the run, the last one first. The
induction is on the fuel; the places ahead are not marked yet. -/
theorem map_way_more (places : Nat) (body : Path) (found : List Arrival) (seen : Nat) {p : Path}
    {fuel : Nat} {a : Arrival} (hfuel : runLength text s a.pos < fuel)
    (hpassed : (0 :: 1 :: p) ∉ a.passed) (hseen : ∀ k, a.pos ≤ k → seen.testBit k = false) :
    (Ways.more ((Expr.chars s).arrivals text) true places (fun _ => 0) (fun _ => body) p fuel a
      (found, seen)).1.map Arrival.way =
      (List.range' a.pos (runLength text s a.pos + 1)).map (⟨·, a.groups⟩) ++
        found.map Arrival.way := by
  induction fuel generalizing a found seen with
  | zero => omega
  | succ fuel ih =>
    have hfree : ¬ ((0 :: 1 :: p) ∈ a.passed ∨ seen.testBit a.pos = true) := by
      rintro (h | h)
      · exact hpassed h
      · rw [hseen a.pos (Nat.le_refl _)] at h
        cases h
    rw [runLength_eq] at hfuel ⊢
    simp only [Ways.more, Nat.zero_mul, Nat.zero_add, if_neg hfree, if_true, arrivals_chars]
    split at hfuel
    · rename_i hc
      have hseen' : ∀ k, a.pos + 1 ≤ k → (seen ||| 1 <<< a.pos).testBit k = false := by
        intro k hk
        rw [testBit_or_shiftLeft, hseen k (by omega), decide_eq_false (by omega)]
        rfl
      have hrest := ih found (seen ||| 1 <<< a.pos) (a := a.andThen ⟨a.pos + 1, [], []⟩)
        (Nat.lt_of_succ_lt_succ hfuel) List.not_mem_nil hseen'
      rw [if_pos hc, if_pos hc, List.foldl_cons, List.foldl_nil, List.map_cons, hrest,
        List.range'_succ, List.map_cons]
      rfl
    · rename_i hc
      rw [if_neg hc, if_neg hc]
      rfl

/-! ## First arrivals lose nothing -/

theorem findSome?_congr {α β : Type} {f g : α → Option β} {l : List α}
    (h : ∀ a ∈ l, f a = g a) : l.findSome? f = l.findSome? g := by
  induction l with
  | nil => rfl
  | cons a rest ih =>
    obtain ⟨ha, hrest⟩ := List.forall_mem_cons.mp h
    rw [List.findSome?_cons, List.findSome?_cons, ha, ih hrest]

theorem findSome?_flatMap {α β γ : Type} (f : β → Option γ) (g : α → List β) (l : List α) :
    (l.flatMap g).findSome? f = l.findSome? fun a => (g a).findSome? f := by
  induction l with
  | nil => rfl
  | cons a rest ih =>
    rw [List.flatMap_cons, List.findSome?_append, List.findSome?_cons, ih]
    cases (g a).findSome? f <;> rfl

section Firsts

variable {β : Type} {f : Arrival → Option β} {as : List Arrival} {seen : Nat}

/-- What depends on the place is not found on a later arrival at a place either. -/
theorem findSome?_firsts (hf : ∀ a b, a.pos = b.pos → (f a).isSome = (f b).isSome)
    (hseen : ∀ a ∈ as, seen.testBit a.pos = true → f a = none) :
    (firsts seen as).findSome? f = as.findSome? f := by
  induction as generalizing seen with
  | nil => rfl
  | cons a rest ih =>
    obtain ⟨ha, hrest⟩ := List.forall_mem_cons.mp hseen
    unfold firsts
    split
    · rename_i hbit
      rw [ih hrest, List.findSome?_cons, ha hbit]
    · rw [List.findSome?_cons, List.findSome?_cons]
      cases hfa : f a with
      | some y => rfl
      | none =>
        refine ih fun b hb hbit => ?_
        rw [testBit_or_shiftLeft, Bool.or_eq_true, decide_eq_true_eq] at hbit
        rcases hbit with hbit | hpos
        · exact hrest b hb hbit
        · have hsome := hf a b hpos
          rw [hfa] at hsome
          exact Option.isSome_eq_false_iff.mp hsome.symm |> Option.isNone_iff_eq_none.mp

theorem findSome?_firsts_zero (hf : ∀ a b, a.pos = b.pos → (f a).isSome = (f b).isSome) :
    (firsts 0 as).findSome? f = as.findSome? f :=
  findSome?_firsts hf fun a _ hbit => by
    rw [Nat.zero_testBit] at hbit
    cases hbit

end Firsts

/-- Whether something is found on a way depends on its end only. -/
def DependsOnStop {β : Type} (f : Way → Option β) : Prop :=
  ∀ v w : Way, v.stop = w.stop → (f v).isSome = (f w).isSome

theorem exists_chars_of_hasCharLoops {max : Option Nat} {greedy : Bool}
    (h : (x.repeat n max greedy).hasCharLoops = true) :
    ∃ s, x = .chars s ∧ ((max = none ∧ greedy = true) ∨ max = some n) := by
  cases x with
  | chars s =>
    refine ⟨s, rfl, ?_⟩
    cases max with
    | none =>
      cases greedy with
      | false => cases h
      | true => exact .inl ⟨rfl, rfl⟩
    | some m => exact .inr (congrArg some (of_decide_eq_true h).symm)
  | _ => cases h

section Search

variable {β : Type} {f : Way → Option β} {p : Path} {passed : List Path}

theorem DependsOnStop.arrivals (hf : DependsOnStop f) {a b : Arrival} (h : a.pos = b.pos) :
    (f a.way).isSome = (f b.way).isSome := hf _ _ h

theorem DependsOnStop.andThen (hf : DependsOnStop f) (v : Way) :
    DependsOnStop fun w => f (v.andThen w) := fun _ _ h => hf _ _ h

theorem DependsOnStop.findSome? (hf : DependsOnStop f) (ws : Nat → List Way) :
    DependsOnStop fun v => (ws v.stop).findSome? fun w => f (v.andThen w) := by
  intro v v' hv
  have hsome : ∀ w : Way, (f (v.andThen w)).isSome = (f (v'.andThen w)).isSome :=
    fun w => hf _ _ rfl
  rw [Bool.eq_iff_iff]
  simp only [List.findSome?_isSome_iff, hv, hsome]

theorem findSome?_more_reverse {places fuel : Nat} {body : Path} {a : Arrival}
    (hf : DependsOnStop f) (hfuel : runLength text s a.pos < fuel)
    (hpassed : (0 :: 1 :: p) ∉ a.passed) :
    (firsts 0 ([a].foldl (fun state a => Ways.more ((Expr.chars s).arrivals text) true places
      (fun _ => 0) (fun _ => body) p fuel a state) ([], 0)).1.reverse).findSome?
        (fun a => f a.way) =
      ((List.range' a.pos (runLength text s a.pos + 1)).reverse.map (⟨·, a.groups⟩)).findSome?
        f := by
  have hmore := map_way_more places body [] 0 hfuel hpassed fun k _ => Nat.zero_testBit k
  rw [List.map_nil, List.append_nil] at hmore
  rw [findSome?_firsts_zero fun _ _ => hf.arrivals, List.foldl_cons, List.foldl_nil,
    ← Function.comp_def f Arrival.way, ← List.findSome?_map, List.map_reverse, hmore,
    List.map_reverse]

/-- A search behind a loop over characters finds what backtracking finds. -/
theorem findSome?_arrivals_repeat {min : Nat} {max : Option Nat} {greedy : Bool}
    (hx : (x.repeat min max greedy).hasCharLoops = true) (hfresh : IsFresh p passed)
    (hf : DependsOnStop f) :
    ((x.repeat min max greedy).arrivals text p i passed).findSome? (fun a => f a.way) =
      ((x.repeat min max greedy).ways text i).findSome? f := by
  obtain ⟨s, rfl, ⟨rfl, rfl⟩ | rfl⟩ := exists_chars_of_hasCharLoops hx
  · have hle := runLength_le text s
    rw [Expr.arrivals, Expr.ways]
    cases min with
    | zero =>
      have hpassed : (0 :: 1 :: p) ∉ passed := ((hfresh.child 1).child 0).not_mem
      have hfuel : runLength text s i < text.size + 2 := by
        have := hle i
        omega
      exact findSome?_more_reverse (a := ⟨i, [], passed⟩) hf hfuel hpassed
    | succ n =>
      simp only [Ways.repeat, Ways.loop]
      rw [times_chars]
      by_cases hn : n + 1 ≤ runLength text s i
      · have hadd := runLength_add hn
        have hfuel : runLength text s (i + (n + 1)) < text.size + 2 := by
          have := hle (i + (n + 1))
          omega
        have hlength : runLength text s i + 1 - (n + 1) = runLength text s (i + (n + 1)) + 1 := by
          omega
        rw [if_pos hn, hlength]
        exact findSome?_more_reverse (a := ⟨i + (n + 1), [], []⟩) hf hfuel List.not_mem_nil
      · have hlength : runLength text s i + 1 - (n + 1) = 0 := by omega
        rw [if_neg hn, hlength]
        rfl
  · rw [Expr.arrivals, Expr.ways, Ways.repeat, times_chars, Nat.sub_self]
    split
    · rw [upTo_zero_singleton]
      rfl
    · rfl

/-- A search that goes on from the first arrivals finds what backtracking finds: the choices
inside an expression were not passed before it was entered, so none is refused. -/
theorem findSome?_arrivals (hx : x.hasCharLoops = true) (hfresh : IsFresh p passed)
    (hf : DependsOnStop f) :
    (x.arrivals text p i passed).findSome? (fun a => f a.way) = (x.ways text i).findSome? f := by
  induction x generalizing p i passed f with
  | empty => rfl
  | chars s =>
    rw [arrivals_chars, Expr.ways]
    split <;> rfl
  | anchor c =>
    simp only [Expr.arrivals, Expr.ways]
    split <;> rfl
  | group n x ih =>
    have hgroup : DependsOnStop fun w => f ⟨w.stop, (n, i, w.stop) :: w.groups⟩ :=
      fun _ _ h => hf _ _ h
    rw [Expr.arrivals, Expr.ways, List.findSome?_map, List.findSome?_map]
    exact ih hx hfresh hgroup
  | seq x y ihx ihy =>
    obtain ⟨hx', hy'⟩ := Bool.and_eq_true_iff.mp hx
    have hrest : ∀ a ∈ x.arrivals text (0 :: p) i passed,
        ((y.arrivals text (1 :: p) a.pos a.passed).findSome? fun b => f (a.andThen b).way) =
          (y.ways text a.pos).findSome? fun w => f (a.way.andThen w) := by
      intro a ha
      exact ihy hy' (hfresh.second ha) (hf.andThen a.way)
    have hfront := ihx hx' (i := i) (hfresh.child 0) (hf.findSome? (y.ways text))
    rw [Expr.arrivals, Expr.ways, Ways.seq, Ways.goOn, goOnWays,
      findSome?_firsts_zero fun _ _ => hf.arrivals, findSome?_flatMap, findSome?_flatMap]
    simp only [List.findSome?_map, Function.comp_def]
    rw [← hfront]
    exact findSome?_congr hrest
  | alt x y ihx ihy =>
    obtain ⟨hx', hy'⟩ := Bool.and_eq_true_iff.mp hx
    simp only [Expr.arrivals, Expr.ways, Ways.alt, if_neg hfresh.not_mem]
    rw [findSome?_firsts_zero fun _ _ => hf.arrivals, List.findSome?_append,
      List.findSome?_append, ihx hx' (hfresh.branch 0) hf, ihy hy' (hfresh.branch 1) hf]
  | «repeat» x min max greedy ih => exact findSome?_arrivals_repeat hx hfresh hf

end Search

/-- The preferred match from a place is the first of all ways. -/
theorem matchAt?_eq_head? (hx : x.hasCharLoops = true) (i : Nat) :
    x.matchAt? text i = (x.ways text i).head?.map fun w => ⟨i, w.stop, w.groups⟩ := by
  have hall : DependsOnStop fun w : Way => some w := fun _ _ _ => rfl
  have hfirst : _ = (x.ways text i).findSome? fun w => some w :=
    findSome?_arrivals hx (.nil []) hall
  have hhead : ∀ {α β : Type} (f : α → β) (l : List α),
      l.findSome? (fun a => some (f a)) = l.head?.map f := by
    intro α β f l
    cases l <;> rfl
  rw [hhead, hhead (fun w => w), Option.map_id'] at hfirst
  rw [Expr.matchAt?, ← hfirst, Option.map_map]
  rfl

/-! ## Sequences from end to end -/

theorem Way.andThen_assoc (u v w : Way) : (u.andThen v).andThen w = u.andThen (v.andThen w) := by
  simp [Way.andThen]

theorem goOnWays_assoc (ws : List Way) (f g : Nat → List Way) :
    goOnWays (goOnWays ws f) g = goOnWays ws fun i => goOnWays (f i) g := by
  unfold goOnWays
  rw [List.flatMap_assoc]
  congr 1
  funext u
  rw [List.map_flatMap, List.flatMap_map]
  congr 1
  funext v
  rw [List.map_map]
  congr 1
  funext w
  exact Way.andThen_assoc u v w

/-- Going on from where no group has matched anything adds nothing to the ways. -/
theorem goOnWays_singleton (i : Nat) (f : Nat → List Way) : goOnWays [⟨i, []⟩] f = f i := by
  have hid : (⟨i, []⟩ : Way).andThen = id := by
    funext w
    simp [Way.andThen]
  rw [goOnWays, List.flatMap_singleton, hid, List.map_id]

theorem goOnWays_stay (ws : List Way) : (goOnWays ws fun i => [⟨i, []⟩]) = ws :=
  List.flatMap_singleton' ws

/-- The ways of parts one after the other. -/
def waysAll (text : Array Char) : List Expr → Nat → List Way
  | [], i => [⟨i, []⟩]
  | x :: rest, i => goOnWays (x.ways text i) (waysAll text rest)

theorem waysAll_singleton (x : Expr) (i : Nat) : waysAll text [x] i = x.ways text i :=
  goOnWays_stay _

theorem ways_foldl_seq (x : Expr) (xs : List Expr) (i : Nat) :
    (xs.foldl Expr.seq x).ways text i = goOnWays (x.ways text i) (waysAll text xs) := by
  induction xs generalizing x with
  | nil => exact (goOnWays_stay _).symm
  | cons y rest ih =>
    rw [List.foldl_cons, ih, Expr.ways, goOnWays_assoc]
    rfl

theorem waysAll_append (xs ys : List Expr) (i : Nat) :
    waysAll text (xs ++ ys) i = goOnWays (waysAll text xs i) (waysAll text ys) := by
  induction xs generalizing i with
  | nil => exact (goOnWays_singleton i _).symm
  | cons x rest ih =>
    rw [List.cons_append, waysAll, waysAll, goOnWays_assoc]
    congr 1
    funext k
    exact ih k

theorem hasCharLoops_whole (h : ∀ x ∈ xs, x.hasCharLoops = true) :
    (Expr.whole xs).hasCharLoops = true := by
  have hfold : ∀ {x : Expr} {xs : List Expr}, x.hasCharLoops = true →
      (∀ y ∈ xs, y.hasCharLoops = true) → (xs.foldl Expr.seq x).hasCharLoops = true := by
    intro x xs hx hxs
    induction xs generalizing x with
    | nil => exact hx
    | cons y rest ih =>
      obtain ⟨hy, hrest⟩ := List.forall_mem_cons.mp hxs
      exact ih (Bool.and_eq_true_iff.mpr ⟨hx, hy⟩) hrest
  refine hfold rfl fun y hy => ?_
  rcases List.mem_append.mp hy with hy | hy
  · exact h y hy
  · rw [List.mem_singleton.mp hy]
    rfl

/-- What is tied to both ends starts at the first place and stops behind the last one. -/
theorem ways_whole (text : Array Char) (xs : List Expr) (i : Nat) :
    (Expr.whole xs).ways text i =
      if i = 0 then (waysAll text xs 0).filter (·.stop = text.size) else [] := by
  rw [Expr.whole, Expr.ofParts, ways_foldl_seq]
  simp only [Expr.ways, Anchor.holds, decide_eq_true_eq]
  split
  · rename_i hi
    subst hi
    rw [goOnWays_singleton, waysAll_append]
    induction waysAll text xs 0 with
    | nil => rfl
    | cons w rest ih =>
      have hlast : (waysAll text [.anchor .textEnd] w.stop).map w.andThen =
          if w.stop = text.size then [w] else [] := by
        rw [waysAll_singleton, Expr.ways, Anchor.holds]
        by_cases hw : w.stop = text.size
        · rw [if_pos (decide_eq_true hw), if_pos hw]
          rfl
        · rw [if_neg (by simp [hw]), if_neg hw]
          rfl
      rw [goOnWays, List.flatMap_cons, hlast, List.filter_cons, ← ih]
      by_cases hw : w.stop = text.size <;> simp [hw, goOnWays]
  · rfl

/-- The match of parts between the two ends of a text is their first way that reaches the end. -/
theorem find?_whole (hxs : ∀ x ∈ xs, x.hasCharLoops = true) (text : Array Char) :
    (Expr.whole xs).find? text 0 =
      ((waysAll text xs 0).find? (·.stop = text.size)).map fun w => ⟨0, w.stop, w.groups⟩ := by
  have hmatch : ∀ i, (Expr.whole xs).matchAt? text i =
      if i = 0 then ((waysAll text xs 0).find? (·.stop = text.size)).map
        fun w => ⟨0, w.stop, w.groups⟩ else none := by
    intro i
    rw [matchAt?_eq_head? (hasCharLoops_whole hxs), ways_whole]
    split
    · rename_i hi
      rw [List.head?_filter, hi]
    · rfl
  have hlater : (List.range' 1 text.size).findSome? ((Expr.whole xs).matchAt? text) = none := by
    rw [List.findSome?_eq_none_iff]
    intro i hi
    obtain ⟨hpos, -⟩ := List.mem_range'_1.mp hi
    rw [hmatch, if_neg (Nat.ne_of_gt hpos)]
  rw [Expr.find?, Nat.sub_zero, List.range'_succ, List.findSome?_cons, hmatch, if_pos rfl, hlater]
  cases (waysAll text xs 0).find? (·.stop = text.size) <;> rfl

end ScrapeJobs.Regex
