import Mathlib.Data.List.TakeWhile
import ScrapeJobs.Proofs.Regex.Captures

/-!
# What stands between a word and other parts

A pattern may ask for a word, then for some text, which a group captures, and then for parts that
capture nothing (`between`). Such a pattern matches a text exactly if the text can be cut in this
way (`exists_captures_between`), and what the group captures is always the middle of such a cut
(`cut_of_captures?_between`); which one of several cuts it is, is up to the order of the ways. What
the parts behind the group ask for is said of the rest of the text alone (`Accepts`).
-/

namespace ScrapeJobs.Regex

variable {text : Array Char} {s : CharSet} {x : Expr} {xs tail : List Expr} {i j n : Nat} {w : Way}

/-! ## Where ways end -/

theorem mem_goOnWays {ws : List Way} {next : Nat → List Way} :
    w ∈ goOnWays ws next ↔ ∃ u ∈ ws, ∃ v ∈ next u.stop, u.andThen v = w := by
  simp only [goOnWays, List.mem_flatMap, List.mem_map]

theorem exists_goOnWays_stop_iff {ws : List Way} {next : Nat → List Way} :
    (∃ w ∈ goOnWays ws next, w.stop = j) ↔
      ∃ k, (∃ u ∈ ws, u.stop = k) ∧ ∃ v ∈ next k, v.stop = j := by
  simp only [mem_goOnWays]
  constructor
  · rintro ⟨w, ⟨u, hu, v, hv, rfl⟩, rfl⟩
    exact ⟨u.stop, ⟨u, hu, rfl⟩, v, hv, rfl⟩
  · rintro ⟨k, ⟨u, hu, rfl⟩, v, hv, rfl⟩
    exact ⟨u.andThen v, ⟨u, hu, v, hv, rfl⟩, rfl⟩

/-- A number of characters of a set is a part of a run of them. -/
theorem rounds_chars (text : Array Char) (s : CharSet) (n i j : Nat) :
    Rounds ((Expr.chars s).Spans text) n i j ↔ j = i + n ∧ n ≤ runLength text s i := by
  induction n generalizing i with
  | zero => simp [Rounds]
  | succ n ih =>
    constructor
    · rintro ⟨k, ⟨rfl, c, hc, hs⟩, hrest⟩
      obtain ⟨rfl, hle⟩ := (ih _).mp hrest
      rw [runLength_eq, hc, Option.any_some, if_pos hs]
      omega
    · rintro ⟨rfl, hle⟩
      rw [runLength_eq] at hle
      split at hle
      · rename_i hany
        obtain ⟨c, hc, hs⟩ := (Option.any_eq_true _ _).mp hany
        exact ⟨i + 1, ⟨rfl, c, hc, hs⟩, (ih _).mpr ⟨by omega, by omega⟩⟩
      · omega

theorem spans_repeat_chars (text : Array Char) (s : CharSet) (min : Nat) (max : Option Nat)
    (greedy : Bool) (i j : Nat) : (Expr.repeat (.chars s) min max greedy).Spans text i j ↔
      ∃ n, min ≤ n ∧ (∀ m, max = some m → n ≤ m) ∧ j = i + n ∧ n ≤ runLength text s i := by
  simp only [← rounds_chars]
  rfl

theorem exists_way_repeat_iff {min : Nat} {max : Option Nat} {greedy : Bool}
    (hx : (x.repeat min max greedy).hasCharLoops = true) (i j : Nat) :
    (∃ w ∈ (x.repeat min max greedy).ways text i, w.stop = j) ↔
      (x.repeat min max greedy).Spans text i j := by
  obtain ⟨s, rfl, ⟨rfl, rfl⟩ | rfl⟩ := exists_chars_of_hasCharLoops hx
  · simp only [spans_repeat_chars, Expr.ways, List.mem_map, List.mem_reverse, List.mem_range'_1]
    constructor
    · rintro ⟨w, ⟨k, hk, rfl⟩, rfl⟩
      refine ⟨k - i, by omega, fun m hm => (by cases hm), ?_, by omega⟩
      simp only
      omega
    · rintro ⟨n, hmin, -, rfl, hle⟩
      exact ⟨_, ⟨i + n, by omega, rfl⟩, rfl⟩
  · simp only [spans_repeat_chars, Expr.ways]
    constructor
    · rintro ⟨w, hw, rfl⟩
      split at hw
      · rename_i hle
        obtain rfl := List.mem_singleton.mp hw
        exact ⟨min, Nat.le_refl _, fun m hm => Nat.le_of_eq (Option.some.inj hm), rfl, hle⟩
      · cases hw
    · rintro ⟨n, hmin, hmax, rfl, hle⟩
      obtain rfl := Nat.le_antisymm hmin (hmax min rfl)
      rw [if_pos hle]
      exact ⟨_, List.mem_singleton_self _, rfl⟩

/-- Ways end where spans do. -/
theorem exists_way_iff (hx : x.hasCharLoops = true) (i j : Nat) :
    (∃ w ∈ x.ways text i, w.stop = j) ↔ x.Spans text i j := by
  induction x generalizing i j with
  | empty => simp [Expr.ways, Expr.Spans, eq_comm]
  | chars s =>
    have hany : (∃ c, text[i]? = some c ∧ s.contains c = true) ↔
        text[i]?.any s.contains = true := (Option.any_eq_true _ _).symm
    rw [Expr.ways, Expr.Spans, hany]
    split
    · rename_i hc
      simp [hc, eq_comm]
    · rename_i hc
      simp [hc]
  | anchor c =>
    simp only [Expr.ways, Expr.Spans]
    split
    · rename_i hc
      simp [hc, eq_comm]
    · rename_i hc
      simp [hc]
  | group n x ih => simp [Expr.ways, Expr.Spans, ← ih hx]
  | seq x y ihx ihy =>
    obtain ⟨hx', hy'⟩ := Bool.and_eq_true_iff.mp hx
    rw [Expr.ways, exists_goOnWays_stop_iff]
    simp only [ihx hx', ihy hy', Expr.Spans]
  | alt x y ihx ihy =>
    obtain ⟨hx', hy'⟩ := Bool.and_eq_true_iff.mp hx
    simp only [Expr.ways, Expr.Spans, ← ihx hx', ← ihy hy', List.mem_append, or_and_right,
      exists_or]
  | «repeat» x min max greedy ih => exact exists_way_repeat_iff hx i j

theorem exists_wayAll_iff (hxs : ∀ x ∈ xs, x.hasCharLoops = true) (i j : Nat) :
    (∃ w ∈ waysAll text xs i, w.stop = j) ↔ SpansAll text xs i j := by
  induction xs generalizing i with
  | nil => simp [waysAll, SpansAll, eq_comm]
  | cons x rest ih =>
    obtain ⟨hx, hrest⟩ := List.forall_mem_cons.mp hxs
    rw [waysAll, exists_goOnWays_stop_iff]
    simp only [exists_way_iff hx, ih hrest, SpansAll]

/-! ## Parts that capture nothing -/

/-- The expression has no group in it. -/
def Expr.isGroupless : Expr → Bool
  | empty | chars _ | anchor _ => true
  | group .. => false
  | seq x y | alt x y => x.isGroupless && y.isGroupless
  | «repeat» x .. => x.isGroupless

theorem groups_eq_nil (hx : x.isGroupless = true) (hw : w ∈ x.ways text i) : w.groups = [] := by
  induction x generalizing i w with
  | empty =>
    rw [List.mem_singleton.mp hw]
  | chars s | anchor a =>
    simp only [Expr.ways] at hw
    split at hw
    · rw [List.mem_singleton.mp hw]
    · cases hw
  | group n x ih => cases hx
  | seq x y ihx ihy =>
    obtain ⟨hx', hy'⟩ := Bool.and_eq_true_iff.mp hx
    obtain ⟨u, hu, v, hv, rfl⟩ := mem_goOnWays.mp hw
    rw [Way.andThen, ihx hx' hu, ihy hy' hv, List.append_nil]
  | alt x y ihx ihy =>
    obtain ⟨hx', hy'⟩ := Bool.and_eq_true_iff.mp hx
    rcases List.mem_append.mp hw with hw | hw
    · exact ihx hx' hw
    · exact ihy hy' hw
  | «repeat» x min max greedy ih =>
    cases x with
    | chars s =>
      cases max with
      | none =>
        obtain ⟨k, -, rfl⟩ := List.mem_map.mp hw
        rfl
      | some m =>
        simp only [Expr.ways] at hw
        split at hw
        · rw [List.mem_singleton.mp hw]
        · cases hw
    | _ => cases hw

theorem groups_eq_nil_of_mem_waysAll (hxs : ∀ x ∈ xs, x.isGroupless = true)
    (hw : w ∈ waysAll text xs i) : w.groups = [] := by
  induction xs generalizing i w with
  | nil => rw [List.mem_singleton.mp hw]
  | cons x rest ih =>
    obtain ⟨hx, hrest⟩ := List.forall_mem_cons.mp hxs
    obtain ⟨u, hu, v, hv, rfl⟩ := mem_goOnWays.mp hw
    rw [Way.andThen, groups_eq_nil hx hu, ih hrest hv, List.append_nil]

/-! ## Rests of texts -/

/-- From any place on, the parts match the rest of a text exactly if it has the property. -/
def Accepts (tail : List Expr) (L : List Char → Prop) : Prop :=
  ∀ front rest, SpansAll (front ++ rest).toArray tail front.length (front ++ rest).length ↔ L rest

namespace Accepts

variable {L : List Char → Prop}

theorem congr {L' : List Char → Prop} (h : Accepts tail L) (hL : ∀ rest, L rest ↔ L' rest) :
    Accepts tail L' :=
  fun front rest => (h front rest).trans (hL rest)

theorem nil : Accepts [] (· = []) := by
  intro front rest
  have hlength : (front ++ rest).length = front.length ↔ rest.length = 0 := by
    rw [List.length_append]
    omega
  rw [SpansAll, hlength, List.length_eq_zero_iff]

/-- The same behind a part of the rest. -/
theorem behind (h : Accepts tail L) (front run more : List Char) :
    SpansAll (front ++ (run ++ more)).toArray tail (front.length + run.length)
      (front ++ (run ++ more)).length ↔ L more := by
  rw [← h (front ++ run) more, List.append_assoc, @List.length_append _ front run]

theorem char (c : Char) (h : Accepts tail L) :
    Accepts (.char c :: tail) fun rest => ∃ more, rest = c :: more ∧ L more := by
  intro front rest
  have hnext : (front ++ rest).toArray[front.length]? = rest[0]? := by
    rw [List.getElem?_toArray, List.getElem?_append_right (Nat.le_refl _), Nat.sub_self]
  constructor
  · rintro ⟨k, ⟨rfl, d, hd, hc⟩, hrest⟩
    rw [contains_singleton] at hc
    rw [hnext, hc] at hd
    cases rest with
    | nil => cases hd
    | cons e more =>
      cases hd
      exact ⟨more, rfl, (h.behind front [c] more).mp hrest⟩
  · rintro ⟨more, rfl, hmore⟩
    exact ⟨front.length + 1, ⟨rfl, c, hnext, (contains_singleton c c).mpr rfl⟩,
      (h.behind front [c] more).mpr hmore⟩

theorem runLength_append (front rest : List Char) (s : CharSet) :
    runLength (front ++ rest).toArray s front.length = (rest.takeWhile s.contains).length := by
  rw [runLength, List.drop_left]

/-- A loop takes a run of characters of its set. -/
theorem «repeat» (s : CharSet) (min : Nat) (max : Option Nat) (greedy : Bool) (h : Accepts tail L) :
    Accepts (.repeat (.chars s) min max greedy :: tail) fun rest => ∃ run more,
      rest = run ++ more ∧ min ≤ run.length ∧ (∀ m, max = some m → run.length ≤ m) ∧
        (∀ c ∈ run, s.contains c = true) ∧ L more := by
  intro front rest
  simp only [SpansAll, spans_repeat_chars, runLength_append]
  constructor
  · rintro ⟨k, ⟨n, hmin, hmax, rfl, hle⟩, hrest⟩
    have hrun : rest.take n <+: rest.takeWhile s.contains :=
      List.prefix_of_prefix_length_le (List.take_prefix n rest) (List.takeWhile_prefix _)
        ((List.length_take_le n rest).trans hle)
    have hlength : (rest.take n).length = n :=
      List.length_take_of_le (hle.trans (List.takeWhile_prefix _).length_le)
    refine ⟨rest.take n, rest.drop n, (List.take_append_drop n rest).symm, hlength.symm ▸ hmin,
      hlength.symm ▸ hmax, fun c hc => List.mem_takeWhile_imp (hrun.subset hc), ?_⟩
    rw [← h.behind front (rest.take n) (rest.drop n), List.take_append_drop, hlength]
    exact hrest
  · rintro ⟨run, more, rfl, hmin, hmax, hrun, hmore⟩
    refine ⟨front.length + run.length, ⟨run.length, hmin, hmax, rfl, ?_⟩,
      (h.behind front run more).mpr hmore⟩
    rw [List.takeWhile_append_of_pos hrun, List.length_append]
    omega

end Accepts

/-! ## Between a word and a tail -/

/-- A word, then any text that is not empty, as the first group, and then the tail. -/
def between (word : List Char) (tail : List Expr) : Regex :=
  ⟨.whole (word.map .char ++ .group 1 .someText :: tail), []⟩

section Between

variable {word : List Char} {L : List Char → Prop} {text : String}

/-- The ways of the pattern: where the group ends, and how the tail goes on from there. -/
theorem mem_waysAll_between (cs : List Char) (word : List Char) (tail : List Expr) :
    w ∈ waysAll cs.toArray (word.map .char ++ .group 1 .someText :: tail) 0 ↔
      word <+: cs ∧ ∃ k, word.length < k ∧ k ≤ cs.length ∧
        ∃ v ∈ waysAll cs.toArray tail k,
          w = ⟨v.stop, v.groups ++ [(1, word.length, k)]⟩ := by
  rw [waysAll_append, waysAll_chars, List.drop_zero]
  split
  · rename_i hpre
    have hle := hpre.length_le
    rw [goOnWays_singleton, waysAll, mem_goOnWays, Expr.someText, ways_group]
    simp only [List.mem_map, List.mem_reverse, List.mem_range'_1, List.size_toArray]
    constructor
    · rintro ⟨u, ⟨k, hk, rfl⟩, v, hv, rfl⟩
      rw [Nat.zero_add] at hk
      refine ⟨hpre, k, by omega, by omega, v, hv, ?_⟩
      rw [Nat.zero_add]
      rfl
    · rintro ⟨-, k, hlt, hk, v, hv, rfl⟩
      rw [Nat.zero_add]
      exact ⟨⟨k, [(1, word.length, k)]⟩, ⟨k, by omega, rfl⟩, v, hv, rfl⟩
  · rename_i hpre
    simp [goOnWays, hpre]

/-- The text is the word, a middle that is not empty, and a rest with a property. -/
def IsCut (word : List Char) (L : List Char → Prop) (text middle : List Char) : Prop :=
  middle ≠ [] ∧ ∃ rest, text = word ++ (middle ++ rest) ∧ L rest

theorem hasCharLoops_between (hloops : ∀ x ∈ tail, x.hasCharLoops = true) (word : List Char) :
    ∀ x ∈ word.map Expr.char ++ .group 1 .someText :: tail, x.hasCharLoops = true :=
  hasCharLoops_append word (List.forall_mem_cons.mpr ⟨rfl, hloops⟩)

variable (htail : Accepts tail L) (hloops : ∀ x ∈ tail, x.hasCharLoops = true)

include htail hloops

/-- What the group captures is the middle of the text, however it was cut. -/
theorem cut_of_captures?_between (hgroupless : ∀ x ∈ tail, x.isGroupless = true) {c : Captures}
    (h : (between word tail).captures? text = some c) : IsCut word L text.toList (c.group 1) := by
  rw [between, captures?_whole (hasCharLoops_between hloops word)] at h
  obtain ⟨w, hfound, rfl⟩ := Option.map_eq_some_iff.mp h
  have hstop : w.stop = text.toList.length := by simpa using List.find?_some hfound
  obtain ⟨⟨behind, hbehind⟩, k, hlt, hk, v, hv, rfl⟩ :=
    (mem_waysAll_between _ _ _).mp (List.mem_of_find?_eq_some hfound)
  rw [groups_eq_nil_of_mem_waysAll hgroupless hv]
  have hgroup : Captures.group ⟨text.toList, [], ⟨0, v.stop, [] ++ [(1, word.length, k)]⟩⟩ 1 =
      (text.toList.drop word.length).take (k - word.length) := rfl
  have hlength : (behind.take (k - word.length)).length = k - word.length := by
    refine List.length_take_of_le ?_
    rw [← hbehind, List.length_append] at hk
    omega
  rw [hgroup, ← hbehind, List.drop_left]
  refine ⟨List.ne_nil_of_length_pos (by omega), behind.drop (k - word.length), ?_, ?_⟩
  · rw [List.take_append_drop]
  · have hspan := (exists_wayAll_iff hloops _ _).mp ⟨v, hv, hstop⟩
    rw [← htail.behind word (behind.take (k - word.length)), List.take_append_drop, hlength,
      Nat.add_sub_cancel' (Nat.le_of_lt hlt), hbehind]
    exact hspan

/-- A text that can be cut is matched. -/
theorem exists_captures_between {middle : List Char} (h : IsCut word L text.toList middle) :
    ∃ c, (between word tail).captures? text = some c := by
  obtain ⟨hne, rest, htext, hrest⟩ := h
  have hpos := List.length_pos_of_ne_nil hne
  have hspan := (htail.behind word middle rest).mpr hrest
  rw [← htext] at hspan
  obtain ⟨v, hv, hstop⟩ := (exists_wayAll_iff hloops _ _).mpr hspan
  have hway : (⟨v.stop, v.groups ++ [(1, word.length, word.length + middle.length)]⟩ : Way) ∈
      waysAll text.toList.toArray (word.map .char ++ .group 1 .someText :: tail) 0 := by
    refine (mem_waysAll_between _ _ _).mpr ⟨⟨_, htext.symm⟩, _, by omega, ?_, v, hv, rfl⟩
    rw [htext]
    simp only [List.length_append]
    omega
  have hsome : ((waysAll text.toList.toArray (word.map .char ++ .group 1 .someText :: tail) 0).find?
      (·.stop = text.toList.length)).isSome = true :=
    List.find?_isSome.mpr ⟨_, hway, decide_eq_true hstop⟩
  obtain ⟨w, hw⟩ := Option.isSome_iff_exists.mp hsome
  rw [between, captures?_whole (hasCharLoops_between hloops word), hw]
  exact ⟨_, rfl⟩

end Between

end ScrapeJobs.Regex
