import ScrapeJobs.Proofs.Regex.Fixed
import ScrapeJobs.Proofs.Regex.Preference
import ScrapeJobs.Proofs.Regex.Template

/-!
# What the groups of generated patterns capture

* A group for any text behind a word captures what stands behind the word, and the pattern
  matches no text that begins otherwise (`exists_captures_behind`).
* Of two groups around a semicolon the first one is greedy: the text is cut at the last
  semicolon that leaves something for the second one (`exists_captures_pair`).
-/

namespace ScrapeJobs.Regex

/-! ## Patterns -/

/-- Any text that is not empty. -/
def Expr.someText : Expr := «repeat» (chars .all) 1 none true

/-- What stands behind a word, as the first group. -/
def behind (word : List Char) : Regex := ⟨.whole (word.map .char ++ [.group 1 .anyText]), []⟩

/-- What stands around a semicolon, as two groups. -/
def pair : Regex := ⟨.whole [.group 1 .someText, .char ';', .group 2 .someText], []⟩

theorem anchored?_any : anchored? Relabel.defaultRegex = some (behind []) := anchored?_defaultRegex

theorem anchored?_daemonSet : anchored? "DaemonSet;(.*)" = some (behind "DaemonSet;".toList) :=
  anchored?_of_read? (by decide)

theorem anchored?_pair : anchored? "(.+);(.+)" = some pair :=
  anchored?_of_read? (by decide)

variable {text : String} {cs : Array Char} {word rest a b : List Char} {i n : Nat}

/-! ## Ways of their parts -/

theorem captures?_whole {xs : List Expr} (hxs : ∀ x ∈ xs, x.hasCharLoops = true)
    (names : List (String × Nat)) (text : String) :
    (Regex.mk (.whole xs) names).captures? text =
      ((waysAll text.toList.toArray xs 0).find? (·.stop = text.toList.length)).map
        fun w => ⟨text.toList, names, ⟨0, w.stop, w.groups⟩⟩ := by
  rw [captures?, find?_whole hxs, Option.map_map]
  rfl

theorem runLength_all (cs : Array Char) (i : Nat) : runLength cs .all i = cs.size - i := by
  have hall : (cs.toList.drop i).takeWhile CharSet.all.contains = cs.toList.drop i :=
    List.takeWhile_eq_self_iff.mpr fun c _ => contains_all c
  rw [runLength, hall, List.length_drop, Array.length_toList]

theorem ways_char (cs : Array Char) (c : Char) (i : Nat) :
    (Expr.char c).ways cs i = if cs[i]? = some c then [⟨i + 1, []⟩] else [] := by
  have hiff : cs[i]?.any (CharSet.singleton c).contains = true ↔ cs[i]? = some c := by
    cases cs[i]? with
    | none => simp
    | some d => rw [Option.any_some, contains_singleton, Option.some_inj]
  rw [Expr.char, Expr.ways]
  simp only [hiff]

/-- A greedy group for text stops at each place that is not too near, the last one first. -/
theorem ways_group {number min : Nat} (cs : Array Char) (i : Nat) :
    (Expr.group number (.repeat (.chars .all) min none true)).ways cs i =
      (List.range' (i + min) (cs.size - i + 1 - min)).reverse.map
        fun k => ⟨k, [(number, i, k)]⟩ := by
  simp only [Expr.ways, runLength_all, List.map_map]
  rfl

/-- So it reaches to the end first. -/
theorem exists_ways_group (number : Nat) {min : Nat} (h : i + min ≤ cs.size) :
    ∃ ws, (Expr.group number (.repeat (.chars .all) min none true)).ways cs i =
      ⟨cs.size, [(number, i, cs.size)]⟩ :: ws := by
  have hlength : cs.size - i + 1 - min = (cs.size - (i + min)) + 1 := by omega
  have hlast : i + min + 1 * (cs.size - (i + min)) = cs.size := by omega
  rw [ways_group, hlength, List.range'_concat, hlast, List.reverse_append]
  exact ⟨_, rfl⟩

/-- A word is matched in one way or not at all. -/
theorem waysAll_chars (cs : List Char) (word : List Char) (i : Nat) :
    waysAll cs.toArray (word.map .char) i =
      if word <+: cs.drop i then [⟨i + word.length, []⟩] else [] := by
  induction word generalizing i with
  | nil => simp [waysAll]
  | cons c rest ih =>
    rw [List.map_cons, waysAll, ways_char, List.getElem?_toArray]
    by_cases hc : cs[i]? = some c
    · rw [if_pos hc, goOnWays_singleton, ih]
      simp only [cons_prefix_drop_iff, hc, true_and, List.length_cons, Nat.add_assoc,
        Nat.add_comm 1]
    · rw [if_neg hc, if_neg (fun h => hc ((cons_prefix_drop_iff _ _ _ _).mp h).1)]
      rfl

/-! ## Behind a word -/

theorem hasCharLoops_append (word : List Char) {xs : List Expr}
    (hxs : ∀ x ∈ xs, x.hasCharLoops = true) :
    ∀ x ∈ word.map Expr.char ++ xs, x.hasCharLoops = true := by
  intro x hx
  rcases List.mem_append.mp hx with hx | hx
  · obtain ⟨c, -, rfl⟩ := List.mem_map.mp hx
    rfl
  · exact hxs x hx

theorem hasCharLoops_behind (word : List Char) :
    ∀ x ∈ word.map Expr.char ++ [.group 1 .anyText], x.hasCharLoops = true :=
  hasCharLoops_append word (by decide)

theorem exists_captures_behind (h : text.toList = word ++ rest) :
    ∃ c, (behind word).captures? text = some c ∧ c.group 1 = rest := by
  have hpre : word <+: text.toList.drop 0 := ⟨rest, h.symm⟩
  have hle : 0 + word.length + 0 ≤ text.toList.toArray.size := by
    rw [List.size_toArray, h, List.length_append]
    omega
  obtain ⟨ws, hws⟩ := exists_ways_group 1 hle
  have hways : waysAll text.toList.toArray (word.map .char ++ [.group 1 .anyText]) 0 =
      ⟨text.toList.length, [(1, 0 + word.length, text.toList.length)]⟩ :: ws := by
    rw [waysAll_append, waysAll_chars, if_pos hpre, goOnWays_singleton, waysAll_singleton,
      Expr.anyText, hws]
    rfl
  rw [behind, captures?_whole (hasCharLoops_behind word), hways, List.find?_cons_of_pos (by simp)]
  refine ⟨_, rfl, ?_⟩
  simp [Captures.group, Match.span?, h]

theorem captures?_behind_eq_none (h : ¬ word <+: text.toList) :
    (behind word).captures? text = none := by
  rw [behind, captures?_whole (hasCharLoops_behind word), waysAll_append, waysAll_chars,
    List.drop_zero, if_neg h]
  rfl

/-! ## Around a semicolon -/

/-- The way that cuts a text at a place, if a semicolon stands there and something behind it. -/
def cut? (cs : Array Char) (k : Nat) : Option Way :=
  if cs[k]? = some ';' ∧ k + 1 < cs.size then
    some ⟨cs.size, [(2, k + 1, cs.size), (1, 0, k)]⟩
  else none

/-- The text is cut at the last place where it can be. -/
theorem find?_waysAll_pair (cs : Array Char) :
    (waysAll cs [.group 1 .someText, .char ';', .group 2 .someText] 0).find?
        (·.stop = cs.size) = (List.range' 1 cs.size).reverse.findSome? (cut? cs) := by
  have hlength : cs.size - 0 + 1 - 1 = cs.size := by omega
  have hrest : ∀ k, ((waysAll cs [.char ';', .group 2 .someText] k).map
      (⟨k, [(1, 0, k)]⟩ : Way).andThen).find? (·.stop = cs.size) = cut? cs k := by
    intro k
    rw [waysAll, ways_char, cut?]
    by_cases hc : cs[k]? = some ';'
    · rw [if_pos hc, goOnWays_singleton, waysAll_singleton, Expr.someText]
      by_cases hk : k + 1 < cs.size
      · obtain ⟨ws, hws⟩ := exists_ways_group 2 (show k + 1 + 1 ≤ cs.size from hk)
        rw [hws, if_pos ⟨hc, hk⟩, List.map_cons, List.find?_cons_of_pos (by simp [Way.andThen])]
        rfl
      · have hnone : cs.size - (k + 1) + 1 - 1 = 0 := by omega
        rw [ways_group, hnone, if_neg fun h => hk h.2]
        rfl
    · rw [if_neg hc, if_neg fun h => hc h.1]
      rfl
  rw [waysAll, Expr.someText, ways_group, hlength, Nat.zero_add, goOnWays, List.find?_flatMap,
    List.findSome?_map]
  exact findSome?_congr fun k _ => hrest k

/-- What holds at a place and at none behind it is found there from the right. -/
theorem findSome?_reverse_range' {β : Type} {f : Nat → Option β} {y : β} {k m : Nat}
    (hm : m ≤ k) (hn : k < m + n) (hk : f k = some y) (hlater : ∀ j, k < j → f j = none) :
    (List.range' m n).reverse.findSome? f = some y := by
  induction n with
  | zero => omega
  | succ n ih =>
    rw [List.range'_concat, List.reverse_append, List.reverse_singleton, List.singleton_append,
      List.findSome?_cons, Nat.one_mul]
    by_cases hlast : k = m + n
    · rw [← hlast, hk]
    · rw [hlater (m + n) (by omega)]
      exact ih (by omega)

theorem captures?_pair (text : String) : pair.captures? text =
    ((List.range' 1 text.toList.length).reverse.findSome? (cut? text.toList.toArray)).map
      fun w => ⟨text.toList, [], ⟨0, w.stop, w.groups⟩⟩ := by
  rw [pair, captures?_whole (by decide), ← List.size_toArray, find?_waysAll_pair]

theorem exists_captures_pair (h : text.toList = a ++ ';' :: b) (ha : a ≠ []) (hb : b ≠ [])
    (hlast : ';' ∉ b.dropLast) :
    ∃ c, pair.captures? text = some c ∧ c.group 1 = a ∧ c.group 2 = b := by
  have hsize : text.toList.toArray.size = a.length + 1 + b.length := by
    rw [List.size_toArray, h, List.length_append, List.length_cons]
    omega
  have hbpos := List.length_pos_of_ne_nil hb
  have hapos := List.length_pos_of_ne_nil ha
  have hhere : cut? text.toList.toArray a.length =
      some ⟨text.toList.toArray.size,
        [(2, a.length + 1, text.toList.toArray.size), (1, 0, a.length)]⟩ := by
    refine if_pos ⟨?_, by omega⟩
    rw [List.getElem?_toArray, h, List.getElem?_append_right (Nat.le_refl _), Nat.sub_self]
    rfl
  have hlater : ∀ j, a.length < j → cut? text.toList.toArray j = none := by
    intro j hj
    refine if_neg fun hcut => hlast ?_
    obtain ⟨hc, hlt⟩ := hcut
    obtain ⟨m, rfl⟩ := Nat.exists_eq_add_of_lt hj
    have hc' : b[m]? = some ';' := by
      rw [List.getElem?_toArray, h, List.getElem?_append_right (by omega)] at hc
      rwa [show a.length + m + 1 - a.length = m + 1 by omega, List.getElem?_cons_succ] at hc
    have hm : m < b.dropLast.length := by
      rw [List.length_dropLast]
      omega
    rw [List.mem_iff_getElem?]
    refine ⟨m, ?_⟩
    rw [List.getElem?_eq_getElem hm, List.getElem_dropLast, ← List.getElem?_eq_getElem, hc']
  have hfound := findSome?_reverse_range' (n := text.toList.length) hapos (by
    rw [List.size_toArray] at hsize
    omega) hhere hlater
  rw [captures?_pair, hfound]
  refine ⟨_, rfl, ?_, ?_⟩
  · change (text.toList.drop 0).take (a.length - 0) = a
    rw [h, List.drop_zero, Nat.sub_zero, List.take_left]
  · change (text.toList.drop (a.length + 1)).take (text.toList.toArray.size - (a.length + 1)) = b
    have hlength : text.toList.toArray.size - (a.length + 1) = b.length := by omega
    rw [hlength, h, ← List.drop_drop, List.drop_left, List.drop_succ_cons, List.drop_zero,
      List.take_length]

/-- A text that has no semicolon with something on both sides is not matched. -/
theorem captures?_pair_eq_none (h : ∀ a b, text.toList = a ++ ';' :: b → a = [] ∨ b = []) :
    pair.captures? text = none := by
  have hnone : ∀ k ∈ (List.range' 1 text.toList.length).reverse,
      cut? text.toList.toArray k = none := by
    intro k hk
    have hpos := (List.mem_range'_1.mp (List.mem_reverse.mp hk)).1
    refine if_neg fun hcut => ?_
    obtain ⟨hc, hlt⟩ := hcut
    rw [List.getElem?_toArray] at hc
    rw [List.size_toArray] at hlt
    obtain ⟨hk', hget⟩ := List.getElem?_eq_some_iff.mp hc
    have hsplit : text.toList = text.toList.take k ++ ';' :: text.toList.drop (k + 1) := by
      rw [← hget, List.getElem_cons_drop, List.take_append_drop]
    rcases h _ _ hsplit with hnil | hnil
    · have := congrArg List.length hnil
      simp only [List.length_take, List.length_nil] at this
      omega
    · have := congrArg List.length hnil
      simp only [List.length_drop, List.length_nil] at this
      omega
  rw [captures?_pair, List.findSome?_eq_none_iff.mpr hnone]
  rfl

/-! ## Templates over the groups -/

theorem value_first (c : Captures) : c.value ['1'] = c.group 1 := rfl

theorem value_second (c : Captures) : c.value ['2'] = c.group 2 := rfl

/-- A digit behind a dollar sign is a reference to a group. -/
theorem expandPieces_digit (value : List Char → List Char) {d : Char} {rest : List Char}
    (hd : isReferenceChar d = true) (hrest : rest.takeWhile isReferenceChar = []) :
    expandPieces value ('$' :: ([d] ++ rest)) = value [d] ++ expandPieces value rest :=
  expandPieces_group value (List.cons_ne_nil d []) (List.forall_mem_singleton.mpr hd) hrest

/-- A reference to a group and nothing else. -/
theorem expand_digit (c : Captures) {template : String} {d : Char}
    (h : template.toList = ['$', d]) (hd : isReferenceChar d = true) :
    c.expand template = String.ofList (c.value [d]) := by
  have htemplate : template.toList = '$' :: ([d] ++ []) := h
  rw [Captures.expand, htemplate, expandPieces_digit _ hd List.takeWhile_nil,
    expandPieces_of_not_mem _ List.not_mem_nil, List.append_nil]

theorem expand_one (c : Captures) : c.expand "$1" = String.ofList (c.group 1) :=
  expand_digit c (d := '1') rfl rfl

theorem expand_two (c : Captures) : c.expand "$2" = String.ofList (c.group 2) :=
  expand_digit c (d := '2') rfl rfl

/-- The first group with a text behind it that does not go on as a reference. -/
theorem expand_first (c : Captures) {suffix : String} (hdollar : '$' ∉ suffix.toList)
    (hsuffix : suffix.toList.takeWhile isReferenceChar = []) :
    c.expand ("$1" ++ suffix) = String.ofList (c.group 1) ++ suffix := by
  have htemplate : ("$1" ++ suffix).toList = '$' :: (['1'] ++ suffix.toList) := by
    rw [String.toList_append]
    rfl
  rw [Captures.expand, htemplate, expandPieces_digit _ rfl hsuffix,
    expandPieces_of_not_mem _ hdollar, value_first, String.ofList_append, String.ofList_toList]

/-- Two groups with a colon between them. -/
theorem expand_pair (c : Captures) : c.expand "$1:$2" =
    String.ofList (c.group 1) ++ ":" ++ String.ofList (c.group 2) := by
  have htemplate : "$1:$2".toList = '$' :: (['1'] ++ ':' :: '$' :: (['2'] ++ [])) := by decide
  rw [Captures.expand, htemplate, expandPieces_digit _ rfl (by decide),
    expandPieces_cons _ (by decide), expandPieces_digit _ rfl (by decide),
    expandPieces_of_not_mem _ List.not_mem_nil, value_first, value_second, List.append_nil,
    ← String.toList_inj]
  simp

end ScrapeJobs.Regex
