import ScrapeJobs.Proofs.Regex.Cut

/-!
# Reading cut classes

A class is read the same from a cut pattern (`class?_local`). Its readers do look ahead, but never
beyond the closing bracket, which is still to come wherever they are called (`GoesOn`).
-/

namespace ScrapeJobs.Regex

variable {f : Flags} {n m : Nat} {c : Char} {cs rest : List Char}

/-! ## Classes -/

theorem append_rdrop {α : Type} {l l' : List α} (h : n ≤ l'.length) :
    (l ++ l').rdrop n = l ++ l'.rdrop n := by
  induction l with
  | nil => rfl
  | cons a l ih =>
    rw [List.cons_append, rdrop_cons (by rw [List.length_append]; omega), ih, List.cons_append]

/-- A reader that takes a front, whatever stands behind it, takes it off a cut text as well. -/
theorem local_of_prefix {α : Type} {read : List Char → Option (α × List Char)} {a : α}
    {before : List Char} (hne : before ≠ []) (hread : ∀ r, read (before ++ r) = some (a, r))
    (rest : List Char) : Left (before ++ rest) rest ∧
      ∀ n ≤ rest.length, read ((before ++ rest).rdrop n) = some (a, rest.rdrop n) := by
  have hpos := List.length_pos_of_ne_nil hne
  have hlt : rest.length < (before ++ rest).length := by
    rw [List.length_append]
    omega
  refine ⟨⟨List.suffix_append before rest, hlt⟩, fun n hn => ?_⟩
  rw [append_rdrop hn, hread]

theorem drop_takeWhile (p : Char → Bool) (cs : List Char) :
    cs.drop (cs.takeWhile p).length = cs.dropWhile p := by
  have hsplit := List.takeWhile_append_dropWhile (p := p) (l := cs)
  generalize cs.takeWhile p = before at hsplit ⊢
  generalize cs.dropWhile p = after at hsplit ⊢
  rw [← hsplit, List.drop_left]

/-- What `takeWhile` takes in front of a character that it does not take. -/
theorem takeWhile_append_cons {p : Char → Bool} {name : List Char} (hname : ∀ d ∈ name, p d = true)
    (hc : ¬ p c = true) (cs : List Char) : (name ++ c :: cs).takeWhile p = name := by
  rw [List.takeWhile_append_of_pos hname, List.takeWhile_cons_of_neg hc, List.append_nil]

/-- The rest of a class with a name between colons, from the name on. -/
def asciiName? (cs : List Char) : Option (CharSet × List Char) :=
  let name := cs.takeWhile (· != ':')
  match cs.drop name.length with
  | ':' :: ']' :: rest => (asciiClasses.lookup (String.ofList name)).map (⟨·⟩, rest)
  | _ => none

theorem asciiName?_prefix {s : CharSet} (h : asciiName? cs = some (s, rest)) :
    ∃ name, cs = name ++ ':' :: ']' :: rest ∧
      ∀ r, asciiName? (name ++ ':' :: ']' :: r) = some (s, r) := by
  unfold asciiName? at h
  simp only [drop_takeWhile] at h
  have hsplit := List.takeWhile_append_dropWhile (p := (· != ':')) (l := cs)
  have hname : ∀ c ∈ cs.takeWhile (· != ':'), (c != ':') = true :=
    fun c hc => List.all_eq_true.mp List.all_takeWhile c hc
  generalize cs.takeWhile (· != ':') = name at h hsplit hname
  split at h
  · rename_i after hafter
    obtain ⟨ranges, hranges, h⟩ := Option.map_eq_some_iff.mp h
    cases h
    rw [hafter] at hsplit
    refine ⟨name, hsplit.symm, fun r => ?_⟩
    unfold asciiName?
    simp only [takeWhile_append_cons hname (show ¬ (':' != ':') = true by decide), List.drop_left,
      hranges, Option.map_some]
  · cases h

theorem map_asciiName? (negated : Bool) (cs : List Char) :
    (asciiName? cs).map (fun p => (negated, p.1, p.2)) =
      match cs.drop (cs.takeWhile (· != ':')).length with
      | ':' :: ']' :: rest => do
        return (negated, ⟨← asciiClasses.lookup (String.ofList (cs.takeWhile (· != ':')))⟩, rest)
      | _ => none := by
  unfold asciiName?
  simp only
  split
  · cases asciiClasses.lookup (String.ofList (cs.takeWhile (· != ':'))) <;> rfl
  · rfl

theorem asciiClass?_caret (cs : List Char) :
    asciiClass? (':' :: '^' :: cs) = (asciiName? cs).map fun p => (true, p.1, p.2) :=
  (map_asciiName? true cs).symm

theorem asciiClass?_colon (h : cs.head? ≠ some '^') :
    asciiClass? (':' :: cs) = (asciiName? cs).map fun p => (false, p.1, p.2) := by
  have hcaret : ∀ r, cs = '^' :: r → False := by
    rintro r rfl
    exact h rfl
  simp only [asciiClass?, Option.bind_eq_bind, Option.bind_some]
  exact (map_asciiName? false cs).symm

/-- A class with a name is read with its closing bracket and no further. -/
theorem asciiClass?_prefix {negated : Bool} {s : CharSet}
    (h : asciiClass? cs = some (negated, s, rest)) :
    ∃ before, before ≠ [] ∧ cs = before ++ rest ∧
      ∀ r, asciiClass? (before ++ r) = some (negated, s, r) := by
  obtain ⟨l, rfl⟩ : ∃ l, cs = ':' :: l := by
    unfold asciiClass? at h
    split at h
    · exact ⟨_, rfl⟩
    · cases h
  by_cases hl : l.head? = some '^'
  · obtain ⟨m, rfl⟩ := List.head?_eq_some_iff.mp hl
    rw [asciiClass?_caret] at h
    obtain ⟨⟨t, after⟩, hname, h⟩ := Option.map_eq_some_iff.mp h
    cases h
    obtain ⟨name, rfl, hall⟩ := asciiName?_prefix hname
    refine ⟨':' :: '^' :: (name ++ [':', ']']), List.cons_ne_nil _ _, by simp, fun r => ?_⟩
    have hread := hall r
    rw [List.cons_append, List.cons_append, List.append_assoc, asciiClass?_caret]
    simp only [List.cons_append, List.nil_append, hread, Option.map_some]
  · rw [asciiClass?_colon hl] at h
    obtain ⟨⟨t, after⟩, hname, h⟩ := Option.map_eq_some_iff.mp h
    cases h
    obtain ⟨name, rfl, hall⟩ := asciiName?_prefix hname
    refine ⟨':' :: (name ++ [':', ']']), List.cons_ne_nil _ _, by simp, fun r => ?_⟩
    have hhead : (name ++ ':' :: ']' :: r).head? ≠ some '^' := by
      cases name with
      | nil => exact nofun
      | cons c name => exact hl
    have hread := hall r
    rw [List.cons_append, List.append_assoc]
    simp only [List.cons_append, List.nil_append]
    rw [asciiClass?_colon hhead, hread, Option.map_some]

variable {k : OpenClass} {outer : List OpenClass}

theorem leading_nil (f : Flags) (m : Nat) (k : OpenClass) : f.leading m k [] = (k, []) := by
  cases m <;> rfl

/-- Nothing but hyphens and a closing bracket stands for itself at the start of a class. -/
theorem leading_of_ne (hc : c ≠ '-') (f : Flags) (m : Nat) (k : OpenClass) (cs : List Char) :
    f.leading m k (c :: cs) = if c = ']' ∧ k.count = 0 then (k.add (.singleton ']') 0, f.skip cs)
      else (k, c :: cs) := by
  by_cases hclose : c = ']'
  · subst hclose
    cases m <;> simp [Flags.leading]
  · rw [if_neg fun h => hclose h.1]
    unfold Flags.leading
    split
    · rename_i heq
      cases heq
      contradiction
    · rename_i heq
      cases heq
      contradiction
    · rfl

theorem leading_suffix (f : Flags) (m : Nat) (k : OpenClass) (cs : List Char) :
    (f.leading m k cs).2 <:+ cs := by
  induction m generalizing k cs with
  | zero =>
    unfold Flags.leading
    split
    · contradiction
    · split
      · exact (skip_suffix f _).trans (List.suffix_cons _ _)
      · exact List.suffix_rfl
    · exact List.suffix_rfl
  | succ m ih =>
    cases cs with
    | nil => exact List.suffix_rfl
    | cons c r =>
      have hskip := (skip_suffix f r).trans (List.suffix_cons c r)
      by_cases hc : c = '-'
      · subst hc
        exact (ih _ _).trans hskip
      · rw [leading_of_ne hc]
        split
        · exact hskip
        · exact List.suffix_rfl

theorem leading_rdrop {l : Nat} (hm : cs.length ≤ m) (hl : cs.length ≤ l + n)
    (h : n ≤ (f.leading m k cs).2.length) :
    f.leading l k (cs.rdrop n) = ((f.leading m k cs).1, (f.leading m k cs).2.rdrop n) := by
  induction m generalizing k cs l with
  | zero =>
    rw [List.eq_nil_of_length_eq_zero (Nat.le_zero.mp hm), List.rdrop_nil, leading_nil, leading_nil,
      List.rdrop_nil]
  | succ m ih =>
    cases cs with
    | nil => rw [List.rdrop_nil, leading_nil, leading_nil, List.rdrop_nil]
    | cons c r =>
      have hskip := length_skip_le f r
      rw [List.length_cons] at hm hl
      by_cases hc : c = '-'
      · subst hc
        have hread : f.leading (m + 1) k ('-' :: r) =
            f.leading m (k.add (.singleton '-') 0) (f.skip r) := rfl
        rw [hread] at h ⊢
        have hr := h.trans (leading_suffix f m _ _).length_le
        obtain ⟨l, rfl⟩ : ∃ j, l = j + 1 := Nat.exists_eq_add_one.mpr (by omega)
        rw [rdrop_cons (hr.trans hskip), Flags.leading, skip_rdrop hr, ih (by omega) (by omega) h]
      · rw [leading_of_ne hc] at h ⊢
        split at h
        · rename_i hclose
          rw [rdrop_cons (h.trans hskip), leading_of_ne hc, if_pos hclose, skip_rdrop h,
            if_pos hclose]
        · rename_i hclose
          rw [if_neg hclose]
          rcases rdrop_cons_eq r c n with hnil | ⟨-, hcons⟩
          · rw [hnil, leading_nil]
          · rw [hcons, leading_of_ne hc, if_neg hclose]

/-- Opens a class whose caret was read. -/
def Flags.openBehind? (f : Flags) (negated : Bool) (cs : List Char) :
    Option (OpenClass × List Char) :=
  let p := f.leading cs.length { negated } cs
  if p.2.isEmpty then none else some p

theorem openClass?_of_caret (h : f.skip cs = '^' :: rest) :
    f.openClass? cs = f.openBehind? true (f.skip rest) := by
  simp only [Flags.openClass?, h]
  rfl

theorem openClass?_of_ne (h : (f.skip cs).head? ≠ some '^') :
    f.openClass? cs = f.openBehind? false (f.skip cs) := by
  have hcaret : ∀ r, f.skip cs = '^' :: r → False := by
    intro r hr
    rw [hr] at h
    exact h rfl
  simp only [Flags.openClass?]
  rfl

/-- The start of a class is read the same from a cut text that has something behind it. -/
theorem openClass?_local (h : f.openClass? cs = some (k, rest)) :
    rest <:+ cs ∧
      ∀ n < rest.length, f.openClass? (cs.rdrop n) = some (k, rest.rdrop n) := by
  obtain ⟨negated, r, hr, hread, hcut⟩ : ∃ negated r, r <:+ cs ∧
      f.openClass? cs = f.openBehind? negated r ∧
      ∀ n < r.length, f.openClass? (cs.rdrop n) = f.openBehind? negated (r.rdrop n) := by
    by_cases hhead : (f.skip cs).head? = some '^'
    · obtain ⟨r, hr⟩ := List.head?_eq_some_iff.mp hhead
      have hskip := skip_suffix f r
      refine ⟨true, f.skip r, (left_of_skip hr hskip).suffix, openClass?_of_caret hr, ?_⟩
      intro n hn
      rw [openClass?_of_caret (skip_rdrop_cons hr (hn.le.trans hskip.length_le)),
        skip_rdrop hn.le]
    · refine ⟨false, f.skip cs, skip_suffix f cs, openClass?_of_ne hhead, fun n hn => ?_⟩
      have hskip := skip_rdrop hn.le
      rw [openClass?_of_ne (hskip ▸ head?_rdrop_ne hhead n), hskip]
  have hleading := leading_suffix f r.length { negated } r
  rw [hread, Flags.openBehind?] at h
  split at h
  · cases h
  · have hopen : f.leading r.length { negated } r = (k, rest) := Option.some.inj h
    rw [hopen] at hleading
    refine ⟨hleading.trans hr, fun n hn => ?_⟩
    have hle : rest.length ≤ r.length := hleading.length_le
    have hne : (rest.rdrop n).isEmpty = false := List.isEmpty_eq_false_iff.mpr (rdrop_ne_nil hn)
    have hlength := length_rdrop_add (show n ≤ r.length by omega)
    have hopen' := leading_rdrop (l := (r.rdrop n).length) (Nat.le_refl r.length) (by omega)
      (show n ≤ (f.leading r.length { negated } r).2.length by rw [hopen]; exact hn.le)
    rw [hopen] at hopen'
    rw [hcut n (by omega)]
    simp only [Flags.openBehind?, hopen', hne]
    rfl

/-! ### Items and ranges -/

theorem classItem?_local {item : Item} (h : f.classItem? cs = some (item, rest)) :
    Left cs rest ∧ ∀ n ≤ rest.length, (∀ a, item ≠ .anchor a) →
      f.classItem? (cs.rdrop n) = some (item, rest.rdrop n) := by
  unfold Flags.classItem? at h
  split at h
  · cases h
  · obtain ⟨hleft, hcut⟩ := escape?_local h
    refine ⟨left_cons _ hleft.suffix, fun n hn hitem => ?_⟩
    rw [rdrop_cons (hn.trans hleft.lt.le)]
    exact hcut n hn fun a r ha => absurd ha (hitem a)
  · rename_i c r hslash
    cases h
    refine ⟨left_cons c List.suffix_rfl, fun n hn _ => ?_⟩
    rw [rdrop_cons hn]
    simp only [Flags.classItem?]

/-- More than `n` characters are left where a class goes on: at the next item, and behind it if
it is a hyphen. -/
def GoesOn (f : Flags) (n : Nat) (cs : List Char) : Prop :=
  n < (f.skip cs).length ∧ ∀ r, f.skip cs = '-' :: r → n < (f.skip r).length

theorem skip_hyphen (f : Flags) (cs : List Char) : f.skip ('-' :: cs) = '-' :: cs :=
  skip_of_not_blank (by decide +kernel) (by decide) f cs

theorem GoesOn.lt (h : GoesOn f n cs) : n < cs.length := h.1.trans_le (length_skip_le f cs)

/-- The set of an item that is no end of a range. -/
def Flags.singleOf? (f : Flags) : Item → Option CharSet
  | .char c _ => (f.classChar? c).map .singleton
  | .set s => some s
  | .anchor _ => none

/-- The set of the range between two items. -/
def Flags.rangeOf? (f : Flags) : Item → Item → Option CharSet
  | .char lo _, .char hi _ =>
    if hi < lo then none else do return .range (← f.classChar? lo) (← f.classChar? hi)
  | _, _ => none

theorem ne_anchor_of_singleOf? {item : Item} {s : CharSet} (h : f.singleOf? item = some s)
    (a : Anchor) : item ≠ .anchor a := by
  rintro rfl
  cases h

theorem ne_anchor_of_rangeOf? {lo hi : Item} {s : CharSet} (h : f.rangeOf? lo hi = some s)
    (a : Anchor) : lo ≠ .anchor a ∧ hi ≠ .anchor a := by
  constructor
  · rintro rfl
    cases h
  · rintro rfl
    cases lo <;> cases h

/-- What follows an item of a class, which may be the start of a range. -/
def Flags.behindItem? (f : Flags) (item : Item) (cs : List Char) : Option (CharSet × List Char) :=
  match cs with
  | [] => none
  | '-' :: after =>
    match f.skip after with
    | [] => none
    | ']' :: _ => (f.singleOf? item).map (·, cs)
    | '-' :: _ => (f.singleOf? item).map (·, cs)
    | after => (f.classItem? after).bind fun q => (f.rangeOf? item q.1).map (·, q.2)
  | _ => (f.singleOf? item).map (·, cs)

theorem classRange?_eq (f : Flags) (cs : List Char) : f.classRange? cs =
    (f.classItem? cs).bind fun p => f.behindItem? p.1 (f.skip p.2) := by
  unfold Flags.classRange?
  simp only [Option.bind_eq_bind]
  refine congrArg (f.classItem? cs).bind (funext fun p => ?_)
  obtain ⟨item, r⟩ := p
  simp only
  generalize f.skip r = l
  have hsingle : (match item with
      | .char c _ => (f.classChar? c).map fun c => (CharSet.singleton c, l)
      | .set s => some (s, l)
      | .anchor _ => none) = (f.singleOf? item).map (·, l) := by
    cases item with
    | char c byte => simp [Flags.singleOf?, Function.comp_def]
    | set s => rfl
    | anchor a => rfl
  split
  · rfl
  · rename_i after
    split
    · rename_i hafter
      simp only [Flags.behindItem?, hafter]
    · rename_i hafter
      simp only [Flags.behindItem?, hafter]
      exact hsingle
    · rename_i hafter
      simp only [Flags.behindItem?, hafter]
      exact hsingle
    · rename_i hnil hclose hhyphen
      simp only [Flags.behindItem?]
      refine congrArg (f.classItem? (f.skip after)).bind (funext fun q => ?_)
      obtain ⟨last, rest⟩ := q
      cases item with
      | char lo _ =>
        cases last with
        | char hi _ =>
          simp only [Flags.rangeOf?]
          by_cases hlt : hi < lo
          · simp only [if_pos hlt, Option.map_none]
          · simp [if_neg hlt, Option.map_eq_bind, Option.bind_assoc]
        | set | anchor => rfl
      | set | anchor => cases last <;> rfl
  · rename_i hnil hhyphen
    simp only [Flags.behindItem?]
    exact hsingle

/-- Before a hyphen that a bracket or another hyphen follows, an item stands alone. -/
theorem behindItem?_local_of_single {item : Item} {s : CharSet} {d : Char} {after l : List Char}
    (hl : f.skip after = d :: l) (hd : d = ']' ∨ d = '-')
    (h : (f.singleOf? item).map (·, '-' :: after) = some (s, rest)) :
    rest <:+ '-' :: after ∧ (∀ a, item ≠ .anchor a) ∧ ∀ n, GoesOn f n rest →
      f.behindItem? item (('-' :: after).rdrop n) = some (s, rest.rdrop n) := by
  obtain ⟨t, ht, h⟩ := Option.map_eq_some_iff.mp h
  cases h
  refine ⟨List.suffix_rfl, ne_anchor_of_singleOf? ht, fun n hn => ?_⟩
  have hn' : n < (f.skip after).length := hn.2 after (skip_hyphen f after)
  have hskip := length_skip_le f after
  rw [hl, List.length_cons] at hn' hskip
  rw [rdrop_cons (by omega)]
  rcases hd with rfl | rfl
  all_goals
    simp only [Flags.behindItem?, skip_rdrop_cons hl (Nat.le_of_lt_succ hn'), ht,
      Option.map_some]

/-- What follows an item is read the same from a cut text where the class goes on. -/
theorem behindItem?_local {item : Item} {s : CharSet}
    (h : f.behindItem? item cs = some (s, rest)) :
    rest <:+ cs ∧ (∀ a, item ≠ .anchor a) ∧
      ∀ n, GoesOn f n rest → f.behindItem? item (cs.rdrop n) = some (s, rest.rdrop n) := by
  unfold Flags.behindItem? at h
  split at h
  · cases h
  · rename_i after
    split at h
    · cases h
    · rename_i l hl
      exact behindItem?_local_of_single hl (.inl rfl) h
    · rename_i l hl
      exact behindItem?_local_of_single hl (.inr rfl) h
    · rename_i hnil hclose hhyphen
      obtain ⟨⟨last, rest'⟩, hlast, h⟩ := Option.bind_eq_some_iff.mp h
      obtain ⟨t, ht, h⟩ := Option.map_eq_some_iff.mp h
      obtain ⟨rfl, rfl⟩ : t = s ∧ rest' = rest := Prod.mk.inj h
      obtain ⟨hleft, hcut⟩ := classItem?_local hlast
      obtain ⟨d, l, hl⟩ := List.exists_cons_of_ne_nil hnil
      have hskip := skip_suffix f after
      refine ⟨(left_cons _ (hleft.suffix.trans hskip)).suffix,
        fun a => (ne_anchor_of_rangeOf? ht a).1, fun n hn => ?_⟩
      have hrest := hn.lt
      have hlt := hleft.lt
      have hle := hskip.length_le
      have hread := hcut n hrest.le fun a => (ne_anchor_of_rangeOf? ht a).2
      rw [hl, List.length_cons] at hlt hle
      rw [hl, rdrop_cons (by omega)] at hread
      have hclose' := cons_ne (l := l.rdrop n) hclose hl
      have hhyphen' := cons_ne (l := l.rdrop n) hhyphen hl
      rw [rdrop_cons (by omega)]
      simp only [Flags.behindItem?, skip_rdrop_cons hl (show n ≤ l.length by omega), hread,
        Option.bind_some, ht, Option.map_some]
  · rename_i hnil hhyphen
    obtain ⟨t, ht, h⟩ := Option.map_eq_some_iff.mp h
    cases h
    refine ⟨List.suffix_rfl, ne_anchor_of_singleOf? ht, fun n hn => ?_⟩
    have hhyphen' : ∀ t, cs.rdrop n = '-' :: t → False := rdrop_ne (u := ['-']) hhyphen n
    have hnil' : cs.rdrop n = [] → False := rdrop_ne_nil hn.lt
    simp only [Flags.behindItem?, ht, Option.map_some]

theorem classRange?_local {s : CharSet} (h : f.classRange? cs = some (s, rest)) :
    Left cs rest ∧ ∀ n, GoesOn f n rest →
      f.classRange? (cs.rdrop n) = some (s, rest.rdrop n) := by
  rw [classRange?_eq] at h
  obtain ⟨⟨item, r⟩, hitem, h⟩ := Option.bind_eq_some_iff.mp h
  obtain ⟨hleft, hcut⟩ := classItem?_local hitem
  obtain ⟨hsuffix, hanchor, hbehind⟩ := behindItem?_local h
  have hskip := skip_suffix f r
  refine ⟨hleft.trans_suffix (hsuffix.trans hskip), fun n hn => ?_⟩
  have hn' := hn.lt.le.trans hsuffix.length_le
  rw [classRange?_eq, hcut n (hn'.trans hskip.length_le) hanchor, Option.bind_some,
    skip_rdrop hn', hbehind n hn]

/-! ### Whole classes -/

/-- One step of reading a class. It closes the outermost one or leaves open classes. -/
def Flags.classStep? (f : Flags) (k : OpenClass) (outer : List OpenClass) :
    List Char → Option ((CharSet × Nat ⊕ OpenClass × List OpenClass) × List Char)
  | [] => none
  | '[' :: rest =>
    match asciiClass? rest with
    | some (negated, s, rest) => (f.close? negated s).map fun s => (.inr (k.add s 0, outer), rest)
    | none => (f.openClass? rest).map fun p => (.inr (p.1, k :: outer), p.2)
  | ']' :: rest => (f.close? k.negated (k.fold f).1).map fun s =>
    match outer with
    | [] => (.inl (s, (k.fold f).2 + 1), rest)
    | o :: outer => (.inr (o.add s ((k.fold f).2 + 1), outer), rest)
  | '&' :: '&' :: rest => some (.inr (k.operator f .inter, outer), rest)
  | '-' :: '-' :: rest => some (.inr (k.operator f .diff, outer), rest)
  | '~' :: '~' :: rest => some (.inr (k.operator f .symmDiff, outer), rest)
  | cs => (f.classRange? cs).map fun p => (.inr (k.add p.1 0, outer), p.2)

theorem class?_succ (f : Flags) (m : Nat) (k : OpenClass) (outer : List OpenClass)
    (cs : List Char) : f.class? (m + 1) k outer cs =
      (f.classStep? k outer (f.skip cs)).bind fun p =>
        match p.1 with
        | .inl (s, d) => some (s, d, p.2)
        | .inr (k, outer) => f.class? m k outer p.2 := by
  rw [Flags.class?]
  generalize f.skip cs = l
  simp only [Option.bind_eq_bind]
  split
  · rfl
  · rename_i r
    simp only [Flags.classStep?]
    cases asciiClass? r with
    | none => cases f.openClass? r <;> rfl
    | some p =>
      obtain ⟨negated, s, after⟩ := p
      simp only
      cases f.close? negated s <;> rfl
  · simp only [Flags.classStep?]
    cases f.close? k.negated (k.fold f).1 with
    | none => rfl
    | some s => cases outer <;> rfl
  · rfl
  · rfl
  · rfl
  · simp only [Flags.classStep?]
    cases f.classRange? l <;> rfl

/-- A class with a name in a cut text has the name in the whole text, too. -/
theorem asciiClass?_rdrop_eq_none (h : asciiClass? cs = none) (n : Nat) :
    asciiClass? (cs.rdrop n) = none := by
  cases hcut : asciiClass? (cs.rdrop n) with
  | none => rfl
  | some p =>
    obtain ⟨negated, s, after⟩ := p
    obtain ⟨before, -, hbefore, hall⟩ := asciiClass?_prefix hcut
    obtain ⟨behind, hbehind⟩ : cs.rdrop n <+: cs := List.take_prefix _ cs
    rw [hbefore, List.append_assoc] at hbehind
    rw [← hbehind, hall] at h
    cases h

theorem classStep?_local_of_prefix {x : CharSet × Nat ⊕ OpenClass × List OpenClass}
    {before : List Char} (hne : before ≠ [])
    (hread : ∀ r, f.classStep? k outer (before ++ r) = some (x, r)) (rest : List Char) :
    Left (before ++ rest) rest ∧ ∀ n ≤ rest.length, (x.isRight → GoesOn f n rest) →
      f.classStep? k outer ((before ++ rest).rdrop n) = some (x, rest.rdrop n) := by
  obtain ⟨hleft, hcut⟩ := local_of_prefix hne hread rest
  exact ⟨hleft, fun n hn _ => hcut n hn⟩

/-- A class inside a class is read the same from a cut text: by its name, which a cut text does not
have unless the whole text has it, or else up to its first item. -/
theorem classStep?_bracket_local {x : CharSet × Nat ⊕ OpenClass × List OpenClass} {r : List Char}
    (h : f.classStep? k outer ('[' :: r) = some (x, rest)) :
    Left ('[' :: r) rest ∧ ∀ n ≤ rest.length, (x.isRight → GoesOn f n rest) →
      f.classStep? k outer (('[' :: r).rdrop n) = some (x, rest.rdrop n) := by
  cases hname : asciiClass? r with
  | some p =>
    obtain ⟨negated, s, after⟩ := p
    simp only [Flags.classStep?, hname] at h
    obtain ⟨t, ht, h⟩ := Option.map_eq_some_iff.mp h
    cases h
    obtain ⟨before, -, rfl, hall⟩ := asciiClass?_prefix hname
    refine classStep?_local_of_prefix (List.cons_ne_nil '[' before) (fun r => ?_) rest
    simp only [List.cons_append, Flags.classStep?, hall, ht, Option.map_some]
  | none =>
    simp only [Flags.classStep?, hname] at h
    obtain ⟨⟨inner, after⟩, hopen, h⟩ := Option.map_eq_some_iff.mp h
    cases h
    obtain ⟨hsuffix, hcut⟩ := openClass?_local hopen
    refine ⟨left_cons _ hsuffix, fun n hn hgoes => ?_⟩
    have hlt := (hgoes rfl).1.trans_le (length_skip_le f after)
    rw [rdrop_cons (hn.trans hsuffix.length_le)]
    simp only [Flags.classStep?, asciiClass?_rdrop_eq_none hname, hcut n hlt, Option.map_some]

/-- A step of reading a class is read the same from a cut text where the class goes on. Only the
start of a class inside it and its items look ahead of what they take. -/
theorem classStep?_local {x : CharSet × Nat ⊕ OpenClass × List OpenClass}
    (h : f.classStep? k outer cs = some (x, rest)) :
    Left cs rest ∧ ∀ n ≤ rest.length, (x.isRight → GoesOn f n rest) →
      f.classStep? k outer (cs.rdrop n) = some (x, rest.rdrop n) := by
  by_cases hbracket : cs.head? = some '['
  · obtain ⟨r, rfl⟩ := List.head?_eq_some_iff.mp hbracket
    exact classStep?_bracket_local h
  unfold Flags.classStep? at h
  split at h
  · cases h
  · exact absurd rfl hbracket
  · rename_i r
    obtain ⟨s, hs, h⟩ := Option.map_eq_some_iff.mp h
    have hread : ∀ r, f.classStep? k outer ([']'] ++ r) = some (x, r) := by
      intro r
      cases outer
      all_goals
        cases h
        simp only [List.singleton_append, Flags.classStep?, hs, Option.map_some]
    obtain rfl : r = rest := by cases outer <;> cases h <;> rfl
    exact classStep?_local_of_prefix (List.cons_ne_nil _ _) hread r
  · cases h
    exact classStep?_local_of_prefix (List.cons_ne_nil '&' ['&']) (fun _ => rfl) rest
  · cases h
    exact classStep?_local_of_prefix (List.cons_ne_nil '-' ['-']) (fun _ => rfl) rest
  · cases h
    exact classStep?_local_of_prefix (List.cons_ne_nil '~' ['~']) (fun _ => rfl) rest
  · rename_i hnil hopen hclose hinter hdiff hsymm
    obtain ⟨⟨s, after⟩, hrange, h⟩ := Option.map_eq_some_iff.mp h
    obtain ⟨rfl, rfl⟩ := Prod.mk.inj h
    obtain ⟨hleft, hcut⟩ := classRange?_local hrange
    refine ⟨hleft, fun n hn hgoes => ?_⟩
    simp only at hn hgoes
    have hread := hcut n (hgoes rfl)
    have hopen' : ∀ t, cs.rdrop n = '[' :: t → False := rdrop_ne (u := ['[']) hopen n
    have hclose' : ∀ t, cs.rdrop n = ']' :: t → False := rdrop_ne (u := [']']) hclose n
    have hinter' : ∀ t, cs.rdrop n = '&' :: '&' :: t → False := rdrop_ne (u := ['&', '&']) hinter n
    have hdiff' : ∀ t, cs.rdrop n = '-' :: '-' :: t → False := rdrop_ne (u := ['-', '-']) hdiff n
    have hsymm' : ∀ t, cs.rdrop n = '~' :: '~' :: t → False := rdrop_ne (u := ['~', '~']) hsymm n
    have hnil' : cs.rdrop n = [] → False := rdrop_ne_nil (hn.trans_lt hleft.lt)
    simp only [Flags.classStep?, hread, Option.map_some]

/-- What is read from a hyphen on ends no earlier than at what stands behind it. -/
theorem length_classRange?_hyphen {r : List Char} {s : CharSet}
    (h : f.classRange? ('-' :: r) = some (s, rest)) : rest.length ≤ (f.skip r).length := by
  have hitem : f.classItem? ('-' :: r) = some (.char '-' false, r) := rfl
  rw [classRange?_eq, hitem, Option.bind_some] at h
  simp only [Flags.behindItem?] at h
  split at h
  · cases h
  · rename_i after hafter
    have hlength := length_skip_le f after
    split at h
    · cases h
    · obtain ⟨t, -, h⟩ := Option.map_eq_some_iff.mp h
      cases h
      exact Nat.le_refl _
    · obtain ⟨t, -, h⟩ := Option.map_eq_some_iff.mp h
      cases h
      exact Nat.le_refl _
    · obtain ⟨⟨last, rest'⟩, hlast, h⟩ := Option.bind_eq_some_iff.mp h
      obtain ⟨t, -, h⟩ := Option.map_eq_some_iff.mp h
      obtain ⟨-, rfl⟩ : t = s ∧ rest' = rest := Prod.mk.inj h
      have hlt := (classItem?_local hlast).1.lt
      rw [hafter, List.length_cons]
      omega
  · obtain ⟨t, -, h⟩ := Option.map_eq_some_iff.mp h
    cases h
    exact Nat.le_refl _

/-- A class goes on where a step is taken that another one follows. -/
theorem goesOn_of_classStep? {x : CharSet × Nat ⊕ OpenClass × List OpenClass}
    (h : f.classStep? k outer (f.skip cs) = some (x, rest)) (hn : n ≤ rest.length)
    (hright : x.isRight → n < rest.length) : GoesOn f n cs := by
  have hlt := (classStep?_local h).1.lt
  refine ⟨by omega, fun r hr => ?_⟩
  rw [hr] at h
  by_cases hhyphen : r.head? = some '-'
  · obtain ⟨after, rfl⟩ := List.head?_eq_some_iff.mp hhyphen
    cases h
    rw [skip_hyphen, List.length_cons]
    omega
  · have hdiff : ∀ t, '-' :: r = '-' :: '-' :: t → False := by
      rintro t ht
      cases ht
      exact hhyphen rfl
    have hopen : ∀ t, '-' :: r = '[' :: t → False := nofun
    have hclose : ∀ t, '-' :: r = ']' :: t → False := nofun
    have hinter : ∀ t, '-' :: r = '&' :: '&' :: t → False := nofun
    have hsymm : ∀ t, '-' :: r = '~' :: '~' :: t → False := nofun
    simp only [Flags.classStep?] at h
    obtain ⟨⟨s, after⟩, hrange, h⟩ := Option.map_eq_some_iff.mp h
    cases h
    exact (hright rfl).trans_le (length_classRange?_hyphen hrange)

theorem class?_cases {s : CharSet} {d : Nat}
    (h : f.class? (m + 1) k outer cs = some (s, d, rest)) :
    f.classStep? k outer (f.skip cs) = some (.inl (s, d), rest) ∨
      ∃ k' outer' after, f.classStep? k outer (f.skip cs) = some (.inr (k', outer'), after) ∧
        f.class? m k' outer' after = some (s, d, rest) := by
  rw [class?_succ] at h
  obtain ⟨⟨x, after⟩, hstep, h⟩ := Option.bind_eq_some_iff.mp h
  cases x with
  | inl p =>
    cases h
    exact .inl hstep
  | inr p => exact .inr ⟨p.1, p.2, after, hstep, h⟩

theorem goesOn_of_class? {s : CharSet} {d : Nat}
    (h : f.class? m k outer cs = some (s, d, rest)) (hn : n ≤ rest.length) :
    Left cs rest ∧ GoesOn f n cs := by
  induction m generalizing k outer cs with
  | zero => cases h
  | succ m ih =>
    have hskip := skip_suffix f cs
    rcases class?_cases h with hstep | ⟨k', outer', after, hstep, h⟩
    · have hleft := (classStep?_local hstep).1
      exact ⟨hleft.of_suffix hskip, goesOn_of_classStep? hstep hn nofun⟩
    · have hleft := (classStep?_local hstep).1
      obtain ⟨hleft', -⟩ := ih h
      have hlt := hleft'.lt
      exact ⟨hleft'.of_suffix (hleft.suffix.trans hskip),
        goesOn_of_classStep? hstep (by omega) fun _ => by omega⟩

theorem class?_local {s : CharSet} {d : Nat} (h : f.class? m k outer cs = some (s, d, rest))
    (hn : n ≤ rest.length) {l : Nat} (hl : cs.length ≤ l + n) :
    f.class? l k outer (cs.rdrop n) = some (s, d, rest.rdrop n) := by
  induction m generalizing k outer cs l with
  | zero => cases h
  | succ m ih =>
    have hlt := (goesOn_of_class? h hn).1.lt
    have hskip := length_skip_le f cs
    obtain ⟨l, rfl⟩ : ∃ j, l = j + 1 := Nat.exists_eq_add_one.mpr (by omega)
    rw [class?_succ]
    rcases class?_cases h with hstep | ⟨k', outer', after, hstep, h⟩
    · obtain ⟨hleft, hcut⟩ := classStep?_local hstep
      have hlt' := hleft.lt
      rw [skip_rdrop (by omega), hcut n hn nofun]
      rfl
    · obtain ⟨hleft, hcut⟩ := classStep?_local hstep
      obtain ⟨hleft', hgoes⟩ := goesOn_of_class? h hn
      have hlt' := hleft.lt
      have hlt'' := hleft'.lt
      rw [skip_rdrop (by omega), hcut n (by omega) fun _ => hgoes, Option.bind_some]
      exact ih h (by omega)

end ScrapeJobs.Regex
