import Mathlib.Data.List.DropRight
import ScrapeJobs.Regex.Reader

/-!
# Reading cut patterns

What a reader takes off the front of a pattern, it takes off a pattern that is cut at its end as
well (`List.rdrop`), if the cut leaves all of it there. Each reader has a lemma for this, which also
says that its rest is what was left (`Left`). Only an escape looks ahead of what it takes: a brace
behind a word boundary may begin its name (`escape?_local`).
-/

namespace ScrapeJobs.Regex

variable {f : Flags} {n m k base : Nat} {c : Char} {cs rest : List Char}

/-! ## Cut texts -/

theorem rdrop_cons {α : Type} {l : List α} (h : n ≤ l.length) (a : α) :
    (a :: l).rdrop n = a :: l.rdrop n := by
  rw [List.rdrop, List.length_cons, Nat.succ_sub h, List.take_succ_cons, List.rdrop]

theorem rdrop_eq_nil {α : Type} {l : List α} (h : l.length ≤ n) : l.rdrop n = [] := by
  rw [List.rdrop, Nat.sub_eq_zero_of_le h, List.take_zero]

/-- Nothing is left of a cut text, or it begins as before. -/
theorem rdrop_cons_eq {α : Type} (l : List α) (a : α) (n : Nat) :
    (a :: l).rdrop n = [] ∨ (n ≤ l.length ∧ (a :: l).rdrop n = a :: l.rdrop n) := by
  rcases Nat.lt_or_ge l.length n with h | h
  · exact .inl (rdrop_eq_nil h)
  · exact .inr ⟨h, rdrop_cons h a⟩

/-- A cut text does not begin with what the whole text does not begin with. -/
theorem rdrop_ne {α : Type} {l u : List α} (h : ∀ t, l = u ++ t → False) (n : Nat) :
    ∀ t, l.rdrop n = u ++ t → False := by
  intro t ht
  obtain ⟨behind, hbehind⟩ : l.rdrop n <+: l := List.take_prefix _ l
  rw [ht, List.append_assoc] at hbehind
  exact h _ hbehind.symm

theorem head?_rdrop_ne (h : cs.head? ≠ some c) (n : Nat) : (cs.rdrop n).head? ≠ some c := by
  cases cs with
  | nil =>
    rw [List.rdrop_nil]
    exact h
  | cons d r =>
    rcases rdrop_cons_eq r d n with hnil | ⟨-, hcons⟩
    · rw [hnil]
      exact nofun
    · rw [hcons]
      exact h

theorem length_rdrop_add {α : Type} {l : List α} (h : n ≤ l.length) :
    (l.rdrop n).length + n = l.length := by
  rw [List.rdrop, List.length_take]
  omega

theorem rdrop_ne_nil {α : Type} {l : List α} (h : n < l.length) : l.rdrop n ≠ [] := by
  have hlength := length_rdrop_add h.le
  rw [← List.length_pos_iff]
  omega

/-- What is left of a text when something was taken from its front. -/
structure Left (cs rest : List Char) : Prop where
  suffix : rest <:+ cs
  lt : rest.length < cs.length

theorem left_cons (c : Char) {r : List Char} (h : rest <:+ r) : Left (c :: r) rest :=
  ⟨h.trans (List.suffix_cons c r), Nat.lt_succ_of_le h.length_le⟩

theorem Left.of_suffix {l : List Char} (h : Left l rest) (hl : l <:+ cs) : Left cs rest :=
  ⟨h.suffix.trans hl, h.lt.trans_le hl.length_le⟩

theorem Left.trans_suffix {r : List Char} (h : Left cs rest) (hr : r <:+ rest) : Left cs r :=
  ⟨hr.trans h.suffix, hr.length_le.trans_lt h.lt⟩

theorem dropWhile_rdrop {p : Char → Bool} (h : n ≤ (cs.dropWhile p).length) :
    (cs.rdrop n).dropWhile p = (cs.dropWhile p).rdrop n := by
  induction cs with
  | nil => rw [List.dropWhile_nil, List.rdrop_nil, List.dropWhile_nil]
  | cons c r ih =>
    by_cases hc : p c = true
    · rw [List.dropWhile_cons_of_pos hc] at h ⊢
      rw [rdrop_cons (h.trans (List.dropWhile_suffix p).length_le), List.dropWhile_cons_of_pos hc, ih h]
    · rw [List.dropWhile_cons_of_neg hc]
      rcases rdrop_cons_eq r c n with hnil | ⟨-, hcons⟩
      · rw [hnil, List.dropWhile_nil]
      · rw [hcons, List.dropWhile_cons_of_neg hc]

/-! ## Blanks and numbers -/

/-- A character is skipped, whatever follows it, or it is where the skipping ends. -/
theorem skipBlanks_cons (inComment : Bool) (c : Char) :
    (∃ b, ∀ cs, skipBlanks inComment (c :: cs) = skipBlanks b cs) ∨
      ∀ cs, skipBlanks inComment (c :: cs) = c :: cs := by
  by_cases hc : inComment = true
  · exact .inl ⟨c != '\n', fun cs => by rw [skipBlanks, if_pos hc]⟩
  · by_cases hb : isBlank c = true
    · exact .inl ⟨false, fun cs => by rw [skipBlanks, if_neg hc, if_pos hb]⟩
    · by_cases hh : c = '#'
      · exact .inl ⟨true, fun cs => by rw [skipBlanks, if_neg hc, if_neg hb, if_pos hh]⟩
      · exact .inr fun cs => by rw [skipBlanks, if_neg hc, if_neg hb, if_neg hh]

theorem skipBlanks_suffix (inComment : Bool) (cs : List Char) :
    skipBlanks inComment cs <:+ cs := by
  induction cs generalizing inComment with
  | nil => exact List.suffix_rfl
  | cons c r ih =>
    obtain ⟨b, hb⟩ | hstop := skipBlanks_cons inComment c
    · rw [hb]
      exact (ih b).trans (List.suffix_cons c r)
    · simp only [hstop, List.suffix_rfl]

theorem skipBlanks_rdrop {inComment : Bool} (h : n ≤ (skipBlanks inComment cs).length) :
    skipBlanks inComment (cs.rdrop n) = (skipBlanks inComment cs).rdrop n := by
  induction cs generalizing inComment with
  | nil => rw [skipBlanks, List.rdrop_nil, skipBlanks]
  | cons c r ih =>
    obtain ⟨b, hb⟩ | hstop := skipBlanks_cons inComment c
    · rw [hb] at h ⊢
      rw [rdrop_cons (h.trans (skipBlanks_suffix b r).length_le), hb, ih h]
    · rw [hstop]
      rcases rdrop_cons_eq r c n with hnil | ⟨-, hcons⟩
      · rw [hnil, skipBlanks]
      · rw [hcons, hstop]

theorem skip_suffix (f : Flags) (cs : List Char) : f.skip cs <:+ cs := by
  unfold Flags.skip
  split
  · exact skipBlanks_suffix false cs
  · exact List.suffix_rfl

theorem length_skip_le (f : Flags) (cs : List Char) : (f.skip cs).length ≤ cs.length :=
  (skip_suffix f cs).length_le

theorem skip_rdrop (h : n ≤ (f.skip cs).length) : f.skip (cs.rdrop n) = (f.skip cs).rdrop n := by
  unfold Flags.skip at h ⊢
  split at h
  · rename_i hf
    simp only [if_pos hf, skipBlanks_rdrop h]
  · rename_i hf
    simp only [if_neg hf]

theorem skip_of_not_blank (hblank : isBlank c = false) (hhash : c ≠ '#') (f : Flags)
    (cs : List Char) : f.skip (c :: cs) = c :: cs := by
  simp only [Flags.skip, skipBlanks, hblank, hhash]
  split <;> rfl

/-- What is behind a character that is not skipped is left of the text. -/
theorem left_of_skip {r : List Char} (h : f.skip cs = c :: r) (hr : rest <:+ r) : Left cs rest :=
  (left_cons c hr).of_suffix (h ▸ skip_suffix f cs)

/-- Where a text does not go on with a character, one with the same head does not either. -/
theorem cons_ne {d : Char} {l r : List Char} (h : ∀ t, cs = d :: t → False) (hr : cs = c :: r) :
    ∀ t, c :: l = d :: t → False := by
  rintro t ht
  cases ht
  exact h r hr

theorem skip_rdrop_cons {r : List Char} (h : f.skip cs = c :: r) (hn : n ≤ r.length) :
    f.skip (cs.rdrop n) = c :: r.rdrop n := by
  rw [skip_rdrop (by rw [h]; exact Nat.le_succ_of_le hn), h, rdrop_cons hn]

/-! ## Numbers -/

/-- The characters with a property at the start of a text, what is skipped between them left
out. -/
def Flags.takeSkipping (f : Flags) (p : Char → Bool) : Nat → List Char → List Char × List Char
  | 0, cs => ([], cs)
  | m + 1, c :: rest =>
    if p c then
      let (taken, rest) := f.takeSkipping p m (f.skip rest)
      (c :: taken, rest)
    else ([], c :: rest)
  | _ + 1, [] => ([], [])

theorem digits_eq_takeSkipping (f : Flags) (base m : Nat) (cs : List Char) :
    f.digits base m cs = f.takeSkipping (fun c => (digitValue? base c).isSome) m cs := by
  induction m generalizing cs with
  | zero => rfl
  | succ m ih =>
    cases cs with
    | nil => rfl
    | cons c r => simp only [Flags.digits, Flags.takeSkipping, ih]

theorem letters_eq_takeSkipping (f : Flags) (m : Nat) (cs : List Char) :
    Flags.namedBoundary?.letters f m cs =
      f.takeSkipping Flags.namedBoundary?.isNameChar m cs := by
  induction m generalizing cs with
  | zero => rfl
  | succ m ih =>
    cases cs with
    | nil => rfl
    | cons c r => simp only [Flags.namedBoundary?.letters, Flags.takeSkipping, ih]

section TakeSkipping

variable {p : Char → Bool}

theorem takeSkipping_nil (f : Flags) (p : Char → Bool) (m : Nat) :
    f.takeSkipping p m [] = ([], []) := by
  cases m <;> rfl

theorem takeSkipping_of_not (hc : ¬ p c = true) (f : Flags) (m : Nat) (cs : List Char) :
    f.takeSkipping p m (c :: cs) = ([], c :: cs) := by
  cases m with
  | zero => rfl
  | succ m => rw [Flags.takeSkipping, if_neg hc]

theorem takeSkipping_suffix (f : Flags) (p : Char → Bool) (m : Nat) (cs : List Char) :
    (f.takeSkipping p m cs).2 <:+ cs := by
  induction m generalizing cs with
  | zero => exact List.suffix_rfl
  | succ m ih =>
    cases cs with
    | nil => exact List.suffix_rfl
    | cons c r =>
      by_cases hc : p c = true
      · rw [Flags.takeSkipping, if_pos hc]
        exact (left_cons c ((ih _).trans (skip_suffix f r))).suffix
      · simp only [takeSkipping_of_not hc, List.suffix_rfl]

theorem takeSkipping_left (h : (f.takeSkipping p m cs).1 ≠ []) :
    Left cs (f.takeSkipping p m cs).2 := by
  cases m with
  | zero => exact absurd rfl h
  | succ m =>
    cases cs with
    | nil => exact absurd rfl h
    | cons c r =>
      by_cases hc : p c = true
      · rw [Flags.takeSkipping, if_pos hc]
        exact left_cons c ((takeSkipping_suffix f p m _).trans (skip_suffix f r))
      · rw [takeSkipping_of_not hc] at h
        exact absurd rfl h

/-- The same is taken from a cut text with the same fuel or enough of it. -/
theorem takeSkipping_rdrop {k : Nat} (hfuel : k = m ∨ cs.length ≤ m ∧ cs.length ≤ k + n)
    (h : n ≤ (f.takeSkipping p m cs).2.length) :
    f.takeSkipping p k (cs.rdrop n) =
      ((f.takeSkipping p m cs).1, (f.takeSkipping p m cs).2.rdrop n) := by
  induction m generalizing cs k with
  | zero =>
    rcases hfuel with rfl | ⟨hcs, -⟩
    · rfl
    · rw [List.eq_nil_of_length_eq_zero (Nat.le_zero.mp hcs), List.rdrop_nil, takeSkipping_nil,
        takeSkipping_nil, List.rdrop_nil]
  | succ m ih =>
    cases cs with
    | nil => rw [List.rdrop_nil, takeSkipping_nil, takeSkipping_nil, List.rdrop_nil]
    | cons c r =>
      by_cases hc : p c = true
      · have hread : f.takeSkipping p (m + 1) (c :: r) =
            (c :: (f.takeSkipping p m (f.skip r)).1, (f.takeSkipping p m (f.skip r)).2) := by
          rw [Flags.takeSkipping, if_pos hc]
        rw [hread] at h ⊢
        have hskip : n ≤ (f.skip r).length := h.trans (takeSkipping_suffix f p m _).length_le
        have hlength := length_skip_le f r
        rw [List.length_cons] at hfuel
        obtain ⟨k, rfl⟩ : ∃ j, k = j + 1 := Nat.exists_eq_add_one.mpr (by omega)
        rw [rdrop_cons (hskip.trans hlength), Flags.takeSkipping, if_pos hc, skip_rdrop hskip,
          ih (by omega) h]
      · rw [takeSkipping_of_not hc]
        rcases rdrop_cons_eq r c n with hnil | ⟨-, hcons⟩
        · rw [hnil, takeSkipping_nil]
        · rw [hcons, takeSkipping_of_not hc]

end TakeSkipping

theorem digits_suffix (f : Flags) (base m : Nat) (cs : List Char) :
    (f.digits base m cs).2 <:+ cs := by
  rw [digits_eq_takeSkipping]
  exact takeSkipping_suffix f _ m cs

theorem digits_left (h : (f.digits base m cs).1 ≠ []) : Left cs (f.digits base m cs).2 := by
  rw [digits_eq_takeSkipping] at h ⊢
  exact takeSkipping_left h

theorem digits_rdrop (h : n ≤ (f.digits base m cs).2.length) :
    f.digits base m (cs.rdrop n) =
      ((f.digits base m cs).1, (f.digits base m cs).2.rdrop n) := by
  rw [digits_eq_takeSkipping] at h ⊢
  rw [digits_eq_takeSkipping, takeSkipping_rdrop (.inl rfl) h]

theorem digits_length_rdrop (h : n ≤ (f.digits base cs.length cs).2.length) :
    f.digits base (cs.rdrop n).length (cs.rdrop n) =
      ((f.digits base cs.length cs).1, (f.digits base cs.length cs).2.rdrop n) := by
  have hlength := length_rdrop_add (h.trans (digits_suffix f base cs.length cs).length_le)
  rw [digits_eq_takeSkipping] at h ⊢
  rw [digits_eq_takeSkipping, takeSkipping_rdrop (.inr ⟨Nat.le_refl _, by omega⟩) h]

theorem count?_local {a : Nat} (h : f.count? cs = some (a, rest)) :
    Left cs rest ∧ ∀ n ≤ rest.length, f.count? (cs.rdrop n) = some (a, rest.rdrop n) := by
  unfold Flags.count? at h
  simp only at h
  generalize hread : f.digits 10 (cs.dropWhile isBlank).length (cs.dropWhile isBlank) = read at h
  split at h
  · cases h
  · rename_i hdigits
    cases h
    have hne : read.1 ≠ [] := fun hnil => hdigits (.inl (by rw [hnil]; rfl))
    have hleft : Left (cs.dropWhile isBlank) read.2 := by
      rw [← hread] at hne ⊢
      exact digits_left hne
    have hskip := skip_suffix f read.2
    have hblank : (f.skip read.2).dropWhile isBlank <:+ f.skip read.2 := List.dropWhile_suffix _
    refine ⟨(hleft.trans_suffix (hblank.trans hskip)).of_suffix (List.dropWhile_suffix _),
      fun n hn => ?_⟩
    have hlt := hleft.lt
    have hle := hskip.length_le
    have hn' := hn.trans hblank.length_le
    have hcut : f.digits 10 ((cs.dropWhile isBlank).rdrop n).length
        ((cs.dropWhile isBlank).rdrop n) = (read.1, read.2.rdrop n) := by
      rw [digits_length_rdrop (by rw [hread]; omega), hread]
    unfold Flags.count?
    rw [dropWhile_rdrop (by omega)]
    simp only [hcut, if_neg hdigits, skip_rdrop hn', dropWhile_rdrop hn]

/-! ## Escapes -/

/-- The character whose code stands in braces, after the opening one. -/
def Flags.bracedCode? (f : Flags) (cs : List Char) : Option (Item × List Char) :=
  let read := f.digits 16 (f.skip cs).length (f.skip cs)
  match read.2 with
  | '\x7d' :: rest =>
    if read.1.isEmpty ∨ UInt32.size ≤ numberOf 16 read.1 then none
    else (charOfCode? (numberOf 16 read.1)).map fun c => (.char c false, f.skip rest)
  | _ => none

/-- The character whose code has a fixed number of digits. -/
def Flags.shortCode? (f : Flags) (k : Nat) (cs : List Char) : Option (Item × List Char) :=
  let read := f.digits 16 k cs
  if read.1.length ≠ k then none
  else (charOfCode? (numberOf 16 read.1)).map fun c => (.char c (k = 2), read.2)

theorem hexEscape?_eq (f : Flags) (k : Nat) (cs : List Char) : f.hexEscape? k cs =
    match f.skip cs with
    | [] => none
    | '\x7b' :: rest => f.bracedCode? rest
    | cs => f.shortCode? k cs := by
  unfold Flags.hexEscape? Flags.bracedCode? Flags.shortCode?
  simp only [Option.map_eq_bind]
  rfl

theorem bracedCode?_local {item : Item} (h : f.bracedCode? cs = some (item, rest)) :
    Left cs rest ∧ ∀ n ≤ rest.length, f.bracedCode? (cs.rdrop n) = some (item, rest.rdrop n) := by
  unfold Flags.bracedCode? at h
  simp only at h
  generalize hread : f.digits 16 (f.skip cs).length (f.skip cs) = read at h
  split at h
  · rename_i after hafter
    split at h
    · cases h
    · rename_i hdigits
      obtain ⟨c, hc, h⟩ := Option.map_eq_some_iff.mp h
      cases h
      have hclose : '\x7d' :: after <:+ f.skip cs := by
        have hsuffix := digits_suffix f 16 (f.skip cs).length (f.skip cs)
        rwa [hread, hafter] at hsuffix
      have hskip := skip_suffix f after
      have hleft : Left (f.skip cs) (f.skip after) := (left_cons _ hskip).of_suffix hclose
      refine ⟨hleft.of_suffix (skip_suffix f cs), fun n hn => ?_⟩
      have hn' := hn.trans hskip.length_le
      have hcut : f.digits 16 ((f.skip cs).rdrop n).length ((f.skip cs).rdrop n) =
          (read.1, '\x7d' :: after.rdrop n) := by
        rw [digits_length_rdrop (by rw [hread, hafter]; exact Nat.le_succ_of_le hn'), hread,
          hafter, rdrop_cons hn']
      simp only [Flags.bracedCode?, skip_rdrop (hn.trans hleft.lt.le), hcut, if_neg hdigits, hc,
        skip_rdrop hn, Option.map_some]
  · cases h

theorem shortCode?_local {k : Nat} (hk : 0 < k) {item : Item}
    (h : f.shortCode? k cs = some (item, rest)) :
    Left cs rest ∧ ∀ n ≤ rest.length, f.shortCode? k (cs.rdrop n) = some (item, rest.rdrop n) := by
  unfold Flags.shortCode? at h
  simp only at h
  split at h
  · cases h
  · rename_i hdigits
    obtain ⟨c, hc, h⟩ := Option.map_eq_some_iff.mp h
    cases h
    have hne : (f.digits 16 k cs).1 ≠ [] := by
      intro hnone
      rw [hnone, List.length_nil] at hdigits
      omega
    refine ⟨digits_left hne, fun n hn => ?_⟩
    simp only [Flags.shortCode?, digits_rdrop hn, if_neg hdigits, hc, Option.map_some]

theorem hexEscape?_local {k : Nat} (hk : 0 < k) {item : Item}
    (h : f.hexEscape? k cs = some (item, rest)) :
    Left cs rest ∧ ∀ n ≤ rest.length, f.hexEscape? k (cs.rdrop n) = some (item, rest.rdrop n) := by
  rw [hexEscape?_eq] at h
  split at h
  · cases h
  · rename_i r hr
    obtain ⟨hleft, hcut⟩ := bracedCode?_local h
    refine ⟨left_of_skip hr hleft.suffix, fun n hn => ?_⟩
    rw [hexEscape?_eq, skip_rdrop_cons hr (hn.trans hleft.lt.le)]
    exact hcut n hn
  · rename_i hnil hopen
    obtain ⟨hleft, hcut⟩ := shortCode?_local hk h
    obtain ⟨c, r, hr⟩ := List.exists_cons_of_ne_nil hnil
    refine ⟨hleft.of_suffix (skip_suffix f cs), fun n hn => ?_⟩
    have hlt := hleft.lt
    have hread := hcut n hn
    rw [hr, List.length_cons] at hlt
    rw [hr, rdrop_cons (by omega)] at hread
    have hopen' := cons_ne (l := r.rdrop n) hopen hr
    simp only [hexEscape?_eq, skip_rdrop_cons hr (show n ≤ r.length by omega), hread]

theorem braced?_local {name : List Char} (h : f.braced? m cs = some (name, rest)) :
    Left cs rest ∧ ∀ n ≤ rest.length, ∀ k, cs.length ≤ k + n →
      f.braced? k (cs.rdrop n) = some (name, rest.rdrop n) := by
  induction m generalizing cs name with
  | zero => cases h
  | succ m ih =>
    unfold Flags.braced? at h
    split at h
    · cases h
    · rename_i r hr
      cases h
      have hleft := left_of_skip hr List.suffix_rfl
      refine ⟨hleft, fun n hn k hk => ?_⟩
      have hlt := hleft.lt
      obtain ⟨k, rfl⟩ : ∃ l, k = l + 1 := Nat.exists_eq_add_one.mpr (by omega)
      simp only [Flags.braced?, skip_rdrop_cons hr hn]
    · rename_i c r hc hr
      obtain ⟨⟨more, after⟩, hread, h⟩ := Option.map_eq_some_iff.mp h
      obtain ⟨rfl, rfl⟩ := Prod.mk.inj h
      obtain ⟨hleft, hcut⟩ := ih hread
      refine ⟨left_of_skip hr hleft.suffix, fun n hn k hk => ?_⟩
      have hlt := hleft.lt
      have hcs := (left_of_skip hr List.suffix_rfl).lt
      obtain ⟨k, rfl⟩ : ∃ l, k = l + 1 := Nat.exists_eq_add_one.mpr (by omega)
      simp only [Flags.braced?, skip_rdrop_cons hr (show n ≤ r.length by omega),
        hcut n hn k (by omega), Option.map_some]

/-- The text of the name of a property. -/
def Flags.propertyName? (f : Flags) (cs : List Char) : Option (List Char × List Char) :=
  match f.skip cs with
  | [] => none
  | '\x7b' :: rest => f.braced? (rest.length + 1) rest
  | '\\' :: _ => none
  | c :: rest => some ([c], f.skip rest)

/-- The set of a property as the flags have it. -/
def Flags.property (f : Flags) (negated : Bool) (name : List Char) : Option Item :=
  if !f.unicode then none
  else (propertySet? name).bind fun s => (f.close? negated s).map .set

theorem property?_eq (f : Flags) (negated : Bool) (cs : List Char) :
    f.property? negated cs =
      (f.propertyName? cs).bind fun p => (f.property negated p.1).map (·, p.2) := by
  unfold Flags.property? Flags.propertyName? Flags.property
  generalize f.skip cs = l
  cases f.unicode with
  | false =>
    simp only [Option.bind_eq_bind]
    split <;> simp
  | true =>
    simp only [Option.bind_eq_bind]
    split <;> simp [Option.map_eq_bind, Option.bind_assoc, *]

theorem propertyName?_local {name : List Char} (h : f.propertyName? cs = some (name, rest)) :
    Left cs rest ∧
      ∀ n ≤ rest.length, f.propertyName? (cs.rdrop n) = some (name, rest.rdrop n) := by
  unfold Flags.propertyName? at h
  split at h
  · cases h
  · rename_i r hr
    obtain ⟨hleft, hcut⟩ := braced?_local h
    refine ⟨left_of_skip hr hleft.suffix, fun n hn => ?_⟩
    have hlt := hleft.lt
    have hlength := length_rdrop_add (show n ≤ r.length by omega)
    simp only [Flags.propertyName?, skip_rdrop_cons hr (show n ≤ r.length by omega)]
    exact hcut n hn _ (by omega)
  · cases h
  · rename_i c r hbrace hslash hr
    cases h
    have hskip := skip_suffix f r
    refine ⟨left_of_skip hr hskip, fun n hn => ?_⟩
    simp only [Flags.propertyName?, skip_rdrop_cons hr (hn.trans hskip.length_le), skip_rdrop hn]

theorem property?_local {negated : Bool} {item : Item}
    (h : f.property? negated cs = some (item, rest)) :
    Left cs rest ∧
      ∀ n ≤ rest.length, f.property? negated (cs.rdrop n) = some (item, rest.rdrop n) := by
  rw [property?_eq] at h
  obtain ⟨⟨name, after⟩, hname, h⟩ := Option.bind_eq_some_iff.mp h
  obtain ⟨i, hi, h⟩ := Option.map_eq_some_iff.mp h
  cases h
  obtain ⟨hleft, hcut⟩ := propertyName?_local hname
  refine ⟨hleft, fun n hn => ?_⟩
  rw [property?_eq, hcut n hn, Option.bind_some, hi, Option.map_some]

theorem namedBoundary?_local {a : Anchor} (h : f.namedBoundary? cs = some (some (a, rest))) :
    Left cs rest ∧
      ∀ n ≤ rest.length, f.namedBoundary? (cs.rdrop n) = some (some (a, rest.rdrop n)) := by
  unfold Flags.namedBoundary? at h
  simp only [letters_eq_takeSkipping] at h
  split at h
  · cases h
  · rename_i c r hr
    split at h
    · cases h
    · rename_i hc
      generalize hread : f.takeSkipping Flags.namedBoundary?.isNameChar (r.length + 1) (c :: r) =
        read at h
      have hsuffix := takeSkipping_suffix f Flags.namedBoundary?.isNameChar (r.length + 1) (c :: r)
      split at h
      · rename_i after hafter
        rw [hread, hafter] at hsuffix
        have hlt := hsuffix.length_le
        rw [List.length_cons, List.length_cons] at hlt
        have hleft : Left cs after :=
          (left_cons _ List.suffix_rfl).of_suffix (hsuffix.trans (hr ▸ skip_suffix f cs))
        have hcut : ∀ n ≤ after.length,
            f.takeSkipping Flags.namedBoundary?.isNameChar ((r.rdrop n).length + 1)
              (c :: r.rdrop n) = (read.1, '\x7d' :: after.rdrop n) := by
          intro n hn
          have hlength := length_rdrop_add (show n ≤ r.length by omega)
          rw [← rdrop_cons (show n ≤ r.length by omega),
            takeSkipping_rdrop (m := r.length + 1) (.inr ?_) ?_, hread, hafter, rdrop_cons hn]
          · rw [List.length_cons]
            omega
          · rw [hread, hafter]
            exact Nat.le_succ_of_le hn
        split at h
        all_goals
          cases h
        all_goals
          rename_i hname
          refine ⟨hleft, fun n hn => ?_⟩
          simp only [Flags.namedBoundary?, letters_eq_takeSkipping,
            skip_rdrop_cons hr (show n ≤ r.length by omega), if_neg hc, hcut n hn, hname]
      · cases h

/-- Braces are no name as long as what follows the opening one is there. -/
theorem namedBoundary?_eq_none (h : f.namedBoundary? cs = some none) (hn : n < (f.skip cs).length) :
    f.namedBoundary? (cs.rdrop n) = some none := by
  unfold Flags.namedBoundary? at h
  split at h
  · cases h
  · rename_i c r hr
    rw [hr, List.length_cons] at hn
    split at h
    · rename_i hc
      simp only [Flags.namedBoundary?, skip_rdrop_cons hr (Nat.le_of_lt_succ hn), if_pos hc]
    · simp only at h
      split at h
      · split at h <;> cases h
      · cases h

/-- What follows a backslash is read in one of these ways, for each character but a `b`. -/
theorem escape?_cons (f : Flags) (hc : c ≠ 'b') :
    (∃ k, 0 < k ∧ ∀ cs, f.escape? (c :: cs) = f.hexEscape? k cs) ∨
      (∃ negated, ∀ cs, f.escape? (c :: cs) = f.property? negated cs) ∨
      ∃ item : Option Item, ∀ cs, f.escape? (c :: cs) = item.map (·, cs) := by
  by_cases hx : c = 'x' ∨ c = 'u' ∨ c = 'U'
  · rcases hx with rfl | rfl | rfl
    · exact .inl ⟨2, by decide, fun _ => rfl⟩
    · exact .inl ⟨4, by decide, fun _ => rfl⟩
    · exact .inl ⟨8, by decide, fun _ => rfl⟩
  · by_cases hp : c = 'p' ∨ c = 'P'
    · rcases hp with rfl | rfl
      · exact .inr (.inl ⟨false, fun _ => rfl⟩)
      · exact .inr (.inl ⟨true, fun _ => rfl⟩)
    · refine .inr (.inr ⟨(f.escape? [c]).map (·.1), fun cs => ?_⟩)
      obtain ⟨hx, hu, hU⟩ : c ≠ 'x' ∧ c ≠ 'u' ∧ c ≠ 'U' := by simpa only [not_or] using hx
      obtain ⟨hp, hP⟩ : c ≠ 'p' ∧ c ≠ 'P' := by simpa only [not_or] using hp
      unfold Flags.escape?
      split
      case h_20 =>
        rename_i heq
        cases heq
        simp only []
        split
        · simp [Function.comp_def]
        · split <;> rfl
      all_goals
        rename_i heq
        cases heq
      all_goals first | rfl | contradiction

/-- What follows a backslash and a `b`. -/
def Flags.boundary? (f : Flags) (cs : List Char) : Option (Item × List Char) :=
  match cs with
  | '\x7b' :: rest =>
    match f.namedBoundary? rest with
    | none => none
    | some none => some (.anchor (.wordBoundary f.unicode), '\x7b' :: rest)
    | some (some (a, rest)) => some (.anchor a, rest)
  | rest => some (.anchor (.wordBoundary f.unicode), rest)

theorem escape?_b (f : Flags) (cs : List Char) : f.escape? ('b' :: cs) = f.boundary? cs := by
  unfold Flags.boundary?
  split
  · rfl
  · simp only [Flags.escape?]

theorem boundary?_of_ne (h : cs.head? ≠ some '\x7b') :
    f.boundary? cs = some (.anchor (.wordBoundary f.unicode), cs) := by
  have hopen : ∀ r, cs = '\x7b' :: r → False := by
    rintro r rfl
    exact h rfl
  simp only [Flags.boundary?]

theorem exists_anchor_of_boundary? {item : Item} (h : f.boundary? cs = some (item, rest)) :
    ∃ a, item = .anchor a := by
  unfold Flags.boundary? at h
  split at h
  · split at h
    · cases h
    · cases h
      exact ⟨_, rfl⟩
    · cases h
      exact ⟨_, rfl⟩
  · cases h
    exact ⟨_, rfl⟩

/-- A boundary is read the same from a cut text, but what follows an opening brace that is no part
of it has to be there. -/
theorem boundary?_local {item : Item} (h : f.boundary? cs = some (item, rest)) :
    rest <:+ cs ∧ ∀ n ≤ rest.length, (∀ r, rest = '\x7b' :: r → n < (f.skip r).length) →
      f.boundary? (cs.rdrop n) = some (item, rest.rdrop n) := by
  by_cases hcs : cs.head? = some '\x7b'
  · obtain ⟨after, rfl⟩ := List.head?_eq_some_iff.mp hcs
    simp only [Flags.boundary?] at h
    split at h
    · cases h
    · rename_i hname
      cases h
      refine ⟨List.suffix_rfl, fun n hn hahead => ?_⟩
      have hafter := hahead after rfl
      rw [rdrop_cons (hafter.le.trans (length_skip_le f after))]
      simp only [Flags.boundary?, namedBoundary?_eq_none hname hafter]
    · rename_i hname
      cases h
      obtain ⟨hleft, hcut⟩ := namedBoundary?_local hname
      refine ⟨(left_cons _ hleft.suffix).suffix, fun n hn _ => ?_⟩
      rw [rdrop_cons (hn.trans hleft.lt.le)]
      simp only [Flags.boundary?, hcut n hn]
  · rw [boundary?_of_ne hcs] at h
    cases h
    exact ⟨List.suffix_rfl, fun n hn _ => boundary?_of_ne (head?_rdrop_ne hcs n)⟩

/-- An escape is read the same from a cut text, but for braces behind a word boundary: what
follows the opening one has to be there. -/
theorem escape?_local {item : Item} (h : f.escape? cs = some (item, rest)) :
    Left cs rest ∧ ∀ n ≤ rest.length,
      (∀ a r, item = .anchor a → rest = '\x7b' :: r → n < (f.skip r).length) →
        f.escape? (cs.rdrop n) = some (item, rest.rdrop n) := by
  cases cs with
  | nil => cases h
  | cons c r =>
    by_cases hc : c = 'b'
    · subst hc
      rw [escape?_b] at h
      obtain ⟨a, rfl⟩ := exists_anchor_of_boundary? h
      obtain ⟨hsuffix, hcut⟩ := boundary?_local h
      refine ⟨left_cons _ hsuffix, fun n hn hahead => ?_⟩
      rw [rdrop_cons (hn.trans hsuffix.length_le), escape?_b]
      exact hcut n hn fun r hr => hahead a r rfl hr
    · obtain ⟨k, hk, hread⟩ | ⟨negated, hread⟩ | ⟨item', hread⟩ := escape?_cons f hc
      · rw [hread] at h
        obtain ⟨hleft, hcut⟩ := hexEscape?_local hk h
        refine ⟨left_cons _ hleft.suffix, fun n hn _ => ?_⟩
        rw [rdrop_cons (hn.trans hleft.lt.le), hread, hcut n hn]
      · rw [hread] at h
        obtain ⟨hleft, hcut⟩ := property?_local h
        refine ⟨left_cons _ hleft.suffix, fun n hn _ => ?_⟩
        rw [rdrop_cons (hn.trans hleft.lt.le), hread, hcut n hn]
      · rw [hread] at h
        obtain ⟨i, rfl, h⟩ := Option.map_eq_some_iff.mp h
        cases h
        refine ⟨left_cons _ List.suffix_rfl, fun n hn _ => ?_⟩
        rw [rdrop_cons hn, hread]
        rfl

end ScrapeJobs.Regex
