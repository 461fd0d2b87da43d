import ScrapeJobs.Proofs.Regex.CutClass

/-!
# Reading cut parts

One step reads the same from a cut pattern (`step?_local`), except that what follows a brace behind
a word boundary has to be there. The readers of groups, of repetitions and of classes are stated
as functions of their own, so that each has its lemma.
-/

namespace ScrapeJobs.Regex

variable {f : Flags} {n m : Nat} {c : Char} {cs rest : List Char} {st st' : State}

/-! ## Repetitions -/

/-- The upper bound of a repetition whose lower one was read. -/
def Flags.maximum? (f : Flags) (min : Nat) : List Char → Option (Option Nat × List Char)
  | ',' :: rest =>
    match f.skip rest with
    | '\x7d' :: rest => some (none, '\x7d' :: rest)
    | rest => (f.count? rest).bind fun p => if p.1 < min then none else some (some p.1, p.2)
  | rest => some (some min, rest)

theorem bounds?_eq (f : Flags) (cs : List Char) : f.bounds? cs =
    (f.count? (f.skip cs)).bind fun p => (f.maximum? p.1 p.2).bind fun q =>
      match q.2 with
      | '\x7d' :: rest => some (p.1, q.1, f.skip rest)
      | _ => none := by
  unfold Flags.bounds?
  simp only [Option.bind_eq_bind]
  refine congrArg (f.count? (f.skip cs)).bind (funext fun p => ?_)
  obtain ⟨min, r⟩ := p
  simp only
  split
  · rename_i after
    split
    · rename_i hafter
      simp only [Flags.maximum?, hafter, Option.bind_some]
    · simp only [Flags.maximum?, Option.bind_assoc]
      refine congrArg (f.count? (f.skip after)).bind (funext fun q => ?_)
      split <;> rfl
  · have hmax : f.maximum? min r = some (some min, r) := by simp only [Flags.maximum?]
    exact (congrArg (Option.bind · _) hmax).symm

theorem maximum?_local {min : Nat} {max : Option Nat} (h : f.maximum? min cs = some (max, rest)) :
    rest <:+ cs ∧
      ∀ n < rest.length, f.maximum? min (cs.rdrop n) = some (max, rest.rdrop n) := by
  unfold Flags.maximum? at h
  split at h
  · rename_i after
    have hskip := skip_suffix f after
    split at h
    · rename_i r hr
      cases h
      rw [hr] at hskip
      refine ⟨hskip.trans (List.suffix_cons _ _), fun n hn => ?_⟩
      have hle := hskip.length_le
      rw [List.length_cons] at hn hle
      rw [rdrop_cons (show n ≤ after.length by omega), rdrop_cons (Nat.le_of_lt_succ hn)]
      simp only [Flags.maximum?, skip_rdrop_cons hr (Nat.le_of_lt_succ hn)]
    · rename_i hclose
      obtain ⟨⟨a, r⟩, hcount, h⟩ := Option.bind_eq_some_iff.mp h
      simp only at h
      split at h
      · cases h
      · rename_i hmin
        cases h
        obtain ⟨hleft, hcut⟩ := count?_local hcount
        refine ⟨(left_cons _ (hleft.suffix.trans hskip)).suffix, fun n hn => ?_⟩
        have hclose' : ∀ t, (f.skip after).rdrop n = '\x7d' :: t → False :=
          rdrop_ne (u := ['\x7d']) hclose n
        have hlt := hleft.lt
        have hle := hskip.length_le
        rw [rdrop_cons (show n ≤ after.length by omega)]
        simp only [Flags.maximum?, skip_rdrop (show n ≤ (f.skip after).length by omega),
          hcut n hn.le, Option.bind_some, if_neg hmin]
  · rename_i hcomma
    cases h
    refine ⟨List.suffix_rfl, fun n hn => ?_⟩
    have hcomma' : ∀ t, cs.rdrop n = ',' :: t → False := rdrop_ne (u := [',']) hcomma n
    simp only [Flags.maximum?]

theorem bounds?_local {min : Nat} {max : Option Nat} (h : f.bounds? cs = some (min, max, rest)) :
    Left (f.skip cs) rest ∧
      ∀ n ≤ rest.length, f.bounds? (cs.rdrop n) = some (min, max, rest.rdrop n) := by
  rw [bounds?_eq] at h
  obtain ⟨⟨a, r⟩, hcount, h⟩ := Option.bind_eq_some_iff.mp h
  obtain ⟨⟨b, r'⟩, hmax, h⟩ := Option.bind_eq_some_iff.mp h
  simp only at hmax h
  split at h
  · rename_i after
    cases h
    obtain ⟨hleft, hcut⟩ := count?_local hcount
    obtain ⟨hsuffix, hcut'⟩ := maximum?_local hmax
    have hskip := skip_suffix f after
    refine ⟨hleft.trans_suffix ((left_cons _ hskip).suffix.trans hsuffix), fun n hn => ?_⟩
    have hlt := hleft.lt
    have hle := hsuffix.length_le
    have hn' := hn.trans hskip.length_le
    rw [List.length_cons] at hle hcut'
    rw [bounds?_eq, skip_rdrop (by omega), hcut n (by omega)]
    simp only [Option.bind_some, hcut' n (by omega), rdrop_cons hn', skip_rdrop hn]
  · cases h

theorem lazyMark_suffix (cs : List Char) : (lazyMark cs).2 <:+ cs := by
  unfold lazyMark
  split
  · exact List.suffix_cons _ _
  · exact List.suffix_rfl

theorem lazyMark_rdrop (h : n ≤ (lazyMark cs).2.length) :
    lazyMark (cs.rdrop n) = ((lazyMark cs).1, (lazyMark cs).2.rdrop n) := by
  by_cases hmark : cs.head? = some '?'
  · obtain ⟨r, rfl⟩ := List.head?_eq_some_iff.mp hmark
    rw [rdrop_cons (show n ≤ r.length from h)]
    rfl
  · have hread : ∀ l : List Char, l.head? ≠ some '?' → lazyMark l = (true, l) := by
      intro l hl
      unfold lazyMark
      split
      · exact absurd rfl hl
      · rfl
    rw [hread cs hmark, hread _ (head?_rdrop_ne hmark n)]

/-! ## Groups -/

/-- Letters of flags are read up to a colon or a closing parenthesis. -/
theorem flagLetters?_prefix {letters done : List Char}
    (h : flagLetters? cs done = some (letters, rest)) :
    ∃ before c r, (c = ':' ∨ c = ')') ∧ rest = c :: r ∧ cs = before ++ rest ∧
      ∀ r', flagLetters? (before ++ c :: r') done = some (letters, c :: r') := by
  induction cs generalizing done with
  | nil => cases h
  | cons c r ih =>
    unfold flagLetters? at h
    by_cases hc : c = ':' ∨ c = ')'
    · rw [if_pos hc] at h
      split at h
      · cases h
      · rename_i hhyphen
        cases h
        refine ⟨[], c, r, hc, rfl, rfl, fun r' => ?_⟩
        rw [List.nil_append, flagLetters?, if_pos hc, if_neg hhyphen]
    · rw [if_neg hc] at h
      split at h
      · cases h
      · rename_i hletter
        obtain ⟨before, d, r₁, hd, hrest, hr, hall⟩ := ih h
        refine ⟨c :: before, d, r₁, hd, hrest, by rw [hr, List.cons_append], fun r' => ?_⟩
        rw [List.cons_append, flagLetters?, if_neg hc, if_neg hletter, hall]

theorem groupName?_prefix {name : List Char} (h : groupName? cs = some (name, rest)) :
    cs = name ++ '>' :: rest ∧ ∀ r, groupName? (name ++ '>' :: r) = some (name, r) := by
  unfold groupName? at h
  simp only [drop_takeWhile] at h
  have hsplit := List.takeWhile_append_dropWhile (p := (· != '>')) (l := cs)
  have hname : ∀ c ∈ cs.takeWhile (· != '>'), (c != '>') = true :=
    fun c hc => List.all_eq_true.mp List.all_takeWhile c hc
  generalize cs.takeWhile (· != '>') = name' at h hsplit hname
  split at h
  · rename_i c more after _ hafter
    split at h
    · rename_i hvalid
      cases h
      rw [hafter] at hsplit
      refine ⟨hsplit.symm, fun r => ?_⟩
      unfold groupName?
      simp only [takeWhile_append_cons hname (show ¬ ('>' != '>') = true by decide), List.drop_left,
        if_pos hvalid]
    · cases h
  · cases h

/-- Opens a group with a name, which is still to be read. -/
def State.namedGroup? (st : State) (cs : List Char) : Option (State × List Char) := do
  let (name, rest) ← groupName? cs
  let name := String.ofList name
  if (st.names.lookup name).isSome then none
  else
    let named := { st with count := st.count + 1, names := (name, st.count + 1) :: st.names }
    return (named.openGroup (some (st.count + 1)) st.flags, rest)

/-- Opens a group with flags or sets flags, which are still to be read. -/
def State.flagGroup? (st : State) (cs : List Char) : Option (State × List Char) := do
  let (letters, rest) ← flagLetters? cs []
  let flags := st.flags.update letters
  match rest with
  | ':' :: rest => return (st.openGroup none flags, rest)
  | _ :: rest =>
    if letters.isEmpty then none
    else return ({ st with flags }.push { expr := .empty, setsFlags := true }, rest)
  | [] => none

theorem group?_eq (st : State) (cs : List Char) : st.group? cs =
    match st.flags.skip cs with
    | '?' :: '=' :: _ => none
    | '?' :: '!' :: _ => none
    | '?' :: '<' :: '=' :: _ => none
    | '?' :: '<' :: '!' :: _ => none
    | '?' :: 'P' :: '<' :: rest => st.namedGroup? rest
    | '?' :: '<' :: rest => st.namedGroup? rest
    | '?' :: rest => st.flagGroup? rest
    | rest =>
      some ({ st with count := st.count + 1 }.openGroup (some (st.count + 1)) st.flags, rest) := rfl

/-- A parenthesis without a question mark behind it opens a group with a number. -/
theorem group?_of_no_mark (h : ∀ t, st.flags.skip cs = '?' :: t → False) :
    st.group? cs = some ({ st with count := st.count + 1 }.openGroup (some (st.count + 1)) st.flags,
      st.flags.skip cs) := by
  rw [group?_eq]
  split
  case h_8 => rfl
  all_goals
    rename_i hmark
    exact (h _ hmark).elim

theorem namedGroup?_local (h : st.namedGroup? cs = some (st', rest)) :
    rest <:+ cs ∧
      ∀ n ≤ rest.length, st.namedGroup? (cs.rdrop n) = some (st', rest.rdrop n) := by
  obtain ⟨⟨name, after⟩, hname, h⟩ := Option.bind_eq_some_iff.mp h
  simp only at h
  split at h
  · cases h
  · rename_i hnew
    cases h
    obtain ⟨rfl, hall⟩ := groupName?_prefix hname
    refine ⟨(List.suffix_cons _ _).trans (List.suffix_append name _), fun n hn => ?_⟩
    rw [append_rdrop (Nat.le_succ_of_le hn), rdrop_cons hn]
    simp only [State.namedGroup?, hall, Option.bind_eq_bind, Option.bind_some, if_neg hnew]
    rfl

theorem flagGroup?_local (h : st.flagGroup? cs = some (st', rest)) :
    rest <:+ cs ∧
      ∀ n ≤ rest.length, st.flagGroup? (cs.rdrop n) = some (st', rest.rdrop n) := by
  obtain ⟨⟨letters, after⟩, hletters, hopened⟩ := Option.bind_eq_some_iff.mp h
  obtain ⟨before, c, r, hc, rfl, rfl, hall⟩ := flagLetters?_prefix hletters
  have hcut : ∀ n ≤ r.length, flagLetters? ((before ++ c :: r).rdrop n) [] =
      some (letters, c :: r.rdrop n) := by
    intro n hn
    rw [append_rdrop (Nat.le_succ_of_le hn), rdrop_cons hn, hall]
  have hsuffix : r <:+ before ++ c :: r :=
    (List.suffix_cons _ _).trans (List.suffix_append before _)
  rcases hc with rfl | rfl
  · cases hopened
    refine ⟨hsuffix, fun n hn => ?_⟩
    simp only [State.flagGroup?, hcut n hn, Option.bind_eq_bind, Option.bind_some]
    rfl
  · change (if letters.isEmpty then none else some (_, r)) = _ at hopened
    split at hopened
    · cases hopened
    · rename_i hne
      cases hopened
      refine ⟨hsuffix, fun n hn => ?_⟩
      simp only [State.flagGroup?, hcut n hn, Option.bind_eq_bind, Option.bind_some, if_neg hne]
      rfl

/-- What follows an opening parenthesis is read the same from a cut text. -/
theorem group?_local (h : st.group? cs = some (st', rest)) :
    rest <:+ cs ∧ ∀ n ≤ rest.length, st.group? (cs.rdrop n) = some (st', rest.rdrop n) := by
  have hskip := skip_suffix st.flags cs
  rw [group?_eq] at h
  split at h
  · cases h
  · cases h
  · cases h
  · cases h
  · rename_i r hr
    obtain ⟨hsuffix, hcut⟩ := namedGroup?_local h
    have hbehind : Left ('P' :: '<' :: r) rest := left_cons _ (left_cons _ hsuffix).suffix
    refine ⟨(left_of_skip hr hbehind.suffix).suffix, fun n hn => ?_⟩
    have hn' := hn.trans hsuffix.length_le
    rw [group?_eq, skip_rdrop_cons hr (hn.trans hbehind.lt.le), rdrop_cons (Nat.le_succ_of_le hn'),
      rdrop_cons hn']
    exact hcut n hn
  · rename_i r hequal hbang hr
    obtain ⟨hsuffix, hcut⟩ := namedGroup?_local h
    have hbehind : Left ('<' :: r) rest := left_cons _ hsuffix
    refine ⟨(left_of_skip hr hbehind.suffix).suffix, fun n hn => ?_⟩
    have hcs : st.flags.skip (cs.rdrop n) = '?' :: '<' :: r.rdrop n := by
      rw [skip_rdrop_cons hr (hn.trans hbehind.lt.le), rdrop_cons (hn.trans hsuffix.length_le)]
    have hequal' : ∀ t, r.rdrop n = '=' :: t → False := rdrop_ne (u := ['=']) hequal n
    have hbang' : ∀ t, r.rdrop n = '!' :: t → False := rdrop_ne (u := ['!']) hbang n
    simp only [group?_eq, hcs]
    exact hcut n hn
  · rename_i r hequal hbang _ _ hname hangle hr
    obtain ⟨hsuffix, hcut⟩ := flagGroup?_local h
    refine ⟨(left_of_skip hr hsuffix).suffix, fun n hn => ?_⟩
    have hequal' : ∀ t, r.rdrop n = '=' :: t → False := rdrop_ne (u := ['=']) hequal n
    have hbang' : ∀ t, r.rdrop n = '!' :: t → False := rdrop_ne (u := ['!']) hbang n
    have hname' : ∀ t, r.rdrop n = 'P' :: '<' :: t → False := rdrop_ne (u := ['P', '<']) hname n
    have hangle' : ∀ t, r.rdrop n = '<' :: t → False := rdrop_ne (u := ['<']) hangle n
    have hbehind : ∀ t, r.rdrop n = '<' :: '=' :: t → False := fun t => hangle' _
    have hbehind' : ∀ t, r.rdrop n = '<' :: '!' :: t → False := fun t => hangle' _
    simp only [group?_eq, skip_rdrop_cons hr (hn.trans hsuffix.length_le)]
    exact hcut n hn
  · rename_i hmark
    cases h
    refine ⟨hskip, fun n hn => ?_⟩
    have hmark' : ∀ t, (st.flags.skip cs).rdrop n = '?' :: t → False :=
      rdrop_ne (u := ['?']) hmark n
    rw [← skip_rdrop hn] at hmark' ⊢
    exact group?_of_no_mark hmark'

/-! ## Steps -/

/-- Reads a class, after its opening bracket. -/
def State.class? (st : State) (cs : List Char) : Option (State × List Char) := do
  let (k, cs) ← st.flags.openClass? cs
  let (s, depth, rest) ← st.flags.class? (cs.length + 1) k [] cs
  return (st.push (.ofSet s depth), rest)

/-- Repeats the last part as often as braces say, after the opening one. -/
def State.braces? (st : State) (cs : List Char) : Option (State × List Char) :=
  (st.flags.bounds? cs).bind fun b =>
    (st.repeatLast? b.1 b.2.1 (lazyMark b.2.2).1).map (·, (lazyMark b.2.2).2)

theorem step?_braces (st : State) (cs : List Char) :
    st.step? ('\x7b' :: cs) = st.braces? cs := by
  simp only [State.step?, State.braces?, Option.map_eq_bind]
  rfl

/-- Reads an escape, after its backslash. -/
def State.escape? (st : State) (cs : List Char) : Option (State × List Char) := do
  let (item, rest) ← st.flags.escape? cs
  return (st.push (← st.flags.part? item), rest)

/-- One character is a step of its own, with a mark behind it if it repeats the last part, unless
more is to be read. -/
theorem step?_cons (st : State) (hgroup : c ≠ '(') (hclass : c ≠ '[') (hbraces : c ≠ '\x7b')
    (hescape : c ≠ '\\') :
    (∃ min max, ∀ cs, st.step? (c :: cs) =
      (st.repeatLast? min max (lazyMark cs).1).map (·, (lazyMark cs).2)) ∨
    ∃ after : Option State, ∀ cs, st.step? (c :: cs) = after.map (·, cs) := by
  by_cases hrepeat : c = '?' ∨ c = '*' ∨ c = '+'
  · rcases hrepeat with rfl | rfl | rfl
    · exact .inl ⟨0, some 1, fun _ => rfl⟩
    · exact .inl ⟨0, none, fun _ => rfl⟩
    · exact .inl ⟨1, none, fun _ => rfl⟩
  · obtain ⟨hmark, hstar, hplus⟩ : c ≠ '?' ∧ c ≠ '*' ∧ c ≠ '+' := by
      simpa only [not_or] using hrepeat
    refine .inr ⟨(st.step? [c]).map (·.1), fun cs => ?_⟩
    unfold State.step?
    split
    case h_14 =>
      rename_i heq
      cases heq
      simp only []
      cases st.flags.part? (.char c false) <;> rfl
    case h_3 =>
      rename_i heq
      cases heq
      simp only
      cases st.close? <;> rfl
    case h_10 =>
      rename_i heq
      cases heq
      simp only
      split <;> rfl
    all_goals
      rename_i heq
      cases heq
    all_goals first | rfl | contradiction

theorem State.class?_local (h : st.class? cs = some (st', rest)) :
    rest <:+ cs ∧ ∀ n ≤ rest.length, st.class? (cs.rdrop n) = some (st', rest.rdrop n) := by
  obtain ⟨⟨k, r⟩, hopen, h⟩ := Option.bind_eq_some_iff.mp h
  obtain ⟨⟨s, d, after⟩, hread, h⟩ := Option.bind_eq_some_iff.mp h
  cases h
  obtain ⟨hsuffix, hcut⟩ := openClass?_local hopen
  have hleft := (goesOn_of_class? hread (Nat.zero_le _)).1
  refine ⟨hleft.suffix.trans hsuffix, fun n hn => ?_⟩
  have hlt := hleft.lt
  have hlength := length_rdrop_add (show n ≤ r.length by omega)
  simp only [State.class?, hcut n (by omega), Option.bind_eq_bind, Option.bind_some,
    class?_local hread hn (show r.length ≤ ((r.rdrop n).length + 1) + n by omega)]
  rfl

theorem State.braces?_local (h : st.braces? cs = some (st', rest)) :
    Left (st.flags.skip cs) rest ∧
      ∀ n ≤ rest.length, st.braces? (cs.rdrop n) = some (st', rest.rdrop n) := by
  obtain ⟨⟨min, max, r⟩, hbounds, h⟩ := Option.bind_eq_some_iff.mp h
  obtain ⟨st₁, hrepeat, h⟩ := Option.map_eq_some_iff.mp h
  obtain ⟨rfl, rfl⟩ : st₁ = st' ∧ (lazyMark r).2 = rest := Prod.mk.inj h
  obtain ⟨hleft, hcut⟩ := bounds?_local hbounds
  have hmark := lazyMark_suffix r
  refine ⟨hleft.trans_suffix hmark, fun n hn => ?_⟩
  simp only [State.braces?, hcut n (hn.trans hmark.length_le), lazyMark_rdrop hn, Option.bind_some,
    hrepeat, Option.map_some]

theorem State.escape?_local (h : st.escape? cs = some (st', rest)) :
    Left cs rest ∧ ∀ n ≤ rest.length,
      (∀ r, rest = '\x7b' :: r → n < (st'.flags.skip r).length) →
        st.escape? (cs.rdrop n) = some (st', rest.rdrop n) := by
  obtain ⟨⟨item, r⟩, hitem, h⟩ := Option.bind_eq_some_iff.mp h
  obtain ⟨part, hpart, h⟩ := Option.bind_eq_some_iff.mp h
  cases h
  obtain ⟨hleft, hcut⟩ := Regex.escape?_local hitem
  refine ⟨hleft, fun n hn hahead => ?_⟩
  simp only [State.escape?, hcut n hn fun _ r _ hr => hahead r hr, Option.bind_eq_bind,
    Option.bind_some, hpart]
  rfl

/-- A step is read the same from a cut text, but for braces behind a word boundary: what follows
the opening one has to be there. -/
theorem step?_local (h : st.step? cs = some (st', rest)) :
    Left cs rest ∧ ∀ n ≤ rest.length,
      (∀ r, rest = '\x7b' :: r → n < (st'.flags.skip r).length) →
        st.step? (cs.rdrop n) = some (st', rest.rdrop n) := by
  cases cs with
  | nil => cases h
  | cons c r =>
    by_cases hgroup : c = '('
    · subst hgroup
      obtain ⟨hsuffix, hcut⟩ := group?_local (show st.group? r = _ from h)
      refine ⟨left_cons _ hsuffix, fun n hn _ => ?_⟩
      rw [rdrop_cons (hn.trans hsuffix.length_le)]
      exact hcut n hn
    by_cases hclass : c = '['
    · subst hclass
      obtain ⟨hsuffix, hcut⟩ := State.class?_local (show st.class? r = _ from h)
      refine ⟨left_cons _ hsuffix, fun n hn _ => ?_⟩
      rw [rdrop_cons (hn.trans hsuffix.length_le)]
      exact hcut n hn
    by_cases hbraces : c = '\x7b'
    · subst hbraces
      rw [step?_braces] at h
      obtain ⟨hleft, hcut⟩ := State.braces?_local h
      have hsuffix := hleft.suffix.trans (skip_suffix st.flags r)
      refine ⟨left_cons _ hsuffix, fun n hn _ => ?_⟩
      rw [rdrop_cons (hn.trans hsuffix.length_le), step?_braces, hcut n hn]
    by_cases hescape : c = '\\'
    · subst hescape
      obtain ⟨hleft, hcut⟩ := State.escape?_local (show st.escape? r = _ from h)
      refine ⟨left_cons _ hleft.suffix, fun n hn hahead => ?_⟩
      rw [rdrop_cons (hn.trans hleft.lt.le)]
      exact hcut n hn hahead
    obtain ⟨min, max, hread⟩ | ⟨after, hread⟩ := step?_cons st hgroup hclass hbraces hescape
    · rw [hread] at h
      obtain ⟨st₁, hst, h⟩ := Option.map_eq_some_iff.mp h
      cases h
      have hmark := lazyMark_suffix r
      refine ⟨left_cons _ hmark, fun n hn _ => ?_⟩
      rw [rdrop_cons (hn.trans hmark.length_le), hread, lazyMark_rdrop hn]
      simp only [hst, Option.map_some]
    · rw [hread] at h
      obtain ⟨st₁, hst, h⟩ := Option.map_eq_some_iff.mp h
      cases h
      refine ⟨left_cons _ List.suffix_rfl, fun n hn _ => ?_⟩
      rw [rdrop_cons hn, hread, hst, Option.map_some]

end ScrapeJobs.Regex
