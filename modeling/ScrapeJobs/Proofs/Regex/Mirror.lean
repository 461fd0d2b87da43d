import ScrapeJobs.Proofs.Regex.CutStep

/-!
# The same pattern within a group

Whether a pattern can be read does not hinge on what a dot means (`Flags.withDot`) or on the groups
that are open around it. Two states that differ in nothing else mirror each other
(`State.Mirrors`), and both take the same steps until the one with fewer groups has none to close
(`State.Mirrors.step?`).
-/

namespace ScrapeJobs.Regex

variable {f : Flags} {n m : Nat} {b : Bool} {c : Char} {cs rest : List Char} {st st' : State}

/-! ## The flag of the dot -/

/-- The flags with another meaning of the dot. -/
def Flags.withDot (f : Flags) (b : Bool) : Flags := { f with dotAll := b }

theorem skip_withDot (f : Flags) (b : Bool) : (f.withDot b).skip = f.skip := rfl

theorem takeSkipping_withDot (f : Flags) (b : Bool) (p : Char → Bool) (m : Nat) (cs : List Char) :
    (f.withDot b).takeSkipping p m cs = f.takeSkipping p m cs := by
  induction m generalizing cs with
  | zero => rfl
  | succ m ih =>
    cases cs with
    | nil => rfl
    | cons c r => simp only [Flags.takeSkipping, skip_withDot, ih]

theorem digits_withDot (f : Flags) (b : Bool) (base m : Nat) (cs : List Char) :
    (f.withDot b).digits base m cs = f.digits base m cs := by
  rw [digits_eq_takeSkipping, digits_eq_takeSkipping, takeSkipping_withDot]

theorem count?_withDot (f : Flags) (b : Bool) (cs : List Char) :
    (f.withDot b).count? cs = f.count? cs := by
  simp only [Flags.count?, digits_withDot, skip_withDot]

theorem bounds?_withDot (f : Flags) (b : Bool) (cs : List Char) :
    (f.withDot b).bounds? cs = f.bounds? cs := by
  simp only [Flags.bounds?, count?_withDot, skip_withDot]

theorem hexEscape?_withDot (f : Flags) (b : Bool) (m : Nat) (cs : List Char) :
    (f.withDot b).hexEscape? m cs = f.hexEscape? m cs := by
  simp only [Flags.hexEscape?, digits_withDot, skip_withDot]

theorem braced?_withDot (f : Flags) (b : Bool) (m : Nat) (cs : List Char) :
    (f.withDot b).braced? m cs = f.braced? m cs := by
  induction m generalizing cs with
  | zero => rfl
  | succ m ih => simp only [Flags.braced?, skip_withDot, ih]

theorem property?_withDot (f : Flags) (b negated : Bool) (cs : List Char) :
    (f.withDot b).property? negated cs = f.property? negated cs := by
  simp only [Flags.property?, braced?_withDot, skip_withDot]
  rfl

theorem namedBoundary?_withDot (f : Flags) (b : Bool) (cs : List Char) :
    (f.withDot b).namedBoundary? cs = f.namedBoundary? cs := by
  simp only [Flags.namedBoundary?, letters_eq_takeSkipping, takeSkipping_withDot, skip_withDot]
  rfl

theorem escape?_withDot (f : Flags) (b : Bool) (cs : List Char) :
    (f.withDot b).escape? cs = f.escape? cs := by
  unfold Flags.escape?
  simp only [hexEscape?_withDot, property?_withDot, namedBoundary?_withDot]
  rfl

theorem part?_withDot (f : Flags) (b : Bool) (item : Item) :
    (f.withDot b).part? item = f.part? item := by
  cases item <;> rfl

theorem leading_withDot (f : Flags) (b : Bool) (m : Nat) (k : OpenClass) (cs : List Char) :
    (f.withDot b).leading m k cs = f.leading m k cs := by
  induction m generalizing k cs with
  | zero =>
    cases cs with
    | nil => rfl
    | cons c r =>
      by_cases hc : c = '-'
      · subst hc
        rfl
      · rw [leading_of_ne hc, leading_of_ne hc, skip_withDot]
  | succ m ih =>
    cases cs with
    | nil => rfl
    | cons c r =>
      by_cases hc : c = '-'
      · subst hc
        exact ih _ _
      · rw [leading_of_ne hc, leading_of_ne hc, skip_withDot]

theorem openClass?_withDot (f : Flags) (b : Bool) (cs : List Char) :
    (f.withDot b).openClass? cs = f.openClass? cs := by
  simp only [Flags.openClass?, skip_withDot, leading_withDot]

theorem classItem?_withDot (f : Flags) (b : Bool) (cs : List Char) :
    (f.withDot b).classItem? cs = f.classItem? cs := by
  unfold Flags.classItem?
  simp only [escape?_withDot]

theorem classRange?_withDot (f : Flags) (b : Bool) (cs : List Char) :
    (f.withDot b).classRange? cs = f.classRange? cs := by
  simp only [Flags.classRange?, classItem?_withDot, skip_withDot]
  rfl

theorem classStep?_withDot (f : Flags) (b : Bool) (k : OpenClass) (outer : List OpenClass)
    (cs : List Char) : (f.withDot b).classStep? k outer cs = f.classStep? k outer cs := by
  unfold Flags.classStep?
  simp only [openClass?_withDot, classRange?_withDot]
  rfl

theorem class?_withDot (f : Flags) (b : Bool) (m : Nat) (k : OpenClass) (outer : List OpenClass)
    (cs : List Char) : (f.withDot b).class? m k outer cs = f.class? m k outer cs := by
  induction m generalizing k outer cs with
  | zero => rfl
  | succ m ih => simp only [class?_succ, skip_withDot, classStep?_withDot, ih]

theorem setTo_withDot (f : Flags) (b on : Bool) (c : Char) :
    ∃ b', (f.withDot b).setTo on c = (f.setTo on c).withDot b' := by
  unfold Flags.setTo
  split
  all_goals exact ⟨_, rfl⟩

theorem foldl_setTo_withDot (f : Flags) (b on : Bool) (letters : List Char) :
    ∃ b', letters.foldl (fun f c => f.setTo on c) (f.withDot b) =
      (letters.foldl (fun f c => f.setTo on c) f).withDot b' := by
  induction letters generalizing f b with
  | nil => exact ⟨b, rfl⟩
  | cons c more ih =>
    obtain ⟨b', hb⟩ := setTo_withDot f b on c
    rw [List.foldl_cons, List.foldl_cons, hb]
    exact ih _ _

theorem update_withDot (f : Flags) (b : Bool) (letters : List Char) :
    ∃ b', (f.withDot b).update letters = (f.update letters).withDot b' := by
  obtain ⟨b₁, hon⟩ := foldl_setTo_withDot f b true (letters.takeWhile (· != '-'))
  simp only [Flags.update, hon]
  exact foldl_setTo_withDot _ b₁ false _

/-! ## States that mirror each other -/

variable {outer : List OpenGroup} {u : State}

/-- Both groups return to the same, up to the meaning of the dot. -/
structure OpenGroup.Mirrors (g g' : OpenGroup) : Prop where
  flags : ∃ b, g'.outerFlags = g.outerFlags.withDot b
  parts : g'.outerParts.map (·.setsFlags) = g.outerParts.map (·.setsFlags)

/-- The first state has read the same as the second, but within further groups and perhaps with
another meaning of the dot. -/
structure State.Mirrors (outer : List OpenGroup) (st st' : State) : Prop where
  flags : ∃ b, st'.flags = st.flags.withDot b
  parts : st'.parts.map (·.setsFlags) = st.parts.map (·.setsFlags)
  groups : ∃ inner, st.groups = inner ++ outer ∧ List.Forall₂ OpenGroup.Mirrors inner st'.groups
  count : st'.count = st.count
  names : st'.names = st.names

namespace State.Mirrors

variable (h : State.Mirrors outer st st')

include h

theorem skip : st'.flags.skip = st.flags.skip := by
  obtain ⟨b, hb⟩ := h.flags
  rw [hb, skip_withDot]

theorem push {p p' : Part} (hp : p'.setsFlags = p.setsFlags) :
    Mirrors outer (st.push p) (st'.push p') :=
  { h with parts := by rw [State.push, State.push, List.map_cons, List.map_cons, hp, h.parts] }

theorem repeatLast? {min : Nat} {max : Option Nat} {greedy : Bool}
    (hst : st.repeatLast? min max greedy = some u) :
    ∃ u', st'.repeatLast? min max greedy = some u' ∧ Mirrors outer u u' := by
  have hparts := h.parts
  unfold State.repeatLast? at hst
  split at hst
  · cases hst
  · rename_i p ps hps
    split at hst
    · cases hst
    · rename_i hsets
      cases hst
      rw [hps, List.map_cons] at hparts
      obtain ⟨p', ps', hps', hp, hrest⟩ := List.map_eq_cons_iff.mp hparts
      refine ⟨{ st' with
        parts := p'.repeated min max (greedy != st'.flags.swapGreed) :: ps' }, ?_, ?_⟩
      · simp only [State.repeatLast?, hps', hp, if_neg hsets]
      · exact { h with parts := congrArg (false :: ·) hrest }

theorem openGroup {f' : Flags} (n n' : Option Nat) (hf : ∃ b, f' = f.withDot b) :
    Mirrors outer (st.openGroup n f) (st'.openGroup n' f') := by
  obtain ⟨inner, hinner, hmirror⟩ := h.groups
  exact {
    flags := hf
    parts := rfl
    groups := ⟨_ :: inner, by rw [State.openGroup, hinner]; rfl, .cons ⟨h.flags, h.parts⟩ hmirror⟩
    count := h.count
    names := h.names }

/-- Both close a group, if the second has one that is open. -/
theorem close? (hst : st.close? = some u) (hne : st'.groups ≠ []) :
    ∃ u', st'.close? = some u' ∧ Mirrors outer u u' := by
  obtain ⟨inner, hinner, hmirror⟩ := h.groups
  obtain ⟨g', gs', hgs'⟩ := List.exists_cons_of_ne_nil hne
  rw [hgs'] at hmirror
  cases hmirror with
  | @cons g _ _ _ hg hgs =>
    unfold State.close? at hst
    rw [hinner] at hst
    cases hst
    refine ⟨_, by rw [State.close?, hgs'], ?_⟩
    exact {
      flags := hg.flags
      parts := by
        simp only [List.map_cons, hg.parts]
        cases g.number <;> cases g'.number <;> rfl
      groups := ⟨_, rfl, hgs⟩
      count := h.count
      names := h.names }

theorem namedGroup? (hst : st.namedGroup? cs = some (u, rest)) :
    ∃ u', st'.namedGroup? cs = some (u', rest) ∧ Mirrors outer u u' := by
  obtain ⟨⟨name, after⟩, hname, hst⟩ := Option.bind_eq_some_iff.mp hst
  simp only at hst
  split at hst
  · cases hst
  · rename_i hnew
    cases hst
    have hnamed : Mirrors outer
        { st with count := st.count + 1, names := (String.ofList name, st.count + 1) :: st.names }
        { st' with
          count := st'.count + 1, names := (String.ofList name, st'.count + 1) :: st'.names } :=
      { h with count := by rw [h.count], names := by rw [h.count, h.names] }
    refine ⟨_, ?_, hnamed.openGroup _ (some (st'.count + 1)) h.flags⟩
    simp only [State.namedGroup?, hname, Option.bind_eq_bind, Option.bind_some, h.names,
      if_neg hnew]
    rfl

theorem flagGroup? (hst : st.flagGroup? cs = some (u, rest)) :
    ∃ u', st'.flagGroup? cs = some (u', rest) ∧ Mirrors outer u u' := by
  obtain ⟨⟨letters, after⟩, hletters, hst⟩ := Option.bind_eq_some_iff.mp hst
  obtain ⟨b, hb⟩ := h.flags
  have hupdate := hb ▸ update_withDot st.flags b letters
  simp only at hst
  split at hst
  · cases hst
    refine ⟨_, ?_, h.openGroup none none hupdate⟩
    simp only [State.flagGroup?, hletters, Option.bind_eq_bind, Option.bind_some]
    rfl
  · split at hst
    · cases hst
    · rename_i hne
      cases hst
      have hset : Mirrors outer { st with flags := st.flags.update letters }
          { st' with flags := st'.flags.update letters } := { h with flags := hupdate }
      refine ⟨{ st' with flags := st'.flags.update letters }.push
        { expr := .empty, setsFlags := true }, ?_, hset.push rfl⟩
      simp only [State.flagGroup?, hletters, Option.bind_eq_bind, Option.bind_some, if_neg hne]
      rfl
  · cases hst

theorem group? (hst : st.group? cs = some (u, rest)) :
    ∃ u', st'.group? cs = some (u', rest) ∧ Mirrors outer u u' := by
  rw [group?_eq] at hst
  rw [group?_eq, h.skip]
  split at hst
  · cases hst
  · cases hst
  · cases hst
  · cases hst
  · exact h.namedGroup? hst
  · exact h.namedGroup? hst
  · exact h.flagGroup? hst
  · cases hst
    have hcount : Mirrors outer { st with count := st.count + 1 }
        { st' with count := st'.count + 1 } := { h with count := by rw [h.count] }
    exact ⟨_, rfl, hcount.openGroup _ _ h.flags⟩

theorem class? (hst : st.class? cs = some (u, rest)) :
    ∃ u', st'.class? cs = some (u', rest) ∧ Mirrors outer u u' := by
  obtain ⟨⟨k, r⟩, hopen, hst⟩ := Option.bind_eq_some_iff.mp hst
  obtain ⟨⟨s, d, after⟩, hread, hst⟩ := Option.bind_eq_some_iff.mp hst
  cases hst
  obtain ⟨b, hb⟩ := h.flags
  refine ⟨st'.push (.ofSet s d), ?_, h.push rfl⟩
  simp only [State.class?, hb, openClass?_withDot, class?_withDot, hopen, hread,
    Option.bind_eq_bind, Option.bind_some]
  rfl

theorem braces? (hst : st.braces? cs = some (u, rest)) :
    ∃ u', st'.braces? cs = some (u', rest) ∧ Mirrors outer u u' := by
  obtain ⟨⟨min, max, r⟩, hbounds, hst⟩ := Option.bind_eq_some_iff.mp hst
  obtain ⟨st₁, hrepeat, hst⟩ := Option.map_eq_some_iff.mp hst
  cases hst
  obtain ⟨u', hu', hmirror⟩ := h.repeatLast? hrepeat
  obtain ⟨b, hb⟩ := h.flags
  refine ⟨u', ?_, hmirror⟩
  simp only [State.braces?, hb, bounds?_withDot, hbounds, Option.bind_some, hu', Option.map_some]

theorem escape? (hst : st.escape? cs = some (u, rest)) :
    ∃ u', st'.escape? cs = some (u', rest) ∧ Mirrors outer u u' := by
  obtain ⟨⟨item, r⟩, hitem, hst⟩ := Option.bind_eq_some_iff.mp hst
  obtain ⟨part, hpart, hst⟩ := Option.bind_eq_some_iff.mp hst
  cases hst
  obtain ⟨b, hb⟩ := h.flags
  refine ⟨st'.push part, ?_, h.push rfl⟩
  simp only [State.escape?, hb, escape?_withDot, hitem, part?_withDot, hpart,
    Option.bind_eq_bind, Option.bind_some]
  rfl

theorem mark? {min : Nat} {max : Option Nat} {r : List Char}
    (hst : (st.repeatLast? min max (lazyMark r).1).map (·, (lazyMark r).2) = some (u, rest)) :
    ∃ u', (st'.repeatLast? min max (lazyMark r).1).map (·, (lazyMark r).2) = some (u', rest) ∧
      Mirrors outer u u' := by
  obtain ⟨u₁, hrepeat, hst⟩ := Option.map_eq_some_iff.mp hst
  cases hst
  obtain ⟨u', hu', hmirror⟩ := h.repeatLast? hrepeat
  exact ⟨u', by rw [hu', Option.map_some], hmirror⟩

/-- Both take the same step, unless the second has no group to close. -/
theorem step? (hst : st.step? cs = some (u, rest)) (hopen : cs.head? = some ')' → st'.groups ≠ []) :
    ∃ u', st'.step? cs = some (u', rest) ∧ Mirrors outer u u' := by
  obtain ⟨b, hb⟩ := h.flags
  unfold State.step? at hst
  split at hst
  case h_1 => cases hst
  case h_2 => exact h.group? hst
  case h_3 =>
    obtain ⟨u₁, hclose, hst⟩ := Option.map_eq_some_iff.mp hst
    cases hst
    obtain ⟨u', hu', hmirror⟩ := h.close? hclose (hopen rfl)
    exact ⟨u', by simp only [State.step?, hu', Option.map_some], hmirror⟩
  case h_4 =>
    cases hst
    exact ⟨_, rfl, { h with parts := rfl }⟩
  case h_5 => exact h.class? hst
  case h_6 | h_7 | h_8 => exact h.mark? hst
  case h_9 =>
    rw [step?_braces]
    exact h.braces? ((step?_braces st _).symm.trans hst)
  case h_10 =>
    split at hst
    · rename_i hunicode
      cases hst
      have hunicode' : st'.flags.unicode = true := by rw [hb]; exact hunicode
      exact ⟨st'.push (.ofSet st'.flags.dot 0), if_pos hunicode', h.push rfl⟩
    · cases hst
  case h_11 | h_12 =>
    cases hst
    exact ⟨_, rfl, h.push rfl⟩
  case h_13 => exact h.escape? hst
  case h_14 =>
    obtain ⟨part, hpart, hst⟩ := Option.bind_eq_some_iff.mp hst
    cases hst
    refine ⟨st'.push part, ?_, h.push rfl⟩
    simp only [State.step?, hb, part?_withDot, hpart, Option.bind_eq_bind, Option.bind_some]
    rfl

end State.Mirrors

end ScrapeJobs.Regex
