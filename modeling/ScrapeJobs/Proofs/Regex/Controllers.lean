import ScrapeJobs.Proofs.Regex.Between

/-!
# Patterns of controllers

The patterns that tell the controller above a replica set or a job from its name ask for the kind,
the name of that controller, and a suffix (`anchored?_replicaSet`, `anchored?_cronJob`). They have
groups, repeats and classes, so their reading is put together from a few runs of the reader, each
of which takes no more than one step for each character (`Reads`). What the suffixes are is said by
`accepts_revision` and `accepts_time`.
-/

namespace ScrapeJobs.Regex

variable {st st' st'' : State} {cs cs' cs'' rest p : List Char}

/-! ## Runs of the reader -/

/-- The reader comes from one state with a text ahead to another one, in no more steps than it
goes on by characters. -/
def Reads (st : State) (cs : List Char) (st' : State) (cs' : List Char) : Prop :=
  ∃ n, n + cs'.length ≤ cs.length ∧
    ∀ fuel, State.run? (n + fuel) st cs = State.run? fuel st' cs'

theorem Reads.trans (h : Reads st cs st' cs') (h' : Reads st' cs' st'' cs'') :
    Reads st cs st'' cs'' := by
  obtain ⟨n, hn, hrun⟩ := h
  obtain ⟨m, hm, hrun'⟩ := h'
  refine ⟨n + m, by omega, fun fuel => ?_⟩
  rw [Nat.add_assoc, hrun, hrun']

theorem reads_of_step? (hf : st.flags = { dotAll := true }) {c : Char}
    (h : st.step? (c :: cs) = some (st', rest)) (hlength : rest.length ≤ cs.length) :
    Reads st (c :: cs) st' rest := by
  refine ⟨1, by rw [List.length_cons]; omega, fun fuel => ?_⟩
  rw [Nat.add_comm]
  exact run?_of_step? (by rw [hf]) h fuel

theorem reads_escaped (hf : st.flags = { dotAll := true }) (cs rest : List Char) :
    Reads st (escaped cs ++ rest) { st with parts := (cs.map .char).reverse ++ st.parts } rest := by
  refine ⟨cs.length, ?_, run?_escaped hf cs rest⟩
  rw [List.length_append]
  have := length_le_length_escaped cs
  omega

/-- A text that is read up to the end of its pattern is read. -/
theorem run?_of_reads {ps : List Part} {count : Nat}
    (h : Reads {} p { opened with parts := ps, count } [')', '$']) :
    State.run? (p.length + 1) {} p = some { parts := enclosed (Part.sequence ps), count } := by
  obtain ⟨n, hn, hrun⟩ := h
  obtain ⟨m, hm⟩ := Nat.exists_eq_add_of_le hn
  have hfuel : p.length + 1 = n + (m + 3) := by
    rw [hm, List.length_cons, List.length_singleton]
    omega
  rw [hfuel, hrun]
  exact run?_closing ps [] count m

/-! ## Parts of the patterns -/

/-- Any text that is not empty. -/
def Part.someText : Part := (Part.ofSet .all 0).repeated 1 none true

/-- A part as a group with a number. -/
def Part.group (number : Nat) (p : Part) : Part where
  expr := .group number p.expr
  depth := p.depth + 1
  size := p.size + 64

def digits : CharSet := ⟨[(0x30, 0x39)]⟩

def lowerOrDigits : CharSet := ⟨[(0x30, 0x39), (0x61, 0x7A)]⟩

def Part.digit : Part := .ofSet digits 1

def Part.lowerOrDigit : Part := .ofSet lowerOrDigits 2

theorem union_digits : CharSet.empty.union (.range '0' '9') = digits := by
  simp [CharSet.union, CharSet.empty, CharSet.range, CharSet.join, CharSet.join.go, digits]

theorem union_lower_digits :
    (CharSet.empty.union (.range 'a' 'z')).union (.range '0' '9') = lowerOrDigits := by
  simp [CharSet.union, CharSet.empty, CharSet.range, CharSet.join, CharSet.join.go, lowerOrDigits]

-- The unions are kept as they are while a class is read, since they do not reduce.

theorem step?_digit (hf : st.flags = { dotAll := true }) (rest : List Char) :
    st.step? ('[' :: '0' :: '-' :: '9' :: ']' :: rest) = some (st.push .digit, rest) := by
  obtain ⟨flags, parts⟩ := st
  cases hf
  rw [Part.digit, ← union_digits]
  rfl

theorem step?_lowerOrDigit (hf : st.flags = { dotAll := true }) (rest : List Char) :
    st.step? ('[' :: 'a' :: '-' :: 'z' :: '0' :: '-' :: '9' :: ']' :: rest) =
      some (st.push .lowerOrDigit, rest) := by
  obtain ⟨flags, parts⟩ := st
  cases hf
  rw [Part.lowerOrDigit, ← union_lower_digits]
  rfl

theorem step?_plus (hf : st.flags = { dotAll := true }) {ps : List Part} {q : Part}
    (hparts : st.parts = q :: ps) (hq : q.setsFlags = false) {c : Char} (hc : c ≠ '?')
    (rest : List Char) :
    st.step? ('+' :: c :: rest) =
      some ({ st with parts := q.repeated 1 none true :: ps }, c :: rest) := by
  have hlazy : lazyMark (c :: rest) = (true, c :: rest) := by
    unfold lazyMark
    split
    · rename_i h
      exact (hc (List.cons.inj h).1).elim
    · rfl
  simp [State.step?, State.repeatLast?, hlazy, hparts, hq, hf]

theorem step?_eight (hf : st.flags = { dotAll := true }) {ps : List Part} {q : Part}
    (hparts : st.parts = q :: ps) (hq : q.setsFlags = false) (rest : List Char) :
    st.step? ('\x7b' :: '8' :: '\x7d' :: ')' :: rest) =
      some ({ st with parts := q.repeated 8 (some 8) true :: ps }, ')' :: rest) := by
  obtain ⟨flags, parts⟩ := st
  obtain ⟨expr, depth, size, setsFlags⟩ := q
  cases hf
  cases hparts
  cases hq
  rfl

theorem reads_someText (hf : st.flags = { dotAll := true }) {c : Char} (hc : c ≠ '?')
    (rest : List Char) :
    Reads st ('.' :: '+' :: c :: rest) (st.push .someText) (c :: rest) := by
  have hdot : st.step? ('.' :: '+' :: c :: rest) =
      some (st.push (.ofSet .all 0), '+' :: c :: rest) := by
    simp [State.step?, hf, Flags.dot]
  have hplus := @step?_plus (st.push (.ofSet .all 0)) hf st.parts (.ofSet .all 0) rfl rfl c hc rest
  have hmark := @reads_of_step? (st.push (.ofSet .all 0)) _ _ _ hf _ hplus (Nat.le_refl _)
  exact (reads_of_step? hf hdot (Nat.le_refl _)).trans hmark

theorem reads_group (hf : st.flags = { dotAll := true }) (rest : List Char) :
    Reads st ('(' :: '.' :: '+' :: ')' :: rest)
      { st with
        parts := Part.group (st.count + 1) .someText :: st.parts
        count := st.count + 1 } rest := by
  refine ⟨4, by simp only [List.length_cons]; omega, fun fuel => ?_⟩
  obtain ⟨flags, parts⟩ := st
  cases hf
  rw [Nat.add_comm]
  rfl

/-- A pattern is read as its parts between the ends of a text, if these are neither nested too deep
nor too large. -/
theorem anchored?_of_reads {p : String} {ps : List Part} {count : Nat}
    (h : Reads opened (p.toList ++ [')', '$']) { opened with parts := ps, count } [')', '$'])
    (hdepth : (Part.sequence ps).depth + 2 ≤ depthLimit)
    (hsize : (Part.sequence ps).size + 64 ≤ sizeLimit) :
    anchored? p = some ⟨.whole (Part.sequence ps).expr.parts, []⟩ := by
  have hopen : Reads {} (anchoredText p.toList) opened (p.toList ++ [')', '$']) := by
    refine ⟨2, ?_, fun fuel => ?_⟩
    · rw [anchoredText_eq]
      simp only [List.length_cons]
      omega
    · rw [Nat.add_comm]
      exact run?_anchoredText _ _
  have hrun := run?_of_reads (hopen.trans h)
  have hlimits : ¬ (depthLimit < (Part.sequence ps).depth + 2 ∨
      sizeLimit < (Part.sequence ps).size + 64) := by omega
  have hread : read? (anchoredText p.toList) =
      some (.whole (Part.sequence ps).expr.parts, []) := by
    rw [read?, hrun]
    simp only [Option.bind_eq_bind, Option.bind_some, alternatives_closed, if_neg hlimits]
    rfl
  exact anchored?_of_read? hread

/-! ## Patterns -/

/-- What stands behind the name of a deployment: a dash, a revision and the hash of its template. -/
def revisionTail : List Expr :=
  [.char '-', .repeat (.chars lowerOrDigits) 1 none true, .char ';', .someText]

/-- What stands behind the name of a cron job: a dash and a time. -/
def timeTail : List Expr := [.char '-', .repeat (.chars digits) 8 (some 8) true]

/-- The pattern for a replica set of a deployment. -/
theorem anchored?_replicaSet : anchored? "ReplicaSet;(.+)-[a-z0-9]+;.+" =
    some (between "ReplicaSet;".toList revisionTail) := by
  have hkind := @reads_escaped opened rfl "ReplicaSet;".toList "(.+)-[a-z0-9]+;.+)$".toList
  have hname := hkind.trans (reads_group rfl "-[a-z0-9]+;.+)$".toList)
  have hdash := hname.trans
    (reads_of_step? rfl (step?_plain rfl (by decide) "[a-z0-9]+;.+)$".toList) (Nat.le_refl _))
  have hclass := hdash.trans
    (reads_of_step? rfl (step?_lowerOrDigit rfl "+;.+)$".toList) (by decide))
  have hhash := hclass.trans
    (reads_of_step? rfl (step?_plus rfl rfl rfl (by decide) ".+)$".toList) (Nat.le_refl _))
  have hsemicolon := hhash.trans
    (reads_of_step? rfl (step?_plain rfl (by decide) ".+)$".toList) (Nat.le_refl _))
  have hall := hsemicolon.trans (reads_someText rfl (by decide) "$".toList)
  have hread := anchored?_of_reads (p := "ReplicaSet;(.+)-[a-z0-9]+;.+") hall (by decide)
    (by decide)
  rw [hread]
  rfl

/-- The pattern for a job of a cron job. -/
theorem anchored?_cronJob : anchored? "Job;(.+)-[0-9]\x7b8\x7d" =
    some (between "Job;".toList timeTail) := by
  have hkind := @reads_escaped opened rfl "Job;".toList "(.+)-[0-9]\x7b8\x7d)$".toList
  have hname := hkind.trans (reads_group rfl "-[0-9]\x7b8\x7d)$".toList)
  have hdash := hname.trans
    (reads_of_step? rfl (step?_plain rfl (by decide) "[0-9]\x7b8\x7d)$".toList) (Nat.le_refl _))
  have hclass := hdash.trans
    (reads_of_step? rfl (step?_digit rfl "\x7b8\x7d)$".toList) (by decide))
  have htime := hclass.trans
    (reads_of_step? rfl (step?_eight rfl rfl rfl "$".toList) (by decide))
  have hread := anchored?_of_reads (p := "Job;(.+)-[0-9]\x7b8\x7d") htime (by decide) (by decide)
  rw [hread]
  rfl

/-! ## Suffixes -/

theorem contains_digits (c : Char) : digits.contains c = true ↔ c.isDigit = true := by
  simp [CharSet.contains, CharSet.containsCode, digits, Char.isDigit, UInt32.le_iff_toNat_le]

theorem contains_lowerOrDigits (c : Char) :
    lowerOrDigits.contains c = true ↔ c.isLower = true ∨ c.isDigit = true := by
  have hlower : c.isLower = (decide (0x61 ≤ c.val) && decide (c.val ≤ 0x7A)) := rfl
  rw [hlower]
  simp [CharSet.contains, CharSet.containsCode, lowerOrDigits, Char.isDigit,
    UInt32.le_iff_toNat_le, or_comm]

theorem accepts_time : Accepts timeTail fun rest => ∃ time, rest = '-' :: time ∧
    time.length = 8 ∧ ∀ c ∈ time, c.isDigit = true := by
  refine ((Accepts.nil.repeat digits 8 (some 8) true).char '-').congr fun rest => ?_
  simp only [contains_digits]
  constructor
  · rintro ⟨more, rfl, time, rest, rfl, hmin, hmax, hdigits, rfl⟩
    rw [List.append_nil]
    exact ⟨time, rfl, Nat.le_antisymm (hmax 8 rfl) hmin, hdigits⟩
  · rintro ⟨time, rfl, hlength, hdigits⟩
    refine ⟨time, rfl, time, [], (List.append_nil time).symm, Nat.le_of_eq hlength.symm, ?_,
      hdigits, rfl⟩
    rintro m ⟨⟩
    exact Nat.le_of_eq hlength

theorem accepts_revision : Accepts revisionTail fun rest => ∃ revision hash,
    rest = '-' :: (revision ++ ';' :: hash) ∧ hash ≠ [] ∧ revision ≠ [] ∧
      ∀ c ∈ revision, c.isLower = true ∨ c.isDigit = true := by
  have hhash := Accepts.nil.repeat .all 1 none true
  have hrevision := ((hhash.char ';').repeat lowerOrDigits 1 none true).char '-'
  refine hrevision.congr fun rest => ?_
  simp only [contains_lowerOrDigits]
  constructor
  · rintro ⟨more, rfl, revision, more, rfl, hne, -, hchars, more, rfl, hash, rest, rfl, hne', -, -,
      rfl⟩
    rw [List.append_nil]
    exact ⟨revision, hash, rfl, List.ne_nil_of_length_pos hne', List.ne_nil_of_length_pos hne,
      hchars⟩
  · rintro ⟨revision, hash, rfl, hne', hne, hchars⟩
    exact ⟨_, rfl, revision, _, rfl, List.length_pos_of_ne_nil hne, fun m hm => (by cases hm),
      hchars, hash, rfl, hash, [], (List.append_nil hash).symm, List.length_pos_of_ne_nil hne',
      fun m hm => (by cases hm), fun c _ => contains_all c, rfl⟩

end ScrapeJobs.Regex
