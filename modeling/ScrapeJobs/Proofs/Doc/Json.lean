import ScrapeJobs.Doc.Json
import ScrapeJobs.Proofs.Doc.Readings
import ScrapeJobs.Proofs.Duration

/-!
# Reading written JSON

`IsJson n d` says of a document that it can be written as JSON: its integers have 64 bits, no key
of an object occurs twice, and at most `n` sequences and objects nest in one another. Unless this
is more than a reader goes down, what is read of its text is the document (`ofJson?_toJson`).

The text of a document `Spells` tokens: it is cut into them, whatever stands behind it, as long as
that does not go on with a number. The tokens `Makes` the document, whatever tokens follow.
-/

namespace ScrapeJobs.Doc

/-! ## Documents of JSON -/

/-- A document that can be written as JSON, with so many levels at most. -/
inductive IsJson : Nat → Doc → Prop where
  | null {n : Nat} : IsJson n null
  | bool {n : Nat} (b : Bool) : IsJson n (bool b)
  | int {n : Nat} {k : Int} (hlow : -(UInt64.size / 2 : Nat) ≤ k) (hhigh : k < UInt64.size) :
      IsJson n (int k)
  | str {n : Nat} (s : String) : IsJson n (str s)
  | seq {n : Nat} {items : List Doc} (h : ∀ d ∈ items, IsJson n d) : IsJson (n + 1) (seq items)
  | object {n : Nat} {fs : Fields} (hnodup : (fs.map (·.1)).Nodup) (h : ∀ f ∈ fs, IsJson n f.2) :
      IsJson (n + 1) (object fs)

variable {n depth fuel : Nat} {d : Doc} {cs cs' rest : List Char} {ts ts' : List Token} {c : Char}

/-- Nothing is left to settle in a document of JSON. -/
theorem IsJson.settled (h : IsJson n d) : d.Settled := by
  induction h with
  | null => exact readsAs_null_iff.mpr (.inl rfl)
  | bool b => exact settled_bool b
  | int _ _ => exact readsAs_int_iff.mpr (.inl rfl)
  | str s => exact settled_str s
  | seq _ ih => exact settled_seq_iff.mpr ih
  | object _ _ ih => exact settled_object_iff.mpr ih

namespace Token

/-! ## Strings -/

theorem foldlM_hexLetter : ∀ k < 0x20,
    ['0', '0', hexLetter (k / 16), hexLetter (k % 16)].foldlM
      (fun n c => do return n * 16 + (← Scalar.digit? c)) 0 = some k := by
  decide

theorem hex4?_hexLetter {k : Nat} (hk : k < 0x20) (rest : List Char) :
    hex4? ('0' :: '0' :: hexLetter (k / 16) :: hexLetter (k % 16) :: rest) = some (k, rest) :=
  congrArg (Option.bind · fun n => some (n, rest)) (foldlM_hexLetter k hk)

theorem unicodeEscape?_hexLetter (hc : c.toNat < 0x20) (rest : List Char) :
    unicodeEscape? ('0' :: '0' :: hexLetter (c.toNat / 16) :: hexLetter (c.toNat % 16) :: rest) =
      some (c, rest) := by
  have hlow : ¬ (0xD800 ≤ c.toNat ∧ c.toNat < 0xDC00) := by omega
  have hhigh : ¬ (0xDC00 ≤ c.toNat ∧ c.toNat < 0xE000) := by omega
  rw [unicodeEscape?, hex4?_hexLetter hc]
  simp only [Option.bind_eq_bind, Option.bind_some, if_neg hlow, if_neg hhigh, Char.ofNat_toNat]
  rfl

/-- One step reads what was written for one character. -/
theorem string?_jsonChar (fuel : Nat) (done : List Char) (c : Char) (rest : List Char) :
    string? (fuel + 1) done (jsonChar c ++ rest) = string? fuel (c :: done) rest := by
  unfold jsonChar
  split
  · rfl
  · rfl
  · rfl
  · rfl
  · rfl
  · rename_i hquote hslash _ _ _
    split
    · rename_i hcontrol
      simp only [List.cons_append, List.nil_append, string?,
        unicodeEscape?_hexLetter hcontrol, Option.bind_eq_bind, Option.bind_some]
    · rename_i hcontrol
      rw [List.singleton_append, string?, if_neg hcontrol]
      · exact hquote
      · exact fun _ h _ => hslash h
      · exact fun _ _ h _ => hslash h

theorem length_le_length_flatMap (cs : List Char) : cs.length ≤ (cs.flatMap jsonChar).length := by
  have hpos : ∀ c, 0 < (jsonChar c).length := by
    intro c
    unfold jsonChar
    split
    case h_6 => split <;> exact Nat.succ_pos _
    all_goals exact Nat.succ_pos _
  induction cs with
  | nil => exact Nat.le_refl 0
  | cons c cs ih =>
    rw [List.flatMap_cons, List.length_append, List.length_cons, Nat.add_comm]
    exact Nat.add_le_add (hpos c) ih

theorem string?_flatMap (rest : List Char) (hfuel : cs.length < fuel) (done : List Char) :
    string? fuel done (cs.flatMap jsonChar ++ '\x22' :: rest) =
      some (String.ofList (done.reverse ++ cs), rest) := by
  induction cs generalizing fuel done with
  | nil =>
    obtain ⟨fuel, rfl⟩ := Nat.exists_eq_add_one_of_ne_zero (Nat.ne_zero_of_lt hfuel)
    rw [List.append_nil]
    rfl
  | cons c cs ih =>
    obtain ⟨fuel, rfl⟩ := Nat.exists_eq_add_one_of_ne_zero (Nat.ne_zero_of_lt hfuel)
    rw [List.flatMap_cons, List.append_assoc, string?_jsonChar,
      ih (Nat.lt_of_succ_lt_succ hfuel), List.reverse_cons, List.append_assoc]
    rfl

/-! ## Numbers -/

open Duration (span_toDigits toDigits_ne_nil isDigit_of_mem_toDigits)

/-- A number at the end of a text does not go on in this one. -/
def Stops (rest : List Char) : Prop :=
  ∀ c ∈ rest.head?, c.isDigit = false ∧ c ≠ '.' ∧ c ≠ 'e' ∧ c ≠ 'E'

theorem stops_nil : Stops [] := nofun

theorem natOfDigits_toDigits (m : Nat) : natOfDigits (Nat.toDigits 10 m) = m :=
  Duration.natOfDigits_toDigits m

theorem head?_toDigits_ne_zero {m : Nat} (hm : m ≠ 0) :
    (Nat.toDigits 10 m).head? ≠ some '0' := by
  induction m using Nat.strongRecOn with
  | ind m ih =>
    rcases Nat.lt_or_ge m 10 with hlt | hge
    · have hdigit : ∀ k < 10, k ≠ 0 → Nat.digitChar k ≠ '0' := by decide
      rw [Nat.toDigits_of_lt_base hlt]
      exact fun h => hdigit m hlt hm (Option.some.inj h)
    · rw [Nat.toDigits_of_base_le (by decide) hge,
        List.head?_append_of_ne_nil _ (toDigits_ne_nil _)]
      exact ih (m / 10) (by omega) (by omega)

theorem integerPart?_toDigits (m : Nat) (h : Stops rest) :
    integerPart? (Nat.toDigits 10 m ++ rest) = some (Nat.toDigits 10 m, rest) := by
  obtain ⟨htake, hdrop⟩ := span_toDigits m fun c hc => (h c hc).1
  rw [integerPart?, htake, hdrop]
  split
  · rename_i hnil
    exact (toDigits_ne_nil m hnil).elim
  · rename_i hzero
    by_cases hm : m = 0
    · subst hm
      cases hzero
    · exact (head?_toDigits_ne_zero hm (hzero ▸ rfl)).elim
  · rfl

/-- A number of 64 bits is read from its sign and its digits. -/
theorem number?_of_sign (negative : Bool) {m : Nat} (hzero : negative = true → m ≠ 0)
    (hm : m < if negative = true then UInt64.size / 2 + 1 else UInt64.size) (h : Stops rest) :
    number? ((if negative then ['-'] else []) ++ (Nat.toDigits 10 m ++ rest)) =
      some (.int (if negative then -m else m), rest) := by
  have hvalue := natOfDigits_toDigits m
  have hfits : (none : Option (List Char)).isNone = true ∧ (none : Option Int).isNone = true ∧
      (!(negative && decide (natOfDigits (Nat.toDigits 10 m) = 0))) = true ∧
        natOfDigits (Nat.toDigits 10 m) <
          if negative = true then UInt64.size / 2 + 1 else UInt64.size := by
    rw [hvalue]
    refine ⟨rfl, rfl, ?_, hm⟩
    cases negative with
    | true => simpa using hzero rfl
    | false => rfl
  unfold number?
  split
  rename_i sign text hsign
  obtain ⟨rfl, rfl⟩ : sign = negative ∧ text = Nat.toDigits 10 m ++ rest := by
    cases negative with
    | true =>
      cases hsign
      exact ⟨rfl, rfl⟩
    | false =>
      split at hsign
      · rename_i hminus
        have hhead : (Nat.toDigits 10 m ++ rest).head? = some '-' := congrArg List.head? hminus
        rw [List.head?_append_of_ne_nil _ (toDigits_ne_nil m)] at hhead
        cases isDigit_of_mem_toDigits (List.mem_of_mem_head? hhead)
      · cases hsign
        exact ⟨rfl, rfl⟩
  rw [integerPart?_toDigits m h]
  simp only [Option.bind_eq_bind, Option.bind_some]
  -- neither a fraction nor an exponent begins behind the digits
  split
  · exact ((h '.' rfl).2.1 rfl).elim
  · split
    · rename_i e _ _
      obtain ⟨-, -, he, hE⟩ := h e rfl
      rw [if_neg (not_or.mpr ⟨he, hE⟩), if_pos hfits, hvalue]
      rfl
    · rw [if_pos hfits, hvalue]
      rfl

theorem number?_toString {k : Int} (hlow : -(UInt64.size / 2 : Nat) ≤ k)
    (hhigh : k < UInt64.size) (h : Stops rest) :
    number? ((toString k).toList ++ rest) = some (.int k, rest) := by
  cases k with
  | ofNat m =>
    have htext : (toString (Int.ofNat m)).toList = Nat.toDigits 10 m := Nat.toList_repr
    rw [htext]
    exact number?_of_sign false nofun (Int.ofNat_lt.mp hhigh) h
  | negSucc m =>
    have htext : (toString (Int.negSucc m)).toList = '-' :: Nat.toDigits 10 (m + 1) := by
      change ("-" ++ Nat.repr (m + 1)).toList = _
      rw [String.toList_append, Nat.toList_repr]
      rfl
    have hm : m + 1 < UInt64.size / 2 + 1 := by omega
    rw [htext]
    exact number?_of_sign true (fun _ => Nat.succ_ne_zero m) hm h

/-! ## Tokens -/

/-- The text is cut into these tokens, whatever stands behind it. -/
structure Spells (cs : List Char) (ts : List Token) : Prop where
  length_le : ts.length ≤ cs.length
  scan : ∀ rest, Stops rest → ∀ fuel,
    scan? (ts.length + fuel) (cs ++ rest) = (scan? fuel rest).map (ts ++ ·)

/-- A character that is a token. -/
structure IsMark (c : Char) (t : Token) : Prop where
  isSpace : isSpace c = false
  stops : ∀ rest, Stops (c :: rest)
  next : ∀ rest, next? (c :: rest) = some (t, rest)

theorem stops_cons (h : c.isDigit = false ∧ c ≠ '.' ∧ c ≠ 'e' ∧ c ≠ 'E') (rest : List Char) :
    Stops (c :: rest) := by
  intro e he
  cases he
  exact h

theorem isMark_beginArray : IsMark '[' beginArray := ⟨rfl, stops_cons (by decide), fun _ => rfl⟩
theorem isMark_endArray : IsMark ']' endArray := ⟨rfl, stops_cons (by decide), fun _ => rfl⟩
theorem isMark_beginObject : IsMark '\x7b' beginObject :=
  ⟨rfl, stops_cons (by decide), fun _ => rfl⟩
theorem isMark_endObject : IsMark '\x7d' endObject :=
  ⟨rfl, stops_cons (by decide), fun _ => rfl⟩
theorem isMark_comma : IsMark ',' comma := ⟨rfl, stops_cons (by decide), fun _ => rfl⟩
theorem isMark_colon : IsMark ':' colon := ⟨rfl, stops_cons (by decide), fun _ => rfl⟩

/-- One step reads a token. -/
theorem scan?_of_next? {t : Token} (hspace : isSpace c = false)
    (h : next? (c :: cs) = some (t, rest)) (fuel : Nat) :
    scan? (fuel + 1) (c :: cs) = (scan? fuel rest).map (t :: ·) := by
  rw [scan?, List.dropWhile_cons_of_neg (by simp [hspace])]
  simp only [h, Option.bind_eq_bind, Option.bind_some]
  cases scan? fuel rest <;> rfl

theorem spells_nil : Spells [] [] where
  length_le := Nat.le_refl 0
  scan rest _ fuel := by simp

/-- A token that is read from a text of its own. -/
theorem spells_singleton {t : Token} (hspace : isSpace c = false)
    (h : ∀ rest, Stops rest → next? (c :: cs ++ rest) = some (t, rest)) :
    Spells (c :: cs) [t] where
  length_le := Nat.succ_le_succ (Nat.zero_le _)
  scan rest hrest fuel := by
    rw [Nat.add_comm]
    exact scan?_of_next? hspace (h rest hrest) fuel

/-- Texts stand one behind the other with a mark in between. -/
theorem Spells.append_mark {t : Token} (h : Spells cs ts) (hmark : IsMark c t)
    (h' : Spells cs' ts') : Spells (cs ++ c :: cs') (ts ++ t :: ts') where
  length_le := by
    simp only [List.length_append, List.length_cons]
    exact Nat.add_le_add h.length_le (Nat.succ_le_succ h'.length_le)
  scan rest hrest fuel := by
    have hfuel : (ts ++ t :: ts').length + fuel = ts.length + (ts'.length + fuel + 1) := by
      simp only [List.length_append, List.length_cons]
      omega
    rw [hfuel, List.append_assoc, List.cons_append, h.scan _ (hmark.stops _),
      scan?_of_next? hmark.isSpace (hmark.next _), h'.scan rest hrest]
    cases scan? fuel rest <;> simp

/-! ## Scalars -/

theorem spells_null : Spells "null".toList [scalar null] :=
  spells_singleton rfl fun _ _ => rfl

theorem spells_bool (b : Bool) : Spells (toJson (bool b)).toList [scalar (bool b)] := by
  cases b <;> exact spells_singleton rfl fun _ _ => rfl

theorem spells_str (s : String) : Spells (jsonString s).toList [scalar (str s)] := by
  have htext : (jsonString s).toList = '\x22' :: (s.toList.flatMap jsonChar ++ ['\x22']) := by
    simp [jsonString]
  rw [htext]
  refine spells_singleton rfl fun rest _ => ?_
  have hfuel : s.toList.length < (s.toList.flatMap jsonChar ++ '\x22' :: rest).length + 1 := by
    have hlength := length_le_length_flatMap s.toList
    simp only [List.length_append]
    omega
  have hread := string?_flatMap rest hfuel []
  rw [List.reverse_nil, List.nil_append, String.ofList_toList] at hread
  rw [List.cons_append, List.append_assoc, List.singleton_append, next?, hread]
  rfl

theorem next?_of_number? {t : Doc} (hc : c.isDigit = true ∨ c = '-')
    (h : number? (c :: cs) = some (t, rest)) : next? (c :: cs) = some (scalar t, rest) := by
  unfold next?
  split
  case h_11 =>
    rw [h]
    rfl
  all_goals
    rename_i hmark
    cases hmark
    exact absurd hc (by decide)

theorem spells_int {k : Int} (hlow : -(UInt64.size / 2 : Nat) ≤ k) (hhigh : k < UInt64.size) :
    Spells (toString k).toList [scalar (int k)] := by
  obtain ⟨c, cs, htext, hc⟩ : ∃ c cs, (toString k).toList = c :: cs ∧
      (c.isDigit = true ∨ c = '-') := by
    cases k with
    | ofNat m =>
      have htext : (toString (Int.ofNat m)).toList = Nat.toDigits 10 m := Nat.toList_repr
      obtain ⟨c, cs, hcs⟩ := List.exists_cons_of_ne_nil (toDigits_ne_nil m)
      exact ⟨c, cs, htext.trans hcs, .inl (isDigit_of_mem_toDigits (hcs ▸ List.mem_cons_self))⟩
    | negSucc m => exact ⟨'-', (Nat.repr (m + 1)).toList, String.toList_append, .inr rfl⟩
  have hspace : isSpace c = false := by
    rcases hc with hc | rfl
    · refine Bool.eq_false_iff.mpr fun hs => ?_
      simp only [isSpace, Bool.or_eq_true, decide_eq_true_eq] at hs
      rcases hs with ((rfl | rfl) | rfl) | rfl <;> cases hc
    · rfl
  rw [htext]
  refine spells_singleton hspace fun rest hrest => next?_of_number? hc ?_
  have hread := number?_toString hlow hhigh hrest
  rwa [htext] at hread

end Token

open Token

/-! ## Values -/

/-- The tokens are those of the document, whatever tokens follow. -/
def Makes (ts : List Token) (n : Nat) (d : Doc) : Prop :=
  ∀ rest fuel depth, ts.length ≤ fuel → n < depth →
    value? fuel depth (ts ++ rest) = some (d, rest)

theorem makes_scalar (n : Nat) (d : Doc) : Makes [.scalar d] n d := by
  intro rest fuel depth hfuel _
  obtain ⟨fuel, rfl⟩ := Nat.exists_eq_add_one_of_ne_zero (Nat.ne_zero_of_lt hfuel)
  rfl

/-- No value begins with the end of a sequence. -/
theorem Makes.exists_cons (h : Makes ts n d) :
    ∃ t ts', ts = t :: ts' ∧ t ≠ .endArray := by
  have hread := h [] (ts.length + 1) (n + 1) (Nat.le_succ _) (Nat.lt_succ_self _)
  cases ts with
  | nil => cases hread
  | cons t ts =>
    refine ⟨t, ts, rfl, ?_⟩
    rintro rfl
    cases hread

theorem value?_beginArray {t : Token} (ht : t ≠ .endArray) (fuel depth : Nat) (ts : List Token) :
    value? (fuel + 1) (depth + 2) (.beginArray :: t :: ts) =
      items? fuel (depth + 1) [] (t :: ts) := by
  rw [value?]
  · rfl
  · rintro rest h
    exact ht (List.head_eq_of_cons_eq h)

/-- The tokens of items up to the end of their sequence. -/
def MakesItems (ts : List Token) (n : Nat) (items : List Doc) : Prop :=
  ∀ rest fuel depth done, ts.length < fuel → n < depth →
    items? fuel depth done (ts ++ .endArray :: rest) = some (seq (done.reverse ++ items), rest)

theorem Makes.items (h : Makes ts n d) : MakesItems ts n [d] := by
  intro rest fuel depth done hfuel hdepth
  obtain ⟨fuel, rfl⟩ := Nat.exists_eq_add_one_of_ne_zero (Nat.ne_zero_of_lt hfuel)
  rw [items?, h _ fuel depth (Nat.le_of_lt_succ hfuel) hdepth]
  simp

theorem MakesItems.cons {items : List Doc} (h : Makes ts n d) (h' : MakesItems ts' n items) :
    MakesItems (ts ++ .comma :: ts') n (d :: items) := by
  intro rest fuel depth done hfuel hdepth
  obtain ⟨fuel, rfl⟩ := Nat.exists_eq_add_one_of_ne_zero (Nat.ne_zero_of_lt hfuel)
  simp only [List.length_append, List.length_cons] at hfuel
  rw [items?, List.append_assoc, h _ fuel depth (by omega) hdepth]
  simp only [List.cons_append]
  rw [h' rest fuel depth _ (by omega) hdepth]
  simp

/-- What begins a sequence or an object takes one step and one level. -/
theorem Makes.of_nested {t : Token} (h : ∀ rest fuel depth, ts.length ≤ fuel → n < depth + 1 →
    value? (fuel + 1) (depth + 2) (t :: (ts ++ rest)) = some (d, rest)) :
    Makes (t :: ts) (n + 1) d := by
  intro rest fuel depth hfuel hdepth
  obtain ⟨fuel, rfl⟩ := Nat.exists_eq_add_one_of_ne_zero (Nat.ne_zero_of_lt hfuel)
  obtain ⟨depth, rfl⟩ : ∃ k, depth = k + 2 := ⟨depth - 2, by omega⟩
  exact h rest fuel depth (Nat.le_of_succ_le_succ hfuel) (Nat.lt_of_succ_lt_succ hdepth)

theorem makes_seq_nil (n : Nat) : Makes [.beginArray, .endArray] (n + 1) (seq []) :=
  .of_nested fun _ _ _ _ _ => rfl

theorem MakesItems.makes {t : Token} {items : List Doc} (ht : t ≠ .endArray)
    (h : MakesItems (t :: ts) n items) :
    Makes (.beginArray :: (t :: ts ++ [.endArray])) (n + 1) (seq items) := by
  refine .of_nested fun rest fuel depth hfuel hlevel => ?_
  have hlt : (t :: ts).length < fuel := by
    simp only [List.length_append, List.length_cons, List.length_nil] at hfuel ⊢
    omega
  rw [List.append_assoc, List.cons_append, value?_beginArray ht]
  exact h rest fuel (depth + 1) [] hlt hlevel

theorem exists_tokens_items {items : List Doc} (hne : items ≠ [])
    (h : ∀ d ∈ items, ∃ ts, Spells d.toJson.toList ts ∧ Makes ts n d) :
    ∃ t ts, t ≠ .endArray ∧ Spells (jsonItems items).toList (t :: ts) ∧
      MakesItems (t :: ts) n items := by
  induction items with
  | nil => exact (hne rfl).elim
  | cons d rest ih =>
    obtain ⟨⟨ts, hspells, hmakes⟩, hrest⟩ := List.forall_mem_cons.mp h
    obtain ⟨t, ts, rfl, ht⟩ := hmakes.exists_cons
    cases rest with
    | nil => exact ⟨t, ts, ht, hspells, hmakes.items⟩
    | cons e rest =>
      obtain ⟨t', ts', -, hspells', hmakes'⟩ := ih (List.cons_ne_nil _ _) hrest
      refine ⟨t, ts ++ .comma :: t' :: ts', ht, ?_, .cons hmakes hmakes'⟩
      have htext : (jsonItems (d :: e :: rest)).toList =
          d.toJson.toList ++ ',' :: (jsonItems (e :: rest)).toList := by
        simp [jsonItems]
      rw [htext]
      exact hspells.append_mark isMark_comma hspells'

/-! ## Objects -/

theorem setEntry_entries {fs : Fields} {k : String} (hk : k ∉ fs.map (·.1)) (d : Doc) :
    setEntry k d (entries fs) = entries (fs ++ [(k, d)]) := by
  induction fs with
  | nil => rfl
  | cons f fs ih =>
    obtain ⟨hf, hfs⟩ := List.ne_and_not_mem_of_not_mem_cons hk
    rw [entries, List.map_cons, setEntry, if_neg hf]
    exact congrArg (_ :: ·) (ih hfs)

/-- The tokens of fields up to the end of their object, behind others with other keys. -/
def MakesFields (ts : List Token) (n : Nat) (fs : Fields) : Prop :=
  ∀ rest fuel depth done, ts.length < fuel → n < depth → ((done ++ fs).map (·.1)).Nodup →
    entries? fuel depth (entries done) (ts ++ .endObject :: rest) = some (object (done ++ fs), rest)

theorem not_mem_of_nodup_append {done fs : Fields} {k : String}
    (h : ((done ++ (k, d) :: fs).map (·.1)).Nodup) : k ∉ done.map (·.1) := by
  rw [List.map_append, List.map_cons] at h
  exact fun hk => (List.nodup_append.mp h).2.2 k hk k List.mem_cons_self rfl

theorem Makes.fields (h : Makes ts n d) (k : String) :
    MakesFields (.scalar (str k) :: .colon :: ts) n [(k, d)] := by
  intro rest fuel depth done hfuel hdepth hnodup
  obtain ⟨fuel, rfl⟩ := Nat.exists_eq_add_one_of_ne_zero (Nat.ne_zero_of_lt hfuel)
  simp only [List.length_cons] at hfuel
  simp only [List.cons_append, entries?]
  rw [h _ fuel depth (by omega) hdepth]
  simp only [setEntry_entries (not_mem_of_nodup_append hnodup)]
  rfl

theorem MakesFields.cons {fs : Fields} (h : Makes ts n d) (h' : MakesFields ts' n fs) (k : String) :
    MakesFields (.scalar (str k) :: .colon :: (ts ++ .comma :: ts')) n ((k, d) :: fs) := by
  intro rest fuel depth done hfuel hdepth hnodup
  obtain ⟨fuel, rfl⟩ := Nat.exists_eq_add_one_of_ne_zero (Nat.ne_zero_of_lt hfuel)
  simp only [List.length_append, List.length_cons] at hfuel
  have hfields : done ++ (k, d) :: fs = done ++ [(k, d)] ++ fs := by simp
  simp only [List.cons_append, entries?, List.append_assoc]
  rw [h _ fuel depth (by omega) hdepth]
  simp only [setEntry_entries (not_mem_of_nodup_append hnodup)]
  rw [hfields] at hnodup ⊢
  exact h' rest fuel depth _ (by omega) hdepth hnodup

theorem exists_tokens_fields {fs : Fields} (hne : fs ≠ [])
    (h : ∀ f ∈ fs, ∃ ts, Spells f.2.toJson.toList ts ∧ Makes ts n f.2) :
    ∃ k ts, Spells (jsonEntries (entries fs)).toList (.scalar (str k) :: ts) ∧
      MakesFields (.scalar (str k) :: ts) n fs := by
  induction fs with
  | nil => exact (hne rfl).elim
  | cons f rest ih =>
    obtain ⟨⟨ts, hspells, hmakes⟩, hrest⟩ := List.forall_mem_cons.mp h
    obtain ⟨k, d⟩ := f
    have hentry := (spells_str k).append_mark isMark_colon hspells
    cases rest with
    | nil =>
      refine ⟨k, .colon :: ts, ?_, hmakes.fields k⟩
      have htext : (jsonEntries (entries [(k, d)])).toList =
          (jsonString k).toList ++ ':' :: d.toJson.toList := by
        simp [entries, jsonEntries, toJson]
      rwa [htext]
    | cons g rest =>
      obtain ⟨k', ts', hspells', hmakes'⟩ := ih (List.cons_ne_nil _ _) hrest
      refine ⟨k, .colon :: (ts ++ .comma :: .scalar (str k') :: ts'), ?_, hmakes'.cons hmakes k⟩
      have htext : (jsonEntries (entries ((k, d) :: g :: rest))).toList =
          (jsonString k).toList ++ ':' :: d.toJson.toList ++
            ',' :: (jsonEntries (entries (g :: rest))).toList := by
        simp [entries, jsonEntries, toJson]
      rw [htext]
      exact hentry.append_mark isMark_comma hspells'

theorem makes_object_nil (n : Nat) : Makes [.beginObject, .endObject] (n + 1) (object []) :=
  .of_nested fun _ _ _ _ _ => rfl

theorem MakesFields.makes {fs : Fields} {k : String} (hnodup : (fs.map (·.1)).Nodup)
    (h : MakesFields (.scalar (str k) :: ts) n fs) :
    Makes (.beginObject :: (.scalar (str k) :: ts ++ [.endObject])) (n + 1) (object fs) := by
  refine .of_nested fun rest fuel depth hfuel hlevel => ?_
  have hlt : (Token.scalar (str k) :: ts).length < fuel := by
    simp only [List.length_append, List.length_cons, List.length_nil] at hfuel ⊢
    omega
  rw [List.append_assoc]
  exact h rest fuel (depth + 1) [] hlt hlevel hnodup

/-! ## Documents -/

theorem exists_tokens (h : IsJson n d) : ∃ ts, Spells d.toJson.toList ts ∧ Makes ts n d := by
  induction h with
  | null => exact ⟨_, spells_null, makes_scalar _ _⟩
  | bool b => exact ⟨_, spells_bool b, makes_scalar _ _⟩
  | int hlow hhigh => exact ⟨_, spells_int hlow hhigh, makes_scalar _ _⟩
  | str s => exact ⟨_, spells_str s, makes_scalar _ _⟩
  | @seq n items _ ih =>
    have htext : (toJson (seq items)).toList =
        [] ++ '[' :: ((jsonItems items).toList ++ [']']) := by
      simp [toJson]
    rw [htext]
    by_cases hne : items = []
    · subst hne
      exact ⟨_, spells_nil.append_mark isMark_beginArray
        (spells_nil.append_mark isMark_endArray spells_nil), makes_seq_nil n⟩
    · obtain ⟨t, ts, ht, hspells, hmakes⟩ := exists_tokens_items hne ih
      exact ⟨_, spells_nil.append_mark isMark_beginArray
        (hspells.append_mark isMark_endArray spells_nil), hmakes.makes ht⟩
  | @object n fs hnodup _ ih =>
    have htext : (toJson (object fs)).toList =
        [] ++ '\x7b' :: ((jsonEntries (entries fs)).toList ++ ['\x7d']) := by
      simp [toJson, object, entries]
    rw [htext]
    by_cases hne : fs = []
    · subst hne
      exact ⟨_, spells_nil.append_mark isMark_beginObject
        (spells_nil.append_mark isMark_endObject spells_nil), makes_object_nil n⟩
    · obtain ⟨k, ts, hspells, hmakes⟩ := exists_tokens_fields hne ih
      exact ⟨_, spells_nil.append_mark isMark_beginObject
        (hspells.append_mark isMark_endObject spells_nil), hmakes.makes hnodup⟩

/-- What is read of the text of a document is the document. -/
theorem ofJson?_toJson {d : Doc} (h : IsJson (depthLimit - 1) d) : ofJson? d.toJson = some d := by
  obtain ⟨ts, hspells, hmakes⟩ := exists_tokens h
  have hlength : d.toJson.length + 1 = ts.length + (d.toJson.toList.length - ts.length + 1) := by
    have hle := hspells.length_le
    rw [String.length_toList] at hle ⊢
    omega
  have hscan := hspells.scan [] stops_nil (d.toJson.toList.length - ts.length + 1)
  have hvalue := hmakes [] (ts.length + 1) depthLimit (Nat.le_succ _) (by decide)
  rw [List.append_nil] at hscan hvalue
  rw [ofJson?, hlength, hscan]
  simp only [scan?, List.dropWhile_nil, Option.map_some, List.append_nil, Option.bind_eq_bind,
    Option.bind_some, hvalue]

end ScrapeJobs.Doc
