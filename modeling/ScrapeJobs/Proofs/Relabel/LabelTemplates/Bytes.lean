import ScrapeJobs.Proofs.Duration.Bytes
import ScrapeJobs.Proofs.Relabel.LabelTemplates

/-!
# Reading label templates by bytes

A label template can also be told from the bytes of its text, with a place that goes on (`scan`).
The place never gets out of the text or into a character, whatever the text is: what is looked for
are bytes below 128, which are characters of their own (`Stands`). So no byte is asked for behind
the last one, and each turn of the scan takes off what `goesOn` takes off (`scanFrom_eq`): the
answer is the same (`scan_eq`).
-/

namespace ScrapeJobs.Relabel.LabelTemplate

open Label Duration

/-! ## The scan -/

def isHeadCode (n : Nat) : Bool := isLetterCode n || n = 0x5F

def isWordCode (n : Nat) : Bool := isHeadCode n || isDigitCode n

/-- Whether a text goes on as a label template from a place in its bytes on. Nothing comes out if a
byte is needed that is not there. Behind a dollar sign and behind a name it may be missing. -/
def scanFrom (bytes : ByteArray) (i : Nat) : Option Bool :=
  if _hi : i < bytes.size then
    bytes[i]?.bind fun b =>
      if isHeadCode b.toNat then scanFrom bytes (skip bytes isWordCode (i + 1))
      else if b = 0x24 then
        if bytes[i + 1]? = some 0x7B then
          let stop := skip bytes isWordCode (i + 2)
          if stop = i + 2 ∨ bytes[stop]? ≠ some 0x7D then some false
          else scanFrom bytes (skip bytes isWordCode (stop + 1))
        else
          let stop := skip bytes isWordCode (i + 1)
          if stop = i + 1 then some false else scanFrom bytes (skip bytes isWordCode stop)
      else some false
  else some true
termination_by bytes.size - i
decreasing_by
  · have hword := le_skip bytes isWordCode (i + 1)
    omega
  · have hname := le_skip bytes isWordCode (i + 2)
    have hword := le_skip bytes isWordCode (skip bytes isWordCode (i + 2) + 1)
    omega
  · have hname := le_skip bytes isWordCode (i + 1)
    have hword := le_skip bytes isWordCode (skip bytes isWordCode (i + 1))
    omega

/-- Whether the bytes of a text are those of a label template. -/
def scan (s : String) : Option Bool :=
  if s.toByteArray.size = 0 then some false else scanFrom s.toByteArray 0

/-! ## Characters at a place -/

variable {bytes : ByteArray} {i : Nat} {c d : Char} {cs rest : List Char}

/-- From a place on, the bytes are those of some characters. -/
def Stands (bytes : ByteArray) (i : Nat) (cs : List Char) : Prop :=
  ∃ a, bytes = (a ++ String.ofList cs).toByteArray ∧ i = a.utf8ByteSize

theorem isHeadCode_eq (c : Char) : isHeadCode c.toNat = (c.isAlpha || c = '_') := by
  have hline : decide (c.toNat = 0x5F) = decide (c = '_') := by
    rw [decide_eq_decide, ← Char.toNat_inj]
    rfl
  rw [isHeadCode, isLetterCode_eq, hline]

theorem isWordCode_eq (c : Char) : isWordCode c.toNat = isWordChar c := by
  rw [isWordCode, isHeadCode_eq, isDigitCode_eq, Bool.eq_iff_iff, isWordChar_iff]
  simp

theorem lt_of_isHeadCode {n : Nat} (h : isHeadCode n = true) : n < 128 := by
  rcases Bool.or_eq_true_iff.mp h with h | h
  · exact lt_of_isLetterCode h
  · rw [of_decide_eq_true h]
    decide

theorem lt_of_isWordCode {n : Nat} (h : isWordCode n = true) : n < 128 := by
  rcases Bool.or_eq_true_iff.mp h with h | h
  · exact lt_of_isHeadCode h
  · exact lt_of_isDigitCode h

theorem stands_zero (s : String) : Stands s.toByteArray 0 s.toList :=
  ⟨"", by rw [String.empty_append, String.ofList_toList], rfl⟩

namespace Stands

theorem size_eq_iff (h : Stands bytes i []) : bytes.size = i := by
  obtain ⟨a, rfl, rfl⟩ := h
  rw [String.ofList_nil, String.append_empty, String.size_toByteArray]

/-- A byte stands where a character does, and properties of codes below 128 are told from it. -/
theorem exists_byte (h : Stands bytes i (c :: cs)) : i < bytes.size ∧ ∃ b, bytes[i]? = some b ∧
    ∀ p : Nat → Bool, (∀ n, p n = true → n < 128) → p b.toNat = p c.toNat := by
  obtain ⟨a, rfl, rfl⟩ := h
  obtain ⟨b, bs, hbytes, hlt, hget⟩ := Duration.exists_byte a c cs
  refine ⟨hlt, b, ?_, fun p hp => (test_utf8EncodeChar hp hbytes).1⟩
  exact (getElem?_pos (a ++ String.ofList (c :: cs)).toByteArray _ hlt).trans (congrArg some hget)

/-- Behind a character below 128 the next one stands at the next place. -/
theorem tail (hc : c.toNat < 128) (h : Stands bytes i (c :: cs)) : Stands bytes (i + 1) cs := by
  obtain ⟨a, rfl, rfl⟩ := h
  refine ⟨a ++ String.ofList [c], by rw [append_ofList_cons], ?_⟩
  have hsize : c.utf8Size = 1 := Char.utf8Size_eq_one_iff.mpr (Nat.le_of_lt_succ hc)
  rw [String.utf8ByteSize_append, ← String.singleton_eq_ofList, String.utf8ByteSize_singleton,
    hsize]

/-- What is skipped are the word characters. -/
theorem skip_words (h : Stands bytes i cs) :
    Stands bytes (skip bytes isWordCode i) (cs.dropWhile isWordChar) ∧
      (skip bytes isWordCode i = i ↔ cs.takeWhile isWordChar = []) := by
  obtain ⟨a, rfl, rfl⟩ := h
  have hskip := skip_append (fun _ => lt_of_isWordCode) a cs
  rw [funext isWordCode_eq] at hskip
  refine ⟨⟨_, ?_, hskip⟩, ?_⟩
  · rw [append_takeWhile_dropWhile]
  · rw [hskip, utf8ByteSize_append_ofList_eq_iff]

/-- A character below 128 is told from its byte. -/
theorem getElem?_eq_some_iff (hd : d.toNat < 128) (h : Stands bytes i cs) :
    bytes[i]? = some (UInt8.ofNat d.toNat) ↔ cs.head? = some d := by
  cases cs with
  | nil =>
    rw [getElem?_neg _ _ (by rw [h.size_eq_iff]; exact Nat.lt_irrefl i)]
    simp
  | cons c cs =>
    obtain ⟨-, b, hb, htest⟩ := h.exists_byte
    have hcode := htest (fun n => n = d.toNat) fun n hn => of_decide_eq_true hn ▸ hd
    rw [hb, List.head?_cons, Option.some_inj, Option.some_inj, ← Char.toNat_inj, ← UInt8.toNat_inj,
      UInt8.toNat_ofNat_of_lt' (Nat.lt_trans hd (by decide))]
    simpa using hcode

end Stands

/-! ## One turn at a time -/

/-- What begins a turn: nothing but a letter, an underscore or a dollar sign. -/
theorem scanFrom_cons (h : Stands bytes i (c :: rest)) :
    scanFrom bytes i =
      if c.isAlpha || c = '_' then scanFrom bytes (skip bytes isWordCode (i + 1))
      else if c = '$' then
        if rest.head? = some '\x7b' then
          let stop := skip bytes isWordCode (i + 2)
          if stop = i + 2 ∨ bytes[stop]? ≠ some 0x7D then some false
          else scanFrom bytes (skip bytes isWordCode (stop + 1))
        else
          let stop := skip bytes isWordCode (i + 1)
          if stop = i + 1 then some false else scanFrom bytes (skip bytes isWordCode stop)
      else some false := by
  obtain ⟨hi, b, hb, htest⟩ := h.exists_byte
  have hhead : isHeadCode b.toNat = (c.isAlpha || c = '_') :=
    (htest isHeadCode fun _ => lt_of_isHeadCode).trans (isHeadCode_eq c)
  have hdollar : b = 0x24 ↔ c = '$' := by
    have hbyte := h.getElem?_eq_some_iff (d := '$') (by decide)
    rwa [hb, Option.some_inj, List.head?_cons, Option.some_inj] at hbyte
  rw [scanFrom, dif_pos hi, hb, Option.bind_some, hhead]
  simp only [hdollar]
  by_cases hc : c = '$'
  · subst hc
    have hbrace : bytes[i + 1]? = some 0x7B ↔ rest.head? = some '\x7b' :=
      (h.tail (by decide)).getElem?_eq_some_iff (d := '\x7b') (by decide)
    simp only [hbrace]
  · simp only [if_neg hc]

theorem scanFrom_char (hc : c ≠ '$') (h : Stands bytes i (c :: rest)) :
    scanFrom bytes i =
      if c.isAlpha || c = '_' then scanFrom bytes (skip bytes isWordCode (i + 1))
      else some false := by
  rw [scanFrom_cons h, if_neg hc]

theorem scanFrom_reference (hopen : rest.head? ≠ some '\x7b') (h : Stands bytes i ('$' :: rest)) :
    scanFrom bytes i =
      if rest.takeWhile isWordChar = [] then some false
      else scanFrom bytes (skip bytes isWordCode (skip bytes isWordCode (i + 1))) := by
  have hempty := (h.tail (by decide)).skip_words.2
  rw [scanFrom_cons h, if_neg (by decide), if_pos rfl, if_neg hopen]
  simp only [hempty]

/-- Behind an open brace, what stops the name and whether there is one are told from the
characters. -/
theorem scanFrom_braced (h : Stands bytes i ('$' :: '\x7b' :: rest)) :
    scanFrom bytes i =
      if rest.takeWhile isWordChar = [] ∨ (rest.dropWhile isWordChar).head? ≠ some '\x7d' then
        some false
      else scanFrom bytes (skip bytes isWordCode (skip bytes isWordCode (i + 2) + 1)) := by
  have hname : Stands bytes (i + 2) rest := (h.tail (by decide)).tail (by decide)
  obtain ⟨hstop, hempty⟩ := hname.skip_words
  have hclose : bytes[skip bytes isWordCode (i + 2)]? = some 0x7D ↔
      (rest.dropWhile isWordChar).head? = some '\x7d' :=
    hstop.getElem?_eq_some_iff (d := '\x7d') (by decide)
  rw [scanFrom_cons h, if_neg (by decide), if_pos rfl, if_pos List.head?_cons]
  simp only [hempty, hclose, ne_eq]

/-! ## Reading -/

/-- From where characters stand, their bytes are read as they are. The induction is on how many
are left. -/
theorem scanFrom_eq (h : Stands bytes i cs) : scanFrom bytes i = some (goesOn cs) := by
  induction hn : cs.length using Nat.strongRecOn generalizing i cs with
  | _ n ih =>
    subst hn
    -- each turn skips the word characters at the start of a shorter rest
    have hskip : ∀ {j rest}, rest.length < cs.length → Stands bytes j rest →
        scanFrom bytes (skip bytes isWordCode j) =
          some (goesOn (rest.dropWhile isWordChar)) := by
      intro j rest hlt hrest
      have hle := Regex.length_dropWhile_le isWordChar rest
      exact ih _ (Nat.lt_of_le_of_lt hle hlt) hrest.skip_words.1 rfl
    cases cs with
    | nil => rw [scanFrom, dif_neg (Nat.not_lt.mpr h.size_eq_iff.le), goesOn_nil]
    | cons c rest =>
      by_cases hc : c = '$'
      · subst hc
        have hbehind := h.tail (by decide)
        by_cases hopen : rest.head? = some '\x7b'
        · obtain ⟨rest, rfl⟩ := List.head?_eq_some_iff.mp hopen
          rw [scanFrom_braced h]
          split
          · rename_i hunclosed
            rw [goesOn_unclosed hunclosed]
          · rename_i hclosed
            obtain ⟨hname, hend⟩ := not_or.mp hclosed
            obtain ⟨after, hafter⟩ := List.head?_eq_some_iff.mp (not_not.mp hend)
            have hstop := (hbehind.tail (by decide)).skip_words.1
            rw [hafter] at hstop
            rw [goesOn_closed hname hafter]
            refine hskip ?_ (hstop.tail (by decide))
            have hle := Regex.length_dropWhile_le isWordChar rest
            rw [hafter] at hle
            simp only [List.length_cons] at hle ⊢
            omega
        · rw [scanFrom_reference hopen h, goesOn_reference hopen]
          split
          · rfl
          · have hle := Regex.length_dropWhile_le isWordChar rest
            rw [hskip (Nat.lt_succ_of_le hle) hbehind.skip_words.1,
              List.dropWhile_idempotent isWordChar rest]
      · rw [scanFrom_char hc h, goesOn_char hc]
        split
        · rename_i hletter
          have hlt := lt_of_isHeadCode ((isHeadCode_eq c).trans hletter)
          exact hskip (Nat.lt_succ_self _) (h.tail hlt)
        · rfl

theorem scan_eq (s : String) : scan s = some (isLabelTemplate s) := by
  rw [scan, isLabelTemplate]
  by_cases hs : s = ""
  · rw [hs]
    rfl
  · have hsize : s.toByteArray.size ≠ 0 := by
      rw [String.size_toByteArray]
      exact fun h => hs (String.utf8ByteSize_eq_zero_iff.mp h)
    rw [if_neg hsize, scanFrom_eq (stands_zero s), decide_eq_true hs, Bool.true_and]

/-- Every text is scanned without asking for a byte that is not there, and what is accepted are the
texts made of word characters and references of which the first is no digit; in other words, those
that the regular expression matches. Of texts without references these are the label names. -/
theorem scan_eq_and_template_iff (s : String) :
    scan s = some (isLabelTemplate s) ∧
    (isLabelTemplate s = true ↔ IsLabelTemplate s.toList) ∧
    (isLabelTemplate s = true ↔ s.toList ∈ Pattern.labelTemplate.matches') ∧
    ('$' ∉ s.toList → isLabelTemplate s = isName s) :=
  ⟨scan_eq s, isLabelTemplate_iff s,
    (isLabelTemplate_iff s).trans Pattern.mem_labelTemplate_iff.symm, isLabelTemplate_eq_isName⟩

/-- A digit may stand behind another character, and a letter of another script nowhere. -/
theorem template_iff_names :
    ('$' ∉ "up_2".toList ∧ isLabelTemplate "up_2" = isName "up_2" ∧ isName "up_2" = true) ∧
    '$' ∉ "2é".toList ∧ isLabelTemplate "2é" = isName "2é" ∧ isName "2é" = false := by
  have hup : '$' ∉ "up_2".toList := by decide
  have hdigit : '$' ∉ "2é".toList := by decide
  exact ⟨⟨hup, (scan_eq_and_template_iff _).2.2.2 hup, by decide⟩, hdigit,
    (scan_eq_and_template_iff _).2.2.2 hdigit, by decide⟩

/-- References may follow each other, but a brace has to be closed and a name is needed. -/
example : (["$1$\x7ba\x7d$b", "a$", "$\x7ba", "$\x7b\x7d", "$é"].map scan) =
    [some true, some false, some false, some false, some false] := by
  decide +kernel

end ScrapeJobs.Relabel.LabelTemplate
