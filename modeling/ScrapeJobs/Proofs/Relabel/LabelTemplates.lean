import Mathlib.Computability.RegularExpressions
import Mathlib.Data.List.DropRight
import ScrapeJobs.Proofs.Duration.Bytes
import ScrapeJobs.Relabel

/-!
# Label templates

A label template is made of word characters and references, `$name` or `${name}`, and the first of
these pieces is no digit (`IsLabelTemplate`). `goesOn` takes a piece at a time off a text, together
with the word characters behind it (`goesOn_text`, `exists_piece_of_goesOn`), so that
`isLabelTemplate` holds of exactly the label templates (`isLabelTemplate_iff`), and of texts without
references exactly if they are label names (`isLabelTemplate_eq_isName`). The label templates are
also the words of a regular expression with one repetition inside of another
(`Pattern.mem_labelTemplate_iff`).
-/

namespace ScrapeJobs.Relabel.LabelTemplate

open Label

/-! ## The grammar -/

/-- A run of word characters that is not empty. -/
structure Word where
  chars : List Char
  ne_nil : chars ≠ []
  isWordChar_of_mem : ∀ c ∈ chars, isWordChar c = true

/-- What label templates are made of: a word character, `$name` or `${name}`. -/
inductive Piece where
  | char (c : Char) (h : isWordChar c = true)
  | reference (name : Word)
  | braced (name : Word)

namespace Piece

def text : Piece → List Char
  | char c _ => [c]
  | reference name => '$' :: name.chars
  | braced name => '$' :: '\x7b' :: (name.chars ++ ['\x7d'])

theorem text_ne_nil (p : Piece) : p.text ≠ [] := by
  cases p <;> exact List.cons_ne_nil _ _

def isDigit : Piece → Bool
  | char c _ => c.isDigit
  | reference _ | braced _ => false

end Piece

/-- The characters of a text are those of some pieces, of which the first is no digit. -/
def IsLabelTemplate (cs : List Char) : Prop :=
  ∃ first rest, Piece.isDigit first = false ∧ cs = (first :: rest).flatMap Piece.text

/-! ## One piece at a time -/

variable {c : Char} {cs rest : List Char}

theorem isWordChar_iff : isWordChar c = true ↔ (c.isAlpha = true ∨ c = '_') ∨ c.isDigit = true := by
  simp [isWordChar, Char.isAlphanum]
  tauto

theorem isDigit_of_letter (h : c.isAlpha = true ∨ c = '_') : c.isDigit = false := by
  rcases h with h | rfl
  · exact Duration.not_isDigit_of_isAlpha h
  · rfl

theorem goesOn_nil : goesOn [] = true := by
  rw [goesOn]

theorem goesOn_char (h : c ≠ '$') (rest : List Char) :
    goesOn (c :: rest) =
      if c.isAlpha || c = '_' then goesOn (rest.dropWhile isWordChar) else false := by
  rw [goesOn]
  · exact fun _ hc _ => h hc
  · exact h

theorem goesOn_reference (h : rest.head? ≠ some '\x7b') :
    goesOn ('$' :: rest) =
      if rest.takeWhile isWordChar = [] then false else goesOn (rest.dropWhile isWordChar) := by
  rw [goesOn]
  rintro rest' rfl
  exact h rfl

theorem goesOn_braced (rest : List Char) :
    goesOn ('$' :: '\x7b' :: rest) =
      if rest.takeWhile isWordChar = [] then false
      else
        match rest.dropWhile isWordChar with
        | '\x7d' :: after => goesOn (after.dropWhile isWordChar)
        | _ => false := by
  rw [goesOn]
  split
  · rfl
  · split <;> simp [*]

/-- Behind an open brace stands a name, and behind this the closing one. -/
theorem goesOn_closed {after : List Char} (hname : rest.takeWhile isWordChar ≠ [])
    (hafter : rest.dropWhile isWordChar = '\x7d' :: after) :
    goesOn ('$' :: '\x7b' :: rest) = goesOn (after.dropWhile isWordChar) := by
  rw [goesOn_braced, if_neg hname, hafter]
  rfl

theorem goesOn_unclosed (h : rest.takeWhile isWordChar = [] ∨
    (rest.dropWhile isWordChar).head? ≠ some '\x7d') : goesOn ('$' :: '\x7b' :: rest) = false := by
  rw [goesOn_braced]
  split
  · rfl
  · rename_i hname
    split
    · rename_i after hafter
      rw [hafter] at h
      exact (h.resolve_left hname rfl).elim
    · rfl

/-- What a name begins with. -/
theorem Word.exists_cons (name : Word) :
    ∃ c cs, name.chars = c :: cs ∧ isWordChar c = true := by
  obtain ⟨c, cs, hchars⟩ := List.exists_cons_of_ne_nil name.ne_nil
  exact ⟨c, cs, hchars, name.isWordChar_of_mem c (hchars ▸ List.mem_cons_self)⟩

/-- The word characters that a text begins with. -/
def Word.leading (cs : List Char) (h : cs.takeWhile isWordChar ≠ []) : Word :=
  ⟨cs.takeWhile isWordChar, h, fun _ => List.mem_takeWhile_imp⟩

theorem Word.takeWhile_ne_nil (name : Word) (rest : List Char) :
    (name.chars ++ rest).takeWhile isWordChar ≠ [] := by
  rw [List.takeWhile_append_of_pos name.isWordChar_of_mem]
  exact fun h => name.ne_nil (List.append_eq_nil_iff.mp h).1

/-- A piece that is no digit is taken off, and the word characters behind it with it. -/
theorem goesOn_text {p : Piece} (hp : p.isDigit = false) (rest : List Char) :
    goesOn (p.text ++ rest) = goesOn (rest.dropWhile isWordChar) := by
  cases p with
  | char c h =>
    have hletter : (c.isAlpha || c = '_') = true := by
      rw [Bool.or_eq_true, decide_eq_true_eq]
      exact (isWordChar_iff.mp h).resolve_right (Bool.eq_false_iff.mp hp)
    have hdollar : c ≠ '$' := by
      rintro rfl
      cases h
    exact (goesOn_char hdollar rest).trans (if_pos hletter)
  | reference name =>
    have hhead : (name.chars ++ rest).head? ≠ some '\x7b' := by
      obtain ⟨c, cs, hchars, hc⟩ := name.exists_cons
      rw [hchars]
      rintro ⟨⟩
      cases hc
    rw [Piece.text, List.cons_append, goesOn_reference hhead, if_neg (name.takeWhile_ne_nil rest),
      List.dropWhile_append_of_pos name.isWordChar_of_mem]
  | braced name =>
    have hdrop : (name.chars ++ '\x7d' :: rest).dropWhile isWordChar = '\x7d' :: rest :=
      List.dropWhile_append_of_pos name.isWordChar_of_mem
    have htext : (Piece.braced name).text ++ rest =
        '$' :: '\x7b' :: (name.chars ++ '\x7d' :: rest) := by
      simp [Piece.text]
    rw [htext, goesOn_closed (name.takeWhile_ne_nil _) hdrop]

/-- A text that goes on begins with a piece that is no digit. -/
theorem exists_piece_of_goesOn (hcs : cs ≠ []) (h : goesOn cs = true) :
    ∃ p rest, Piece.isDigit p = false ∧ cs = p.text ++ rest ∧
      goesOn (rest.dropWhile isWordChar) = true := by
  obtain ⟨c, rest, rfl⟩ := List.exists_cons_of_ne_nil hcs
  by_cases hdollar : c = '$'
  · subst hdollar
    by_cases hbrace : rest.head? = some '\x7b'
    · obtain ⟨rest, rfl⟩ := List.head?_eq_some_iff.mp hbrace
      by_cases hopen : rest.takeWhile isWordChar = [] ∨
          (rest.dropWhile isWordChar).head? ≠ some '\x7d'
      · rw [goesOn_unclosed hopen] at h
        cases h
      · obtain ⟨hname, hclose⟩ := not_or.mp hopen
        obtain ⟨after, hafter⟩ := List.head?_eq_some_iff.mp (not_not.mp hclose)
        rw [goesOn_closed hname hafter] at h
        refine ⟨.braced (.leading rest hname), after, rfl, ?_, h⟩
        have hrest := List.takeWhile_append_dropWhile (p := isWordChar) (l := rest)
        rw [hafter] at hrest
        simp [Piece.text, Word.leading, hrest]
    · rw [goesOn_reference hbrace] at h
      split at h
      · cases h
      · rename_i hname
        refine ⟨.reference (.leading rest hname), rest.dropWhile isWordChar, rfl, ?_, ?_⟩
        · rw [Piece.text, Word.leading, List.cons_append, List.takeWhile_append_dropWhile]
        · rwa [List.dropWhile_idempotent isWordChar rest]
  · rw [goesOn_char hdollar] at h
    split at h
    · rename_i hletter
      rw [Bool.or_eq_true, decide_eq_true_eq] at hletter
      exact ⟨.char c (isWordChar_iff.mpr (.inl hletter)), rest, isDigit_of_letter hletter, rfl, h⟩
    · cases h

/-- Behind any pieces a text goes on, once the word characters are left out that it begins with. -/
theorem goesOn_dropWhile_pieces (ps : List Piece) :
    goesOn ((ps.flatMap Piece.text).dropWhile isWordChar) = true := by
  induction ps with
  | nil => exact goesOn_nil
  | cons p ps ih =>
    rw [List.flatMap_cons]
    cases p with
    | char c h =>
      rw [Piece.text, List.singleton_append, List.dropWhile_cons_of_pos h]
      exact ih
    | reference name => exact (goesOn_text (p := .reference name) rfl _).trans ih
    | braced name => exact (goesOn_text (p := .braced name) rfl _).trans ih

/-- Word characters are pieces. -/
theorem exists_pieces (cs : List Char) (h : ∀ c ∈ cs, isWordChar c = true) :
    ∃ ps : List Piece, ps.flatMap Piece.text = cs := by
  induction cs with
  | nil => exact ⟨[], rfl⟩
  | cons c cs ih =>
    obtain ⟨hc, hcs⟩ := List.forall_mem_cons.mp h
    obtain ⟨ps, rfl⟩ := ih hcs
    exact ⟨.char c hc :: ps, rfl⟩

/-- Before a label template, or nothing, there may be word characters and before them a piece that is
no digit. -/
theorem IsLabelTemplate.of_dropWhile {p : Piece} (hp : p.isDigit = false)
    (h : rest.dropWhile isWordChar = [] ∨ IsLabelTemplate (rest.dropWhile isWordChar)) :
    IsLabelTemplate (p.text ++ rest) := by
  obtain ⟨words, hwords⟩ := exists_pieces (rest.takeWhile isWordChar)
    fun c hc => List.mem_takeWhile_imp hc
  have hrest : words.flatMap Piece.text ++ rest.dropWhile isWordChar = rest := by
    rw [hwords, List.takeWhile_append_dropWhile]
  obtain hnil | ⟨q, qs, -, hqs⟩ := h
  · refine ⟨p, words, hp, ?_⟩
    rw [hnil, List.append_nil] at hrest
    rw [List.flatMap_cons, hrest]
  · refine ⟨p, words ++ q :: qs, hp, ?_⟩
    rw [List.flatMap_cons, List.flatMap_append, ← hqs, hrest]

/-- A text goes on exactly if it is empty or a label template. From left to right the induction is
on the length: a piece and the word characters behind it are taken off. -/
theorem goesOn_iff : goesOn cs = true ↔ cs = [] ∨ IsLabelTemplate cs := by
  constructor
  · intro h
    induction hn : cs.length using Nat.strongRecOn generalizing cs with
    | _ n ih =>
      by_cases hcs : cs = []
      · exact .inl hcs
      obtain ⟨p, rest, hp, rfl, hrest⟩ := exists_piece_of_goesOn hcs h
      have hlt : (rest.dropWhile isWordChar).length < n := by
        have hle := Regex.length_dropWhile_le isWordChar rest
        have hpos := List.length_pos_of_ne_nil p.text_ne_nil
        rw [List.length_append] at hn
        omega
      exact .inr (.of_dropWhile hp (ih _ hlt hrest rfl))
  · rintro (rfl | ⟨p, ps, hp, rfl⟩)
    · exact goesOn_nil
    · rw [List.flatMap_cons, goesOn_text hp]
      exact goesOn_dropWhile_pieces ps

theorem isLabelTemplate_iff (s : String) :
    isLabelTemplate s = true ↔ IsLabelTemplate s.toList := by
  rw [isLabelTemplate, Bool.and_eq_true, decide_eq_true_eq, goesOn_iff]
  constructor
  · rintro ⟨hne, hnil | h⟩
    · exact (hne (String.toList_eq_nil_iff.mp hnil)).elim
    · exact h
  · intro h
    refine ⟨?_, .inr h⟩
    rintro rfl
    obtain ⟨p, ps, -, hnil⟩ := h
    exact p.text_ne_nil (List.append_eq_nil_iff.mp hnil.symm).1

/-- Without references the word characters at the start of a text have to be all of it. -/
theorem goesOn_dropWhile (h : '$' ∉ cs) : goesOn (cs.dropWhile isWordChar) = cs.all isWordChar := by
  induction cs with
  | nil => exact goesOn_nil
  | cons c cs ih =>
    obtain ⟨hc, hcs⟩ := not_or.mp (mt List.mem_cons.mpr h)
    cases hword : isWordChar c with
    | true => rw [List.dropWhile_cons_of_pos hword, List.all_cons, hword, Bool.true_and, ih hcs]
    | false =>
      have hletter : ¬ (c.isAlpha || c = '_') = true := by
        rw [Bool.or_eq_true, decide_eq_true_eq]
        intro hletter
        rw [isWordChar_iff.mpr (.inl hletter)] at hword
        cases hword
      rw [List.dropWhile_cons_of_neg (Bool.eq_false_iff.mp hword), List.all_cons, hword,
        goesOn_char (Ne.symm hc), if_neg hletter, Bool.false_and]

/-- Label names are the templates without references. -/
theorem isLabelTemplate_eq_isName {s : String} (h : '$' ∉ s.toList) :
    isLabelTemplate s = isName s := by
  unfold isLabelTemplate isName
  split
  · rename_i hnil
    rw [String.toList_eq_nil_iff.mp hnil]
    rfl
  · rename_i c rest hcs
    rw [hcs] at h
    obtain ⟨hc, hrest⟩ := not_or.mp (mt List.mem_cons.mpr h)
    have hne : s ≠ "" := by
      rintro rfl
      cases hcs
    rw [hcs, decide_eq_true hne, Bool.true_and, goesOn_char (Ne.symm hc), goesOn_dropWhile hrest]
    cases (c.isAlpha || c = '_') <;> rfl

/-! ## As a regular expression -/

open Computability

namespace Pattern

/-- One of some characters. -/
def oneOf (cs : List Char) : RegularExpression Char := (cs.map .char).sum

def oneOrMore (e : RegularExpression Char) : RegularExpression Char := e * e.star

def letters : List Char := "ABCDEFGHIJKLMNOPQRSTUVWXYZabcdefghijklmnopqrstuvwxyz_".toList

def digits : List Char := "0123456789".toList

/-- What a label name may begin with. -/
def letter : RegularExpression Char := oneOf letters

def wordChar : RegularExpression Char := oneOf (letters ++ digits)

def reference : RegularExpression Char :=
  .char '$' * (.char '\x7b' * oneOrMore wordChar * .char '\x7d' + oneOrMore wordChar)

/-- `(?:(?:[a-zA-Z_]|\$(?:\{\w+\}|\w+))+\w*)+` over ASCII. -/
def labelTemplate : RegularExpression Char :=
  oneOrMore (oneOrMore (letter + reference) * wordChar.star)

/-- Groups of some `a` and then any `b` are an `a` followed by any of both. -/
theorem kstar_groups {α : Type*} (a b : Language α) :
    a * a∗ * b∗ * (a * a∗ * b∗)∗ = a * (a + b)∗ := by
  have ha : a ≤ (a + b)∗ := le_self_add.trans le_kstar
  have hastar : a∗ ≤ (a + b)∗ := kstar_mono le_self_add
  have hbstar : b∗ ≤ (a + b)∗ := kstar_mono le_add_self
  have hgroup : a * a∗ * b∗ ≤ a * (a + b)∗ := by
    calc a * a∗ * b∗
      _ ≤ a * (a + b)∗ * (a + b)∗ := mul_le_mul' (mul_le_mul' le_rfl hastar) hbstar
      _ = a * (a + b)∗ := by rw [mul_assoc, kstar_mul_kstar]
  apply le_antisymm
  · refine mul_kstar_le hgroup ?_
    calc a * (a + b)∗ * (a * a∗ * b∗)
      _ ≤ a * (a + b)∗ * ((a + b)∗ * (a + b)∗) :=
        mul_le_mul' le_rfl (hgroup.trans (mul_le_mul' ha le_rfl))
      _ = a * (a + b)∗ := by rw [mul_assoc, kstar_mul_kstar, kstar_mul_kstar]
  · have hone : a ≤ a * a∗ * b∗ := by
      calc a
        _ = a * 1 * 1 := by rw [mul_one, mul_one]
        _ ≤ a * a∗ * b∗ := mul_le_mul' (mul_le_mul' le_rfl one_le_kstar) one_le_kstar
    refine mul_kstar_le (hone.trans (le_mul_of_one_le_right' one_le_kstar)) ?_
    rw [mul_add]
    refine add_le ?_ ?_
    · -- an `a` begins another group
      calc a * a∗ * b∗ * (a * a∗ * b∗)∗ * a
        _ ≤ a * a∗ * b∗ * (a * a∗ * b∗)∗ * (a * a∗ * b∗) := mul_le_mul' le_rfl hone
        _ ≤ a * a∗ * b∗ * (a * a∗ * b∗)∗ := by
          rw [mul_assoc]
          exact mul_le_mul' le_rfl kstar_mul_le_kstar
    · -- a `b` goes on with the last group
      calc a * a∗ * b∗ * (a * a∗ * b∗)∗ * b
        _ = (a * a∗ * b∗)∗ * (a * a∗ * (b∗ * b)) := by
          rw [← Language.mul_self_kstar_comm]
          simp only [mul_assoc]
        _ ≤ (a * a∗ * b∗)∗ * (a * a∗ * b∗) :=
          mul_le_mul' le_rfl (mul_le_mul' le_rfl kstar_mul_le_kstar)
        _ = a * a∗ * b∗ * (a * a∗ * b∗)∗ := Language.mul_self_kstar_comm _

variable {c : Char} {cs x : List Char}

theorem mem_char : x ∈ (RegularExpression.char c).matches' ↔ x = [c] := Iff.rfl

theorem mem_oneOf : x ∈ (oneOf cs).matches' ↔ ∃ c ∈ cs, x = [c] := by
  induction cs with
  | nil => simp [oneOf]
  | cons c cs ih =>
    have hcons : oneOf (c :: cs) = .char c + oneOf cs := rfl
    rw [hcons, RegularExpression.matches'_add, Language.mem_add, mem_char, ih]
    simp

theorem mem_of_lt {p : Char → Bool} {l : List Char} (hc : c.toNat < 128) (h : p c = true)
    (hall : ∀ n < 128, p (Char.ofNat n) = true → Char.ofNat n ∈ l) : c ∈ l := by
  have hmem := hall c.toNat hc
  rw [Char.ofNat_toNat] at hmem
  exact hmem h

theorem mem_letters : c ∈ letters ↔ c.isAlpha = true ∨ c = '_' := by
  constructor
  · intro hmem
    have hall : letters.all (fun d => d.isAlpha || d = '_') = true := by decide
    simpa using List.all_eq_true.mp hall c hmem
  · rintro (h | rfl)
    · have hc := Duration.lt_of_isLetterCode ((Duration.isLetterCode_eq c).trans h)
      exact mem_of_lt hc h (by decide)
    · decide

theorem mem_digits : c ∈ digits ↔ c.isDigit = true := by
  constructor
  · have hall : digits.all Char.isDigit = true := by decide
    exact List.all_eq_true.mp hall c
  · intro h
    have hc := Duration.lt_of_isDigitCode ((Duration.isDigitCode_eq c).trans h)
    exact mem_of_lt hc h (by decide)

theorem mem_wordChars : c ∈ letters ++ digits ↔ isWordChar c = true := by
  rw [List.mem_append, mem_letters, mem_digits, isWordChar_iff]

theorem mem_wordChar : x ∈ wordChar.matches' ↔ ∃ c, isWordChar c = true ∧ x = [c] := by
  simp only [wordChar, mem_oneOf, mem_wordChars]

theorem mem_wordChar_kstar :
    x ∈ wordChar.matches'∗ ↔ ∀ c ∈ x, isWordChar c = true := by
  rw [Language.mem_kstar]
  constructor
  · rintro ⟨ys, rfl, hys⟩ c hc
    obtain ⟨y, hy, hc⟩ := List.mem_flatten.mp hc
    obtain ⟨d, hd, rfl⟩ := mem_wordChar.mp (hys y hy)
    rwa [List.mem_singleton.mp hc]
  · intro h
    refine ⟨x.map fun c => [c], ?_, fun y hy => ?_⟩
    · rw [← List.flatMap_def, List.flatMap_singleton']
    · obtain ⟨c, hc, rfl⟩ := List.mem_map.mp hy
      exact mem_wordChar.mpr ⟨c, h c hc, rfl⟩

/-- Some word characters are a name. -/
theorem mem_oneOrMore_wordChar :
    x ∈ (oneOrMore wordChar).matches' ↔ ∃ name : Word, x = name.chars := by
  rw [oneOrMore, RegularExpression.matches'_mul, RegularExpression.matches'_star, Language.mem_mul]
  simp only [mem_wordChar, mem_wordChar_kstar]
  constructor
  · rintro ⟨-, ⟨c, hc, rfl⟩, cs, hcs, rfl⟩
    exact ⟨⟨c :: cs, List.cons_ne_nil _ _, List.forall_mem_cons.mpr ⟨hc, hcs⟩⟩, rfl⟩
  · rintro ⟨name, rfl⟩
    obtain ⟨c, cs, hchars, hc⟩ := name.exists_cons
    have hcs := name.isWordChar_of_mem
    rw [hchars] at hcs ⊢
    exact ⟨[c], ⟨c, hc, rfl⟩, cs, (List.forall_mem_cons.mp hcs).2, rfl⟩

theorem mem_reference : x ∈ reference.matches' ↔
    ∃ name, x = (Piece.reference name).text ∨ x = (Piece.braced name).text := by
  simp only [reference, RegularExpression.matches'_mul, RegularExpression.matches'_add,
    Language.mem_mul, Language.mem_add, mem_char, mem_oneOrMore_wordChar]
  constructor
  · rintro ⟨-, rfl, -, ⟨-, ⟨-, rfl, -, ⟨name, rfl⟩, rfl⟩, -, rfl, rfl⟩ | ⟨name, rfl⟩, rfl⟩
    · exact ⟨name, .inr rfl⟩
    · exact ⟨name, .inl rfl⟩
  · rintro ⟨name, rfl | rfl⟩
    · exact ⟨_, rfl, _, .inr ⟨name, rfl⟩, rfl⟩
    · exact ⟨_, rfl, _, .inl ⟨_, ⟨_, rfl, _, ⟨name, rfl⟩, rfl⟩, _, rfl, rfl⟩, rfl⟩

/-- What may stand first is a piece that is no digit. -/
theorem mem_first : x ∈ (letter + reference).matches' ↔
    ∃ p, Piece.isDigit p = false ∧ x = p.text := by
  rw [RegularExpression.matches'_add, Language.mem_add, letter, mem_oneOf, mem_reference]
  simp only [mem_letters]
  constructor
  · rintro (⟨c, hc, rfl⟩ | ⟨name, rfl | rfl⟩)
    · refine ⟨.char c (isWordChar_iff.mpr (.inl hc)), ?_, rfl⟩
      exact isDigit_of_letter hc
    · exact ⟨.reference name, rfl, rfl⟩
    · exact ⟨.braced name, rfl, rfl⟩
  · rintro ⟨p, hp, rfl⟩
    cases p with
    | char c h => exact .inl ⟨c, (isWordChar_iff.mp h).resolve_right (Bool.eq_false_iff.mp hp), rfl⟩
    | reference name => exact .inr ⟨name, .inl rfl⟩
    | braced name => exact .inr ⟨name, .inr rfl⟩

theorem mem_piece :
    x ∈ (letter + reference).matches' + wordChar.matches' ↔
      ∃ p : Piece, p.text = x := by
  rw [Language.mem_add, mem_first, mem_wordChar]
  constructor
  · rintro (⟨p, -, rfl⟩ | ⟨c, hc, rfl⟩)
    · exact ⟨p, rfl⟩
    · exact ⟨.char c hc, rfl⟩
  · rintro ⟨p, rfl⟩
    cases hp : p.isDigit with
    | false => exact .inl ⟨p, hp, rfl⟩
    | true =>
      cases p with
      | char c h => exact .inr ⟨c, h, rfl⟩
      | reference | braced => cases hp

theorem mem_pieces : x ∈ ((letter + reference).matches' + wordChar.matches')∗ ↔
    ∃ ps : List Piece, x = ps.flatMap Piece.text := by
  rw [Language.mem_kstar]
  constructor
  · rintro ⟨ys, rfl, hys⟩
    have hrange : ys ∈ Set.range (List.map Piece.text) := by
      rw [Set.range_list_map]
      exact fun y hy => mem_piece.mp (hys y hy)
    obtain ⟨ps, rfl⟩ := hrange
    exact ⟨ps, (List.flatMap_def).symm⟩
  · rintro ⟨ps, rfl⟩
    refine ⟨ps.map Piece.text, List.flatMap_def, fun y hy => ?_⟩
    obtain ⟨p, -, rfl⟩ := List.mem_map.mp hy
    exact mem_piece.mpr ⟨p, rfl⟩

/-- The expression matches exactly the label templates. -/
theorem mem_labelTemplate_iff : x ∈ labelTemplate.matches' ↔ IsLabelTemplate x := by
  have hgroups : labelTemplate.matches' = (letter + reference).matches' *
      ((letter + reference).matches' + wordChar.matches')∗ :=
    kstar_groups _ _
  rw [hgroups, Language.mem_mul]
  simp only [mem_first, mem_pieces]
  constructor
  · rintro ⟨-, ⟨p, hp, rfl⟩, -, ⟨ps, rfl⟩, rfl⟩
    exact ⟨p, ps, hp, rfl⟩
  · rintro ⟨p, ps, hp, rfl⟩
    exact ⟨_, ⟨p, hp, rfl⟩, _, ⟨ps, rfl⟩, rfl⟩

end Pattern

end ScrapeJobs.Relabel.LabelTemplate
