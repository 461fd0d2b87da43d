import ScrapeJobs.Proofs.Duration.Notation

/-!
# Reading durations by bytes

A duration can also be read from the bytes of its text, with a place that goes on and the number
of units that are used up (`scan`). Then a look behind the last byte, a cut inside of a character
or a step out of the table of units has to be ruled out. It never happens, whatever the text is,
and what is read is the same (`scan_eq_parse`): bytes below 128 are characters of their own, so
digits and letters are found alike (`skip_eq`), and places are only found behind them.
-/

namespace ScrapeJobs.Duration

open TimeUnit

/-! ## Places in a text -/

/-- The part of a text between two places, counted in bytes. There is none if the places are out
of order, outside of the text or inside of a character. -/
def slice? (s : String) (i j : Nat) : Option String :=
  if h : i ≤ j ∧ String.Pos.Raw.IsValid s ⟨i⟩ ∧ String.Pos.Raw.IsValid s ⟨j⟩ then
    some (String.extract ⟨⟨i⟩, h.2.1⟩ ⟨⟨j⟩, h.2.2⟩)
  else none

/-- The first place from `i` on at which no byte stands whose code has the property. -/
def skip (bytes : ByteArray) (p : Nat → Bool) (i : Nat) : Nat :=
  if h : i < bytes.size then
    if p bytes[i].toNat then skip bytes p (i + 1) else i
  else i
termination_by bytes.size - i

def isDigitCode (n : Nat) : Bool := 0x30 ≤ n && n ≤ 0x39

def isLetterCode (n : Nat) : Bool := (0x41 ≤ n && n ≤ 0x5A) || (0x61 ≤ n && n ≤ 0x7A)

theorem le_skip (bytes : ByteArray) (p : Nat → Bool) (i : Nat) : i ≤ skip bytes p i := by
  fun_induction skip bytes p i with
  | case1 i h hp ih => omega
  | case2 i h hp => exact Nat.le_refl i
  | case3 i h => exact Nat.le_refl i

/-- The units behind the first `n`. There are none if the table has fewer units. -/
def unitsFrom? (n : Nat) : Option (List TimeUnit) :=
  if n ≤ all.length then some (all.drop n) else none

/-- Adds the numbers of a text from a place on to a total, where the first `used` units do not
occur any more. Nothing comes out if something is reached for that is not there. -/
def scanFrom (s : String) (pos used total : Nat) : Option (Except Fault Nat) :=
  if _hpos : pos < s.utf8ByteSize then
    let mid := skip s.toByteArray isDigitCode pos
    let stop := skip s.toByteArray isLetterCode mid
    if _hmid : mid = pos then some (.error .malformed)
    else
      (slice? s pos mid).bind fun digits =>
        if UInt64.size ≤ natOfDigits digits.toList then some (.error .malformed)
        else
          (slice? s mid stop).bind fun name =>
            (unitsFrom? used).bind fun units =>
              match units.findIdx? (·.name = name) with
              | none => some (.error .malformed)
              | some k =>
                all[used + k]?.bind fun u =>
                  let total := total + natOfDigits digits.toList * u.millis
                  if total < UInt64.size then scanFrom s stop (used + k + 1) total
                  else some (.error .outOfRange)
  else some (.ok total)
termination_by s.utf8ByteSize - pos
decreasing_by
  have hdigits := le_skip s.toByteArray isDigitCode pos
  have hletters := le_skip s.toByteArray isLetterCode (skip s.toByteArray isDigitCode pos)
  omega

/-- Reads a duration from the bytes of a text. -/
def scan (s : String) : Option (Except Fault Duration) :=
  if s = "" then some (.error .empty)
  else if s = "0" then some (.ok ⟨0⟩)
  else (scanFrom s 0 0 0).map fun r => r.map fun n => ⟨UInt64.ofNat n⟩

/-! ## Bytes and characters -/

variable {s : String} {p : Nat → Bool} {cs rest : List Char} {pos used total : Nat}

/-- A property of codes below 128 is told from the first byte of a character, and a character
with the property has no other byte. -/
theorem test_utf8EncodeChar (hp : ∀ n, p n = true → n < 128) {c : Char} {b : UInt8}
    {bs : List UInt8} (h : String.utf8EncodeChar c = b :: bs) :
    p b.toNat = p c.toNat ∧ (p c.toNat = true → bs = []) := by
  have hhigh : ∀ n, 128 ≤ n → p n = false := fun n hn =>
    Bool.eq_false_iff.mpr fun hpn => Nat.not_lt.mpr hn (hp n hpn)
  have hvalid := c.valid
  by_cases hc : c.val.toNat ≤ 127
  · simp only [String.utf8EncodeChar, if_pos hc, List.cons.injEq] at h
    obtain ⟨rfl, rfl⟩ := h
    refine ⟨?_, fun _ => rfl⟩
    rw [UInt8.toNat_ofNat_of_lt' (Nat.lt_of_le_of_lt hc (by decide))]
    rfl
  · have hcode : p c.toNat = false := hhigh _ (Nat.not_le.mp hc)
    have hbyte : 128 ≤ b.toNat := by
      simp only [String.utf8EncodeChar, if_neg hc] at h
      split at h
      · rw [← (List.cons.inj h).1, UInt8.toNat_ofNat']
        omega
      · split at h
        all_goals
          rw [← (List.cons.inj h).1, UInt8.toNat_ofNat']
          omega
    rw [hcode, hhigh _ hbyte]
    exact ⟨rfl, fun h => by cases h⟩

/-- A character behind a text, and what follows it. -/
theorem append_ofList_cons (a : String) (c : Char) (cs : List Char) :
    a ++ String.ofList (c :: cs) = a ++ String.ofList [c] ++ String.ofList cs := by
  rw [String.append_assoc, ← String.ofList_append]
  rfl

/-- Behind a text stands the first byte of the next character. -/
theorem exists_byte (a : String) (c : Char) (cs : List Char) :
    ∃ b bs, String.utf8EncodeChar c = b :: bs ∧
      ∃ h : a.utf8ByteSize < (a ++ String.ofList (c :: cs)).toByteArray.size,
        (a ++ String.ofList (c :: cs)).toByteArray[a.utf8ByteSize] = b := by
  obtain ⟨b, bs, hbytes⟩ := List.exists_cons_of_ne_nil (String.utf8EncodeChar_ne_nil (c := c))
  have happend : (a ++ String.ofList (c :: cs)).toByteArray =
      a.toByteArray ++ (b :: (bs ++ cs.flatMap String.utf8EncodeChar)).toByteArray := by
    rw [String.toByteArray_append, String.toByteArray_ofList, List.utf8Encode, List.flatMap_cons,
      hbytes, List.cons_append]
  refine ⟨b, bs, hbytes, ?_, ?_⟩
  · rw [happend, ByteArray.size_append, List.size_toByteArray, List.length_cons,
      String.size_toByteArray]
    omega
  · simp only [happend]
    rw [ByteArray.getElem_append_right (Nat.le_of_eq String.size_toByteArray),
      List.getElem_toByteArray]
    simp

/-- What is skipped in the bytes is what is skipped in the characters. The induction is on the
characters ahead. -/
theorem skip_append (hp : ∀ n, p n = true → n < 128) (a : String) (cs : List Char) :
    skip (a ++ String.ofList cs).toByteArray p a.utf8ByteSize =
      (a ++ String.ofList (cs.takeWhile fun c => p c.toNat)).utf8ByteSize := by
  induction cs generalizing a with
  | nil => simp [skip]
  | cons c cs ih =>
    obtain ⟨b, bs, hbytes, hlt, hget⟩ := exists_byte a c cs
    obtain ⟨hb, hbs⟩ := test_utf8EncodeChar hp hbytes
    rw [skip, dif_pos hlt, hget, hb, List.takeWhile_cons]
    split
    · rename_i hc
      have hsize : (a ++ String.ofList [c]).utf8ByteSize = a.utf8ByteSize + 1 := by
        rw [String.utf8ByteSize_append, ← String.size_toByteArray (s := .ofList [c]),
          String.toByteArray_ofList, List.utf8Encode, List.size_toByteArray, List.flatMap_singleton,
          hbytes, hbs hc]
        rfl
      calc skip (a ++ String.ofList (c :: cs)).toByteArray p (a.utf8ByteSize + 1)
        _ = skip (a ++ String.ofList [c] ++ String.ofList cs).toByteArray p
            (a ++ String.ofList [c]).utf8ByteSize := by rw [append_ofList_cons a c cs, hsize]
        _ = (a ++ String.ofList [c] ++
            String.ofList (cs.takeWhile fun c => p c.toNat)).utf8ByteSize := ih _
        _ = (a ++ String.ofList (c :: cs.takeWhile fun c => p c.toNat)).utf8ByteSize := by
          rw [← append_ofList_cons]
    · rw [String.ofList_nil, String.append_empty]

/-! ## Cuts -/

theorem slice?_append (a b c : String) :
    slice? (a ++ b ++ c) a.utf8ByteSize (a ++ b).utf8ByteSize = some b := by
  have hstart : String.Pos.Raw.IsValid (a ++ b ++ c) ⟨a.utf8ByteSize⟩ :=
    String.Pos.Raw.isValid_iff_exists_append.mpr ⟨a, b ++ c, String.append_assoc, rfl⟩
  have hstop : String.Pos.Raw.IsValid (a ++ b ++ c) ⟨(a ++ b).utf8ByteSize⟩ :=
    String.Pos.Raw.isValid_iff_exists_append.mpr ⟨a ++ b, c, rfl, rfl⟩
  have hsize : (a ++ b).utf8ByteSize = a.toByteArray.size + b.toByteArray.size := by
    rw [String.utf8ByteSize_append, String.size_toByteArray, String.size_toByteArray]
  have hle : a.utf8ByteSize ≤ (a ++ b).utf8ByteSize := by
    rw [String.utf8ByteSize_append]
    omega
  rw [slice?, dif_pos ⟨hle, hstart, hstop⟩, Option.some_inj, ← String.toByteArray_inj,
    String.toByteArray_extract]
  calc (a ++ b ++ c).toByteArray.extract a.utf8ByteSize (a ++ b).utf8ByteSize
    _ = (a.toByteArray ++ (b.toByteArray ++ c.toByteArray)).extract (a.toByteArray.size + 0)
        (a.toByteArray.size + b.toByteArray.size) := by
      rw [hsize, String.append_assoc, String.toByteArray_append, String.toByteArray_append,
        Nat.add_zero, String.size_toByteArray]
    _ = (b.toByteArray ++ c.toByteArray).extract 0 b.toByteArray.size :=
      ByteArray.extract_append_size_add
    _ = b.toByteArray := ByteArray.extract_append_eq_left rfl

/-! ## The unit behind a number -/

section Table

variable {units : List TimeUnit} {name : String} {u : TimeUnit} {k : Nat}

/-- A text that does not begin with a number below 2^64 is not read, whatever units there are. -/
theorem sum_of_no_number (hcs : cs ≠ [])
    (h : cs.takeWhile Char.isDigit = [] ∨ UInt64.size ≤ natOfDigits (cs.takeWhile Char.isDigit))
    (units : List TimeUnit) (total : Nat) : sum units total cs = .error .malformed := by
  cases units with
  | nil =>
    cases cs with
    | nil => exact (hcs rfl).elim
    | cons c cs => rfl
  | cons u units => rw [sum_cons u units total hcs, if_pos h]

variable (hcs : cs ≠ [])
  (hnumber : ¬ (cs.takeWhile Char.isDigit = [] ∨
    UInt64.size ≤ natOfDigits (cs.takeWhile Char.isDigit)))
  (hname : (cs.dropWhile Char.isDigit).takeWhile Char.isAlpha = name.toList)

include hcs hnumber hname

/-- A unit that is not there is not read. -/
theorem sum_of_findIdx?_none (h : units.findIdx? (·.name = name) = none) (total : Nat) :
    sum units total cs = .error .malformed := by
  induction units with
  | nil =>
    cases cs with
    | nil => exact (hcs rfl).elim
    | cons c cs => rfl
  | cons v units ih =>
    rw [List.findIdx?_cons] at h
    split at h
    · cases h
    · rename_i hv
      have hne : name.toList ≠ v.name.toList :=
        fun heq => hv (decide_eq_true (String.toList_inj.mp heq).symm)
      rw [sum_cons v units total hcs, if_neg hnumber, hname, if_neg hne]
      exact ih (Option.map_eq_none_iff.mp h)

/-- A unit that is found is read, and what follows is made of the units behind it. -/
theorem sum_of_findIdx?_some (h : units.findIdx? (·.name = name) = some k)
    (hu : units[k]? = some u) (total : Nat) :
    sum units total cs =
      if total + natOfDigits (cs.takeWhile Char.isDigit) * u.millis < UInt64.size then
        sum (units.drop (k + 1)) (total + natOfDigits (cs.takeWhile Char.isDigit) * u.millis)
          ((cs.dropWhile Char.isDigit).dropWhile Char.isAlpha)
      else .error .outOfRange := by
  induction units generalizing k with
  | nil => cases h
  | cons v units ih =>
    rw [List.findIdx?_cons] at h
    split at h
    · rename_i hv
      cases h
      have hvu : v = u := Option.some.inj hu
      rw [sum_cons v units total hcs, if_neg hnumber, hname,
        if_pos (congrArg String.toList (of_decide_eq_true hv).symm), hvu]
      rfl
    · rename_i hv
      obtain ⟨k, hk, rfl⟩ := Option.map_eq_some_iff.mp h
      have hne : name.toList ≠ v.name.toList :=
        fun heq => hv (decide_eq_true (String.toList_inj.mp heq).symm)
      rw [sum_cons v units total hcs, if_neg hnumber, hname, if_neg hne]
      exact ih hk hu

end Table

/-! ## Reading -/

theorem isDigitCode_eq (c : Char) : isDigitCode c.toNat = c.isDigit := by
  rw [Bool.eq_iff_iff]
  simp [isDigitCode, Char.isDigit, UInt32.le_iff_toNat_le]

theorem isLetterCode_eq (c : Char) : isLetterCode c.toNat = c.isAlpha := by
  have halpha : c.isAlpha = (decide (0x41 ≤ c.val ∧ c.val ≤ 0x5A) ||
      (decide (0x61 ≤ c.val) && decide (c.val ≤ 0x7A))) := rfl
  rw [Bool.eq_iff_iff, halpha]
  simp [isLetterCode, UInt32.le_iff_toNat_le]

theorem lt_of_isDigitCode {n : Nat} (h : isDigitCode n = true) : n < 128 := by
  simp only [isDigitCode, Bool.and_eq_true, decide_eq_true_eq] at h
  omega

theorem lt_of_isLetterCode {n : Nat} (h : isLetterCode n = true) : n < 128 := by
  simp only [isLetterCode, Bool.or_eq_true, Bool.and_eq_true, decide_eq_true_eq] at h
  omega

theorem skip_digits (a : String) (cs : List Char) :
    skip (a ++ String.ofList cs).toByteArray isDigitCode a.utf8ByteSize =
      (a ++ String.ofList (cs.takeWhile Char.isDigit)).utf8ByteSize := by
  rw [skip_append (fun _ => lt_of_isDigitCode), funext isDigitCode_eq]

theorem skip_letters (a : String) (cs : List Char) :
    skip (a ++ String.ofList cs).toByteArray isLetterCode a.utf8ByteSize =
      (a ++ String.ofList (cs.takeWhile Char.isAlpha)).utf8ByteSize := by
  rw [skip_append (fun _ => lt_of_isLetterCode), funext isLetterCode_eq]

/-- A text is put together again from what is skipped and what follows. -/
theorem append_takeWhile_dropWhile (a : String) (q : Char → Bool) (cs : List Char) :
    a ++ String.ofList (cs.takeWhile q) ++ String.ofList (cs.dropWhile q) =
      a ++ String.ofList cs := by
  rw [String.append_assoc, ← String.ofList_append, List.takeWhile_append_dropWhile]

theorem utf8ByteSize_append_ofList_eq_iff (a : String) (cs : List Char) :
    (a ++ String.ofList cs).utf8ByteSize = a.utf8ByteSize ↔ cs = [] := by
  constructor
  · intro h
    cases cs with
    | nil => rfl
    | cons c cs =>
      obtain ⟨b, bs, -, hlt, -⟩ := exists_byte a c cs
      rw [String.size_toByteArray, h] at hlt
      exact (Nat.lt_irrefl _ hlt).elim
  · rintro rfl
    rw [String.ofList_nil, String.append_empty]

/-- One round: the digits behind a place, the letters behind these and their unit. -/
theorem scanFrom_eq (a : String) (hcs : cs ≠ []) (hused : used ≤ all.length) :
    scanFrom (a ++ String.ofList cs) a.utf8ByteSize used total =
      if cs.takeWhile Char.isDigit = [] ∨
          UInt64.size ≤ natOfDigits (cs.takeWhile Char.isDigit) then some (.error .malformed)
      else
        let rest := (cs.dropWhile Char.isDigit).dropWhile Char.isAlpha
        let name := String.ofList ((cs.dropWhile Char.isDigit).takeWhile Char.isAlpha)
        let done := a ++ String.ofList (cs.takeWhile Char.isDigit) ++ name
        match (all.drop used).findIdx? (·.name = name) with
        | none => some (.error .malformed)
        | some k =>
          all[used + k]?.bind fun u =>
            let total := total + natOfDigits (cs.takeWhile Char.isDigit) * u.millis
            if total < UInt64.size then
              scanFrom (done ++ String.ofList rest) done.utf8ByteSize (used + k + 1) total
            else some (.error .outOfRange) := by
  obtain ⟨digits, hdigits⟩ : ∃ digits, digits = cs.takeWhile Char.isDigit := ⟨_, rfl⟩
  obtain ⟨behind, hbehind⟩ : ∃ behind, behind = cs.dropWhile Char.isDigit := ⟨_, rfl⟩
  obtain ⟨word, hword⟩ : ∃ word, word = behind.takeWhile Char.isAlpha := ⟨_, rfl⟩
  obtain ⟨rest, hrest⟩ : ∃ rest, rest = behind.dropWhile Char.isAlpha := ⟨_, rfl⟩
  have htext : a ++ String.ofList digits ++ String.ofList behind = a ++ String.ofList cs := by
    rw [hdigits, hbehind, append_takeWhile_dropWhile]
  have htext' : a ++ String.ofList digits ++ String.ofList word ++ String.ofList rest =
      a ++ String.ofList cs := by
    rw [hword, hrest, append_takeWhile_dropWhile, htext]
  have hpos : a.utf8ByteSize < (a ++ String.ofList cs).utf8ByteSize := by
    obtain ⟨c, cs, rfl⟩ := List.exists_cons_of_ne_nil hcs
    obtain ⟨b, bs, -, hlt, -⟩ := exists_byte a c cs
    exact hlt
  have hmid := skip_digits a cs
  rw [← hdigits] at hmid
  have hstop := skip_letters (a ++ String.ofList digits) behind
  rw [htext, ← hword] at hstop
  have hnumber := slice?_append a (String.ofList digits) (String.ofList behind)
  rw [htext] at hnumber
  have hname := slice?_append (a ++ String.ofList digits) (String.ofList word) (String.ofList rest)
  rw [htext'] at hname
  rw [scanFrom, dif_pos hpos]
  simp only [hmid, hstop, hnumber, hname, Option.bind_some, unitsFrom?, if_pos hused,
    utf8ByteSize_append_ofList_eq_iff, String.toList_ofList, ← hdigits, ← hbehind, ← hword,
    ← hrest, htext']
  by_cases hdigit : digits = []
  · rw [dif_pos hdigit, if_pos (.inl hdigit)]
  · rw [dif_neg hdigit]
    simp only [hdigit, false_or]

/-- From a place behind a text with some units used up, the rest is read as characters are. The
induction is on how much of the text is left. -/
theorem scanFrom_append (a : String) (cs : List Char) (hused : used ≤ all.length) :
    scanFrom (a ++ String.ofList cs) a.utf8ByteSize used total =
      some (sum (all.drop used) total cs) := by
  induction hn : cs.length using Nat.strongRecOn generalizing a cs used total with
  | _ n ih =>
    by_cases hcs : cs = []
    · rw [hcs, String.ofList_nil, String.append_empty, scanFrom, dif_neg (Nat.lt_irrefl _), sum_nil]
    rw [scanFrom_eq a hcs hused]
    split
    · rename_i hnumber
      rw [sum_of_no_number hcs hnumber]
    · rename_i hnumber
      have hname : (cs.dropWhile Char.isDigit).takeWhile Char.isAlpha =
          (String.ofList ((cs.dropWhile Char.isDigit).takeWhile Char.isAlpha)).toList :=
        String.toList_ofList.symm
      simp only
      split
      · rename_i hnone
        rw [sum_of_findIdx?_none hcs hnumber hname hnone]
      · rename_i k hsome
        obtain ⟨hk, -⟩ := List.findIdx?_eq_some_iff_getElem.mp hsome
        rw [List.length_drop] at hk
        have hlt : used + k < all.length := by omega
        have hu : all[used + k]? = some all[used + k] := List.getElem?_eq_getElem hlt
        rw [sum_of_findIdx?_some hcs hnumber hname hsome (List.getElem?_drop.trans hu), hu,
          Option.bind_some, List.drop_drop]
        split
        · have hshorter : ((cs.dropWhile Char.isDigit).dropWhile Char.isAlpha).length < n := by
            have hdigits := congrArg List.length
              (List.takeWhile_append_dropWhile (p := Char.isDigit) (l := cs))
            have hletters := (List.dropWhile_suffix Char.isAlpha
              (l := cs.dropWhile Char.isDigit)).length_le
            have hpos := List.length_pos_of_ne_nil (not_or.mp hnumber).1
            rw [List.length_append, hn] at hdigits
            omega
          exact ih _ hshorter _ _ hlt rfl
        · rfl

/-- Every text is read within its bounds and those of the table of units, and as by characters. -/
theorem scan_eq_parse (s : String) : scan s = some (parse s) := by
  have hsum : scanFrom ("" ++ String.ofList s.toList) "".utf8ByteSize 0 0 =
      some (sum (all.drop 0) 0 s.toList) := scanFrom_append "" s.toList (Nat.zero_le _)
  rw [String.empty_append, String.ofList_toList, List.drop_zero] at hsum
  unfold scan parse
  split
  · rfl
  split
  · rfl
  · rw [show scanFrom s 0 0 0 = some (sum all 0 s.toList) from hsum]
    rfl

/-- Reading stays within bounds for every text, and what comes out is the exact sum of its amounts:
a text is read exactly if it stands for a number of milliseconds below 2^64. -/
theorem scan_eq_and_read_iff (s : String) :
    scan s = some (parse s) ∧
      ∀ n, (∃ d, parse s = .ok d ∧ d.millis.toNat = n) ↔ Denotes s n ∧ n < UInt64.size := by
  refine ⟨scan_eq_parse s, fun n => ⟨?_, ?_⟩⟩
  · rintro ⟨d, hread, rfl⟩
    exact ⟨parse_eq_ok_iff.mp hread, d.millis.toNat_lt_size⟩
  · rintro ⟨hdenotes, hlt⟩
    have hn : (UInt64.ofNat n).toNat = n := UInt64.toNat_ofNat_of_lt' hlt
    exact ⟨⟨UInt64.ofNat n⟩, parse_eq_ok_iff.mpr (hn.symm ▸ hdenotes), hn⟩

/-- Digits of other scripts are no digits, and a unit does not come twice. -/
example : (parse "1d07h", parse "1٣m", parse "1m1m") =
    (.ok ⟨111600000⟩, .error .malformed, .error .malformed) := by decide +kernel

end ScrapeJobs.Duration
