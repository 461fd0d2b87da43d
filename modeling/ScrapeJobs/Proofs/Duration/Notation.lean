import Mathlib.Data.List.Sort
import Mathlib.Data.List.TakeWhile
import ScrapeJobs.Duration
import ScrapeJobs.Proofs.Outcome

/-!
# How durations are written

A duration is written as amounts, numbers with units, of which longer units come first
(`Denotes`). `Duration.parse` reads this notation, whatever digits the numbers are written with,
and gives the exact sum of the amounts, as long as it is below 2^64 (`parse_eq_ok_iff`). The units
get fewer as the text does: what stands behind an amount is made of later units
(`sum_eq_ok_iff`).
-/

namespace ScrapeJobs

namespace TimeUnit

/-- Units with names that are words, each unlike those after it, of which the last one is a
single millisecond. -/
def isScale : List TimeUnit → Bool
  | [] => true
  | u :: units =>
    0 < u.millis && u.name ≠ "" && u.name.toList.all Char.isAlpha &&
      units.all (·.name ≠ u.name) && (!units.isEmpty || u.millis = 1) && isScale units

theorem isScale_all : isScale all = true := by decide

/-- What `isScale` says of the first unit and those after it. -/
structure Scale (u : TimeUnit) (units : List TimeUnit) : Prop where
  pos : 0 < u.millis
  name : u.name.toList ≠ []
  isAlpha : ∀ c ∈ u.name.toList, c.isAlpha = true
  distinct : ∀ v ∈ units, v.name ≠ u.name
  last : units = [] → u.millis = 1
  rest : isScale units = true

theorem scale_of_isScale {u : TimeUnit} {units : List TimeUnit}
    (h : isScale (u :: units) = true) : Scale u units := by
  simp only [isScale, Bool.and_eq_true, Bool.or_eq_true, decide_eq_true_eq, List.all_eq_true,
    ne_eq, Bool.not_eq_true', List.isEmpty_eq_false_iff] at h
  obtain ⟨⟨⟨⟨⟨hpos, hname⟩, halpha⟩, hdistinct⟩, hlast⟩, hrest⟩ := h
  exact ⟨hpos, fun hnil => hname (String.toList_eq_nil_iff.mp hnil), halpha, hdistinct,
    fun hnil => hlast.resolve_left fun hne => hne hnil, hrest⟩

theorem names_of_isScale {units : List TimeUnit} (h : isScale units = true) :
    ∀ v ∈ units, v.name.toList ≠ [] ∧ ∀ c ∈ v.name.toList, c.isAlpha = true := by
  induction units with
  | nil => exact fun v hv => absurd hv List.not_mem_nil
  | cons u units ih =>
    have hscale := scale_of_isScale h
    intro v hv
    rcases List.mem_cons.mp hv with rfl | hv
    · exact ⟨hscale.name, hscale.isAlpha⟩
    · exact ih hscale.rest v hv

theorem decreasing_all : all.Pairwise fun u v => v.millis < u.millis := by decide

/-- Units in strictly decreasing order are some of all units, in the order of these. -/
theorem sublist_all_iff {units : List TimeUnit} :
    units.Sublist all ↔
      (∀ u ∈ units, u ∈ all) ∧ units.Pairwise fun u v => v.millis < u.millis := by
  constructor
  · intro h
    exact ⟨fun u hu => h.subset hu, decreasing_all.sublist h⟩
  · rintro ⟨hmem, hsorted⟩
    have hanti : Std.Antisymm fun u v : TimeUnit => v.millis < u.millis :=
      ⟨fun u v huv hvu => (Nat.lt_asymm huv hvu).elim⟩
    have hnodup : units.Nodup := hsorted.imp fun hlt heq => by
      rw [heq] at hlt
      exact Nat.lt_irrefl _ hlt
    exact List.sublist_of_subperm_of_pairwise (List.subperm_of_subset hnodup hmem) hsorted
      decreasing_all

end TimeUnit

namespace Duration

open TimeUnit

variable {u : TimeUnit} {units : List TimeUnit} {n total : Nat} {cs ds rest : List Char}

/-! ## Numbers -/

theorem natOfDigits_eq_ofDigitChars (cs : List Char) :
    natOfDigits cs = Nat.ofDigitChars 10 cs 0 := by
  simp only [natOfDigits, Nat.ofDigitChars, Nat.mul_comm]

/-- Letters stand behind the digits. -/
theorem not_isDigit_of_isAlpha {c : Char} (h : c.isAlpha = true) : c.isDigit = false := by
  refine Bool.eq_false_iff.mpr fun hdigit => ?_
  have hhigh : c.val ≤ 57 := of_decide_eq_true (Bool.and_eq_true_iff.mp hdigit).2
  rcases Bool.or_eq_true_iff.mp h with hupper | hlower
  · have hlow : 65 ≤ c.val := (of_decide_eq_true hupper).1
    exact absurd (UInt32.le_trans hlow hhigh) (by decide)
  · have hlow : 97 ≤ c.val := of_decide_eq_true (Bool.and_eq_true_iff.mp hlower).1
    exact absurd (UInt32.le_trans hlow hhigh) (by decide)

theorem not_isAlpha_of_isDigit {c : Char} (h : c.isDigit = true) : c.isAlpha = false := by
  refine Bool.eq_false_iff.mpr fun halpha => ?_
  rw [not_isDigit_of_isAlpha halpha] at h
  cases h

/-! ## Amounts -/

/-- A number with its unit, as it stands in a text. -/
structure Amount where
  digits : List Char
  unit : TimeUnit

namespace Amount

def text (a : Amount) : List Char := a.digits ++ a.unit.name.toList

/-- The number that the digits write. -/
def number (a : Amount) : Nat := Nat.ofDigitChars 10 a.digits 0

def millis (a : Amount) : Nat := a.number * a.unit.millis

/-- The number is written with digits, at least one, and is below 2^64. -/
structure IsProper (a : Amount) : Prop where
  ne_nil : a.digits ≠ []
  isDigit : ∀ c ∈ a.digits, c.isDigit = true
  fits : a.number < UInt64.size

end Amount

/-- The text of amounts, one after the other. -/
def textOf (amounts : List Amount) : List Char := amounts.flatMap Amount.text

/-- The exact sum of amounts. -/
def millisOf : List Amount → Nat
  | [] => 0
  | a :: rest => a.millis + millisOf rest

/-- The text stands for a number of milliseconds, which may be too large for a duration: it is a
lone zero, or it is made of amounts in strictly decreasing order of their units. -/
def Denotes (s : String) (n : Nat) : Prop :=
  (s = "0" ∧ n = 0) ∨
    ∃ amounts : List Amount, amounts ≠ [] ∧ (∀ a ∈ amounts, a.IsProper ∧ a.unit ∈ all) ∧
      (amounts.Pairwise fun a b => b.unit.millis < a.unit.millis) ∧
      s.toList = textOf amounts ∧ n = millisOf amounts

/-- Amounts in some of the given units, in the order of these. -/
structure AreIn (units : List TimeUnit) (amounts : List Amount) : Prop where
  isProper : ∀ a ∈ amounts, a.IsProper
  sublist : (amounts.map (·.unit)).Sublist units

namespace AreIn

variable {a : Amount} {amounts : List Amount}

theorem nil (units : List TimeUnit) : AreIn units [] :=
  ⟨fun _ h => absurd h List.not_mem_nil, List.nil_sublist units⟩

theorem cons (ha : a.IsProper) (h : AreIn units amounts) : AreIn (a.unit :: units) (a :: amounts) :=
  ⟨List.forall_mem_cons.mpr ⟨ha, h.isProper⟩, h.sublist.cons_cons a.unit⟩

/-- More units may be there. -/
theorem mono (h : AreIn units amounts) : AreIn (u :: units) amounts :=
  ⟨h.isProper, h.sublist.cons u⟩

/-- The first amount has the first unit, or all have later ones. -/
theorem cons_cases (h : AreIn (u :: units) (a :: amounts)) :
    (a.unit = u ∧ AreIn units amounts) ∨ AreIn units (a :: amounts) := by
  rcases List.cons_sublist_cons'.mp h.sublist with hlater | ⟨hunit, hrest⟩
  · exact .inr ⟨h.isProper, hlater⟩
  · exact .inl ⟨hunit, fun b hb => h.isProper b (List.mem_cons_of_mem _ hb), hrest⟩

theorem tail (h : AreIn units (a :: amounts)) : AreIn units amounts :=
  ⟨fun b hb => h.isProper b (List.mem_cons_of_mem _ hb),
    (List.sublist_cons_self a.unit _).trans h.sublist⟩

theorem unit_mem (h : AreIn units (a :: amounts)) : a.unit ∈ units :=
  h.sublist.subset List.mem_cons_self

theorem eq_nil (h : AreIn [] amounts) : amounts = [] :=
  List.map_eq_nil_iff.mp (List.sublist_nil.mp h.sublist)

/-- Behind a unit there is nothing, or a number. -/
theorem isDigit_of_mem_head? (h : AreIn units amounts) {c : Char}
    (hc : c ∈ (textOf amounts).head?) : c.isDigit = true := by
  cases amounts with
  | nil => cases hc
  | cons a amounts =>
    have ha := h.isProper a List.mem_cons_self
    obtain ⟨d, ds, hds⟩ := List.exists_cons_of_ne_nil ha.ne_nil
    rw [textOf, List.flatMap_cons, Amount.text, hds] at hc
    cases hc
    exact ha.isDigit c (hds ▸ List.mem_cons_self)

end AreIn

theorem textOf_cons (a : Amount) (amounts : List Amount) :
    textOf (a :: amounts) = a.digits ++ (a.unit.name.toList ++ textOf amounts) := by
  rw [textOf, List.flatMap_cons, Amount.text, List.append_assoc]
  rfl

/-! ## What stands first in a text -/

/-- The characters with a property at the start of a text, and what follows them. -/
theorem span_append {p : Char → Bool} (hds : ∀ c ∈ ds, p c = true)
    (hrest : ∀ c ∈ rest.head?, p c = false) :
    (ds ++ rest).takeWhile p = ds ∧ (ds ++ rest).dropWhile p = rest := by
  rw [List.takeWhile_append_of_pos hds, List.dropWhile_append_of_pos hds]
  cases rest with
  | nil => simp
  | cons c rest => simp [hrest c rfl]

/-- A text of amounts begins with the digits and the name of the unit of the first one. -/
theorem span_textOf_cons {a : Amount} {amounts : List Amount} (h : isScale units = true)
    (ha : AreIn units (a :: amounts)) :
    (textOf (a :: amounts)).takeWhile Char.isDigit = a.digits ∧
      ((textOf (a :: amounts)).dropWhile Char.isDigit).takeWhile Char.isAlpha =
        a.unit.name.toList ∧
      ((textOf (a :: amounts)).dropWhile Char.isDigit).dropWhile Char.isAlpha =
        textOf amounts := by
  obtain ⟨hname, halpha⟩ := names_of_isScale h _ ha.unit_mem
  have hletter : ∀ c ∈ (a.unit.name.toList ++ textOf amounts).head?, c.isDigit = false := by
    obtain ⟨c, cs, hcs⟩ := List.exists_cons_of_ne_nil hname
    intro d hd
    rw [hcs] at hd halpha
    cases hd
    exact not_isDigit_of_isAlpha (halpha c List.mem_cons_self)
  have hdigit : ∀ c ∈ (textOf amounts).head?, c.isAlpha = false :=
    fun c hc => not_isAlpha_of_isDigit (ha.tail.isDigit_of_mem_head? hc)
  obtain ⟨hdigits, hbehind⟩ := span_append (ha.isProper a List.mem_cons_self).isDigit hletter
  rw [textOf_cons, hbehind]
  exact ⟨hdigits, span_append halpha hdigit⟩

/-! ## Reading -/

theorem sum_nil (units : List TimeUnit) (total : Nat) : sum units total [] = .ok total := by
  cases units <;> rfl

theorem sum_cons (u : TimeUnit) (units : List TimeUnit) (total : Nat) (hcs : cs ≠ []) :
    sum (u :: units) total cs =
      if cs.takeWhile Char.isDigit = [] ∨
          UInt64.size ≤ natOfDigits (cs.takeWhile Char.isDigit) then .error .malformed
      else if (cs.dropWhile Char.isDigit).takeWhile Char.isAlpha = u.name.toList then
        if total + natOfDigits (cs.takeWhile Char.isDigit) * u.millis < UInt64.size then
          sum units (total + natOfDigits (cs.takeWhile Char.isDigit) * u.millis)
            ((cs.dropWhile Char.isDigit).dropWhile Char.isAlpha)
        else .error .outOfRange
      else sum units total cs := by
  cases cs with
  | nil => exact (hcs rfl).elim
  | cons c rest => rfl

theorem textOf_ne_nil {a : Amount} {amounts : List Amount} (ha : a.IsProper) :
    textOf (a :: amounts) ≠ [] := by
  rw [textOf_cons]
  exact List.append_ne_nil_of_left_ne_nil ha.ne_nil _

/-- What reading does where a text begins with an amount. -/
theorem sum_textOf_cons {a : Amount} {amounts : List Amount} {vs : List TimeUnit}
    (h : isScale vs = true) (ha : AreIn vs (a :: amounts)) (u : TimeUnit)
    (units : List TimeUnit) (total : Nat) :
    sum (u :: units) total (textOf (a :: amounts)) =
      if a.unit.name = u.name then
        if total + a.number * u.millis < UInt64.size then
          sum units (total + a.number * u.millis) (textOf amounts)
        else .error .outOfRange
      else sum units total (textOf (a :: amounts)) := by
  have hproper := ha.isProper a List.mem_cons_self
  obtain ⟨hdigits, hword, hbehind⟩ := span_textOf_cons h ha
  have hnumber : ¬ (a.digits = [] ∨ UInt64.size ≤ a.number) :=
    not_or.mpr ⟨hproper.ne_nil, Nat.not_le.mpr hproper.fits⟩
  rw [sum_cons u units total (textOf_ne_nil hproper), hdigits, hword, hbehind,
    natOfDigits_eq_ofDigitChars, ← Amount.number, if_neg hnumber]
  simp only [String.toList_inj]

/-- Amounts in some of the units are read as their sum. -/
theorem sum_textOf {amounts : List Amount} (h : isScale units = true)
    (hin : AreIn units amounts) (hlt : total + millisOf amounts < UInt64.size) :
    sum units total (textOf amounts) = .ok (total + millisOf amounts) := by
  induction units generalizing total amounts with
  | nil =>
    rw [hin.eq_nil]
    rfl
  | cons u units ih =>
    have hscale := scale_of_isScale h
    cases amounts with
    | nil => exact sum_nil _ total
    | cons a amounts =>
      rw [sum_textOf_cons h hin]
      rcases hin.cons_cases with ⟨hunit, hrest⟩ | hlater
      · have hmillis : a.number * u.millis = a.millis := by rw [Amount.millis, hunit]
        rw [millisOf, ← Nat.add_assoc] at hlt
        rw [hunit, if_pos rfl, hmillis, if_pos (by omega), ih hscale.rest hrest hlt,
          millisOf, Nat.add_assoc]
      · rw [if_neg (hscale.distinct a.unit hlater.unit_mem), ih hscale.rest hlater hlt]

/-- What is read is made of amounts in some of the units, and a total below 2^64 stays below it.
The induction is on the units. -/
theorem exists_of_sum (h : isScale units = true) (htotal : total < UInt64.size)
    (hsum : sum units total cs = .ok n) :
    ∃ amounts, AreIn units amounts ∧ cs = textOf amounts ∧ n = total + millisOf amounts ∧
      n < UInt64.size := by
  induction units generalizing total cs with
  | nil =>
    cases cs with
    | nil =>
      cases hsum
      exact ⟨[], .nil [], rfl, rfl, htotal⟩
    | cons c cs => cases hsum
  | cons u units ih =>
    have hscale := scale_of_isScale h
    by_cases hcs : cs = []
    · rw [hcs, sum_nil] at hsum
      cases hsum
      exact ⟨[], .nil _, hcs, rfl, htotal⟩
    rw [sum_cons u units total hcs] at hsum
    split at hsum
    · cases hsum
    rename_i hnumber
    obtain ⟨hdigits, hfits⟩ := not_or.mp hnumber
    split at hsum
    · rename_i hword
      split at hsum
      · rename_i hlt
        obtain ⟨amounts, hin, hrest, hn, hsize⟩ := ih hscale.rest hlt hsum
        have ha : (⟨cs.takeWhile Char.isDigit, u⟩ : Amount).IsProper := by
          refine ⟨hdigits, fun c hc => ?_, ?_⟩
          · exact List.mem_takeWhile_imp hc
          · rw [Amount.number, ← natOfDigits_eq_ofDigitChars]
            exact Nat.not_le.mp hfits
        refine ⟨⟨cs.takeWhile Char.isDigit, u⟩ :: amounts, .cons ha hin, ?_, ?_, hsize⟩
        · rw [textOf_cons, ← hrest, ← hword, List.takeWhile_append_dropWhile,
            List.takeWhile_append_dropWhile]
        · rw [hn, millisOf, Amount.millis, Amount.number, ← natOfDigits_eq_ofDigitChars,
            Nat.add_assoc]
      · cases hsum
    · obtain ⟨amounts, hin, htext, hn⟩ := ih hscale.rest htotal hsum
      exact ⟨amounts, hin.mono, htext, hn⟩

/-- Amounts in decreasing order of their units are amounts in some of all units. -/
theorem areIn_all_iff {amounts : List Amount} :
    AreIn all amounts ↔ (∀ a ∈ amounts, a.IsProper ∧ a.unit ∈ all) ∧
      amounts.Pairwise fun a b => b.unit.millis < a.unit.millis := by
  have hunits : (∀ v ∈ amounts.map (·.unit), v ∈ all) ↔ ∀ a ∈ amounts, a.unit ∈ all :=
    List.forall_mem_map
  constructor
  · rintro ⟨hproper, hsublist⟩
    obtain ⟨hmem, hsorted⟩ := sublist_all_iff.mp hsublist
    exact ⟨fun a ha => ⟨hproper a ha, hunits.mp hmem a ha⟩, List.pairwise_map.mp hsorted⟩
  · rintro ⟨hproper, hsorted⟩
    refine ⟨fun a ha => (hproper a ha).1, sublist_all_iff.mpr ⟨?_, List.pairwise_map.mpr hsorted⟩⟩
    exact hunits.mpr fun a ha => (hproper a ha).2

theorem denotes_iff {s : String} :
    Denotes s n ↔ (s = "0" ∧ n = 0) ∨
      ∃ amounts, amounts ≠ [] ∧ AreIn all amounts ∧ s.toList = textOf amounts ∧
        n = millisOf amounts := by
  simp only [Denotes, areIn_all_iff, and_assoc]

/-- A lone zero has no unit. -/
theorem textOf_ne_zero {a : Amount} {amounts : List Amount} (ha : AreIn all (a :: amounts)) :
    textOf (a :: amounts) ≠ ['0'] := by
  intro hzero
  obtain ⟨-, hword, -⟩ := span_textOf_cons isScale_all ha
  rw [hzero] at hword
  exact (names_of_isScale isScale_all _ ha.unit_mem).1 hword.symm

/-- A text is read as a duration exactly if it stands for it. -/
theorem parse_eq_ok_iff {s : String} {d : Duration} :
    parse s = .ok d ↔ Denotes s d.millis.toNat := by
  rw [denotes_iff]
  by_cases hempty : s = ""
  · rw [hempty]
    constructor
    · intro h
      cases h
    · rintro (⟨h, -⟩ | ⟨amounts, hne, hin, htext, -⟩)
      · exact absurd h (by decide)
      · obtain ⟨a, amounts, rfl⟩ := List.exists_cons_of_ne_nil hne
        exact (textOf_ne_nil (hin.isProper a List.mem_cons_self) htext.symm).elim
  by_cases hzero : s = "0"
  · rw [hzero]
    constructor
    · intro h
      cases h
      exact .inl ⟨rfl, rfl⟩
    · rintro (⟨-, hd⟩ | ⟨amounts, hne, hin, htext, -⟩)
      · have hd' : d = ⟨0⟩ := by
          cases d
          exact congrArg _ (UInt64.toNat_inj.mp hd)
        rw [hd']
        rfl
      · obtain ⟨a, amounts, rfl⟩ := List.exists_cons_of_ne_nil hne
        exact (textOf_ne_zero hin htext.symm).elim
  have hparse : parse s = (sum all 0 s.toList).map fun n => ⟨UInt64.ofNat n⟩ := by
    rw [parse, if_neg hempty, if_neg hzero]
  rw [hparse]
  constructor
  · intro h
    obtain ⟨n, hsum, rfl⟩ := Outcome.map_eq_ok h
    obtain ⟨amounts, hin, htext, hn, hlt⟩ := exists_of_sum isScale_all (by decide) hsum
    rw [Nat.zero_add] at hn
    refine .inr ⟨amounts, ?_, hin, htext, ?_⟩
    · rintro rfl
      exact hempty (String.toList_eq_nil_iff.mp htext)
    · rw [UInt64.toNat_ofNat_of_lt' hlt, hn]
  · rintro (⟨h, -⟩ | ⟨amounts, hne, hin, htext, hn⟩)
    · exact (hzero h).elim
    · have hlt : 0 + millisOf amounts < UInt64.size := by
        rw [Nat.zero_add, ← hn]
        exact d.millis.toNat_lt_size
      rw [htext, sum_textOf isScale_all hin hlt, Nat.zero_add, ← hn, Except.map, UInt64.ofNat_toNat]

end Duration

end ScrapeJobs
