import ScrapeJobs.Proofs.Duration.Notation

/-!
# Durations read back

`Duration.render` writes amounts in decreasing order of their units whose sum is the duration
(`exists_amounts_renderIn`): a unit that does not fit is left out, and what is left behind the
last one is nothing. So `Duration.parse` reads what was written, for every duration, and two
durations are written alike only if they are the same (`parse_render_and_injective`).
-/

namespace ScrapeJobs

namespace Duration

open TimeUnit

variable {u : TimeUnit} {units : List TimeUnit} {n m : Nat} {cs : List Char}

/-! ## Numbers -/

theorem natOfDigits_toDigits (n : Nat) : natOfDigits (Nat.toDigits 10 n) = n := by
  rw [natOfDigits_eq_ofDigitChars, Nat.ofDigitChars_toDigits (by decide) (by decide)]

theorem isDigit_of_mem_toDigits {c : Char} (h : c ∈ Nat.toDigits 10 n) : c.isDigit = true :=
  Nat.isDigit_of_mem_toDigits (by decide) (by decide) h

theorem toDigits_ne_nil (n : Nat) : Nat.toDigits 10 n ≠ [] :=
  List.ne_nil_of_length_pos Nat.length_toDigits_pos

/-- The number at the start of a text, and what follows it. -/
theorem span_toDigits (m : Nat) {cs : List Char} (h : ∀ c ∈ cs.head?, c.isDigit = false) :
    (Nat.toDigits 10 m ++ cs).takeWhile Char.isDigit = Nat.toDigits 10 m ∧
      (Nat.toDigits 10 m ++ cs).dropWhile Char.isDigit = cs :=
  span_append (fun _ => isDigit_of_mem_toDigits) h

/-! ## What is written -/

/-- A number of some unit, as it is written. -/
def Amount.of (n : Nat) (u : TimeUnit) : Amount := ⟨Nat.toDigits 10 n, u⟩

theorem Amount.number_of (n : Nat) (u : TimeUnit) : (Amount.of n u).number = n := by
  rw [Amount.number, ← natOfDigits_eq_ofDigitChars]
  exact natOfDigits_toDigits n

theorem Amount.isProper_of (h : n < UInt64.size) (u : TimeUnit) : (Amount.of n u).IsProper :=
  ⟨toDigits_ne_nil n, fun _ => isDigit_of_mem_toDigits, (number_of n u).symm ▸ h⟩

theorem toList_renderIn_cons (u : TimeUnit) (units : List TimeUnit) (n : Nat) :
    (renderIn (u :: units) n).toList =
      if u.onlyWhole ∧ n % u.millis ≠ 0 ∨ n < u.millis then (renderIn units n).toList
      else (Amount.of (n / u.millis) u).text ++ (renderIn units (n % u.millis)).toList := by
  rw [renderIn]
  split
  · rfl
  · rw [String.toList_append, String.toList_append, Amount.of, Amount.text]
    simp [Nat.toList_repr]

/-- A number of milliseconds is written as amounts in some of the units, which sum up to it. The
induction is on the units; what is left after the last one is nothing. -/
theorem exists_amounts_renderIn (h : isScale units = true) (hnil : units = [] → n = 0)
    (hn : n < UInt64.size) :
    ∃ amounts, AreIn units amounts ∧ (renderIn units n).toList = textOf amounts ∧
      millisOf amounts = n := by
  induction units generalizing n with
  | nil => exact ⟨[], .nil [], rfl, (hnil rfl).symm⟩
  | cons u units ih =>
    have hscale := scale_of_isScale h
    rw [toList_renderIn_cons]
    split
    · rename_i hskip
      have hzero : units = [] → n = 0 := by
        intro hunits
        rw [hscale.last hunits] at hskip
        omega
      obtain ⟨amounts, hin, htext, hsum⟩ := ih hscale.rest hzero hn
      exact ⟨amounts, hin.mono, htext, hsum⟩
    · have hdiv : n / u.millis < UInt64.size := Nat.lt_of_le_of_lt (Nat.div_le_self _ _) hn
      have hmod : n % u.millis < UInt64.size := Nat.lt_of_le_of_lt (Nat.mod_le _ _) hn
      have hrest : units = [] → n % u.millis = 0 := by
        intro hunits
        rw [hscale.last hunits, Nat.mod_one]
      obtain ⟨amounts, hin, htext, hsum⟩ := ih hscale.rest hrest hmod
      refine ⟨.of (n / u.millis) u :: amounts, .cons (Amount.isProper_of hdiv u) hin, ?_, ?_⟩
      · rw [htext]
        rfl
      · rw [millisOf, Amount.millis, Amount.number_of, hsum]
        exact Nat.div_add_mod' n u.millis

theorem denotes_render {d : Duration} (hzero : d.millis ≠ 0) :
    Denotes d.render d.millis.toNat := by
  obtain ⟨amounts, hin, htext, hsum⟩ := exists_amounts_renderIn isScale_all
    (fun hnil => by cases hnil) d.millis.toNat_lt_size
  refine denotes_iff.mpr (.inr ⟨amounts, ?_, hin, ?_, hsum.symm⟩)
  · rintro rfl
    exact hzero (UInt64.toNat_inj.mp hsum.symm)
  · rw [render, if_neg hzero, htext]

/-- A duration is read back as it was written. -/
theorem parse_render (d : Duration) : parse d.render = .ok d := by
  by_cases hzero : d.millis = 0
  · have hd : d = ⟨0⟩ := by
      cases d
      exact congrArg _ hzero
    rw [hd]
    rfl
  · exact parse_eq_ok_iff.mpr (denotes_render hzero)

/-- Every duration is read back, so that no two of them are written alike. -/
theorem parse_render_and_injective :
    (∀ d : Duration, parse d.render = .ok d) ∧ Function.Injective render := by
  refine ⟨parse_render, fun d e h => ?_⟩
  have hread := parse_render d
  rw [h, parse_render e] at hread
  exact (Except.ok.inj hread).symm

/-- The greatest duration has all units but years and weeks, which do not divide it. -/
example : render ⟨UInt64.ofNat (2 ^ 64 - 1)⟩ = "213503982334d14h25m51s615ms" := by decide +kernel

end Duration

end ScrapeJobs
