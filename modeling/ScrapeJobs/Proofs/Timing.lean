import ScrapeJobs.Compiler
import ScrapeJobs.Proofs.Outcome

/-!
# Texts for times

An endpoint has an interval and a timeout if its settings name them: each is the notation of a time
above zero, a timeout that is not set is the interval, and one that is set is not above it
(`Timing.Fits`). Exactly such times are accepted (`Timing.both_eq_ok_iff`). Every other pair of texts
fails for the interval or for the timeout, with what is wrong with it (`Timing.Faulty`).
-/

namespace ScrapeJobs

open Outcome

theorem set?_eq_none_iff {text : Option String} :
    set? text = none ↔ text = none ∨ text = some "" := by
  cases text with
  | none => simp [set?]
  | some s => simp [set?, Option.filter_eq_none_iff]

theorem set?_eq_some_iff {text : Option String} {s : String} :
    set? text = some s ↔ text = some s ∧ s ≠ "" := by
  unfold set?
  rw [Option.filter_eq_some_iff, decide_eq_true_iff]

/-! ## One text -/

namespace Timing

variable {text : Option String} {s : String} {d e : Duration} {timing : Timing}

/-- Nothing is set, or an empty text. -/
def IsUnset (text : Option String) : Prop := text = none ∨ text = some ""

/-- The text is set, and it is the notation of a time above zero. -/
def Names (text : Option String) (d : Duration) : Prop :=
  ∃ s, text = some s ∧ s ≠ "" ∧ Duration.parse s = .ok d ∧ 0 < d.millis

/-- The text is not set, it is no notation of a time, or the time is zero. -/
def NamesNone (text : Option String) : Prop :=
  IsUnset text ∨ (∃ s fault, text = some s ∧ Duration.parse s = .error fault) ∨
    ∃ s, text = some s ∧ Duration.parse s = .ok ⟨0⟩

theorem Names.unique (h : Names text d) (h' : Names text e) : d = e := by
  obtain ⟨s, rfl, -, hd, -⟩ := h
  obtain ⟨s', hs', -, he, -⟩ := h'
  cases hs'
  exact Except.ok.inj (hd.symm.trans he)

/-- A text names a time or none. -/
theorem namesNone_iff : NamesNone text ↔ ¬ ∃ d, Names text d := by
  constructor
  · rintro hnone ⟨d, s, rfl, hset, hparse, hpos⟩
    rcases hnone with hunset | ⟨s', fault, hs', hfault⟩ | ⟨s', hs', hzero⟩
    · rcases hunset with hunset | hunset
      · cases hunset
      · exact hset (Option.some.inj hunset)
    · cases hs'
      cases hparse.symm.trans hfault
    · cases hs'
      cases hparse.symm.trans hzero
      exact UInt64.lt_irrefl 0 hpos
  · intro hnone
    cases text with
    | none => exact .inl (.inl rfl)
    | some s =>
      by_cases hset : s = ""
      · exact .inl (.inr (congrArg some hset))
      · cases hparse : Duration.parse s with
        | error fault => exact .inr (.inl ⟨s, fault, rfl, hparse⟩)
        | ok d =>
          have hzero : d.millis = 0 := by
            by_contra hpos
            exact hnone ⟨d, s, rfl, hset, hparse, UInt64.pos_iff_ne_zero.mpr hpos⟩
          have hd : d = ⟨0⟩ := congrArg Duration.mk hzero
          rw [hd] at hparse
          exact .inr (.inr ⟨s, rfl, hparse⟩)

theorem not_isUnset_iff : ¬ IsUnset (some s) ↔ s ≠ "" := by
  simp [IsUnset]

/-- Reading a text that is set gives the time that it names, or a fault of this time. -/
theorem read_cases (timing : Timing) (hset : s ≠ "") :
    (∃ d, Names (some s) d ∧ timing.read s = .ok d) ∨
      ∃ fault, NamesNone (some s) ∧ timing.read s = .error (.timing timing fault) := by
  unfold read
  cases hparse : Duration.parse s with
  | error fault => exact .inr ⟨_, .inr (.inl ⟨s, fault, rfl, hparse⟩), rfl⟩
  | ok d =>
    by_cases hzero : d.millis = 0
    · have hd : d = ⟨0⟩ := congrArg Duration.mk hzero
      rw [hd] at hparse ⊢
      exact .inr ⟨_, .inr (.inr ⟨s, rfl, hparse⟩), rfl⟩
    · refine .inl ⟨d, ⟨s, rfl, hset, hparse, UInt64.pos_iff_ne_zero.mpr hzero⟩, ?_⟩
      simp [Duration.isZero, hzero]

/-! ## Both times -/

variable {settings : Settings} {d' e' : Duration}

/-- The settings of an endpoint name the interval `d` and the timeout `e`. -/
structure Fits (settings : Settings) (d e : Duration) : Prop where
  interval : Names settings.interval d
  timeout : IsUnset settings.timeout ∧ e = d ∨ Names settings.timeout e ∧ e ≤ d

theorem Fits.pos_le (h : Fits settings d e) : 0 < e.millis ∧ e ≤ d := by
  obtain ⟨-, -, -, -, hinterval⟩ := h.interval
  rcases h.timeout with ⟨-, rfl⟩ | ⟨⟨-, -, -, -, htimeout⟩, hle⟩
  · exact ⟨hinterval, UInt64.le_refl _⟩
  · exact ⟨htimeout, hle⟩

theorem IsUnset.not_names (h : IsUnset text) : ¬ Names text d :=
  fun hd => namesNone_iff.mp (.inl h) ⟨d, hd⟩

/-- What is wrong with settings that name no times: it is the interval, or else the timeout, which
is none or is above the interval. -/
inductive Faulty (settings : Settings) : Timing → Fault → Prop
  | interval {fault : Fault} (h : NamesNone settings.interval) : Faulty settings .interval fault
  | timeout {d : Duration} {fault : Fault} (hinterval : Names settings.interval d)
      (hset : ¬ IsUnset settings.timeout) (h : NamesNone settings.timeout) :
      Faulty settings .timeout fault
  | exceeds {i t : String} {d e : Duration} (hi : settings.interval = some i)
      (ht : settings.timeout = some t) (hinterval : Names settings.interval d)
      (htimeout : Names settings.timeout e) (hlt : d < e) : Faulty settings .timeout (.exceeds t i)

namespace Faulty

variable {fault : Fault}

/-- Settings that are faulty name no times. -/
theorem not_fits (h : Faulty settings timing fault) : ¬ Fits settings d e := by
  intro hfits
  cases h with
  | interval hnone => exact namesNone_iff.mp hnone ⟨d, hfits.interval⟩
  | timeout hinterval hset hnone =>
    rcases hfits.timeout with ⟨hunset, -⟩ | ⟨htimeout, -⟩
    · exact hset hunset
    · exact namesNone_iff.mp hnone ⟨e, htimeout⟩
  | exceeds hi ht hinterval htimeout hlt =>
    obtain rfl := hinterval.unique hfits.interval
    rcases hfits.timeout with ⟨hunset, -⟩ | ⟨htimeout', hle⟩
    · exact hunset.not_names htimeout
    · obtain rfl := htimeout.unique htimeout'
      exact UInt64.not_lt.mpr hle hlt

theorem eq_interval_iff (h : Faulty settings timing fault) :
    timing = .interval ↔ NamesNone settings.interval := by
  cases h with
  | interval hnone => exact ⟨fun _ => hnone, fun _ => rfl⟩
  | timeout hinterval hset hnone =>
    exact ⟨nofun, fun hnone => (namesNone_iff.mp hnone ⟨_, hinterval⟩).elim⟩
  | exceeds hi ht hinterval htimeout hlt =>
    exact ⟨nofun, fun hnone => (namesNone_iff.mp hnone ⟨_, hinterval⟩).elim⟩

/-- A timeout above the interval is reported with both texts. -/
theorem eq_exceeds {i t : String} (h : Faulty settings timing fault)
    (hi : settings.interval = some i) (ht : settings.timeout = some t) (hd : Names (some i) d)
    (he : Names (some t) e) : d < e ∧ timing = .timeout ∧ fault = .exceeds t i := by
  rw [← hi] at hd
  rw [← ht] at he
  cases h with
  | interval hnone => exact (namesNone_iff.mp hnone ⟨d, hd⟩).elim
  | timeout hinterval hset hnone => exact (namesNone_iff.mp hnone ⟨e, he⟩).elim
  | exceeds hi' ht' hinterval htimeout hlt =>
    cases hi.symm.trans hi'
    cases ht.symm.trans ht'
    obtain rfl := hd.unique hinterval
    obtain rfl := he.unique htimeout
    exact ⟨hlt, rfl, rfl⟩

end Faulty

/-- The message has the texts as they were set. -/
theorem message_exceeds (t i : String) :
    (Cause.timing .timeout (.exceeds t i)).message =
      "invalid timeout: timeout " ++ t ++ " exceeds interval " ++ i := by
  have hhead : "invalid timeout: timeout " =
      "invalid " ++ Timing.timeout.name ++ ": " ++ "timeout " := by
    decide
  have hmessage : (Cause.timing .timeout (.exceeds t i)).message =
      "invalid " ++ Timing.timeout.name ++ ": " ++
        ("timeout " ++ t ++ " exceeds interval " ++ i) := rfl
  rw [hmessage, hhead, ← String.append_assoc, ← String.append_assoc, ← String.append_assoc]

/-- What reading the times of an endpoint comes to. -/
theorem both_cases (settings : Settings) :
    (∃ d e, Fits settings d e ∧ both settings = .ok (d, e)) ∨
      ∃ timing fault, Faulty settings timing fault ∧
        both settings = .error (.timing timing fault) := by
  unfold both
  cases hi : set? settings.interval with
  | none => exact .inr ⟨.interval, .unset, .interval (.inl (set?_eq_none_iff.mp hi)), rfl⟩
  | some i =>
    obtain ⟨hi, hset⟩ := set?_eq_some_iff.mp hi
    rcases read_cases .interval hset with ⟨d, hd, hread⟩ | ⟨fault, hnone, hread⟩
    · rw [← hi] at hd
      dsimp only
      rw [hread, ok_bind]
      cases ht : set? settings.timeout with
      | none => exact .inl ⟨d, d, ⟨hd, .inl ⟨set?_eq_none_iff.mp ht, rfl⟩⟩, rfl⟩
      | some t =>
        obtain ⟨ht, hset'⟩ := set?_eq_some_iff.mp ht
        rcases read_cases .timeout hset' with ⟨e, he, hread'⟩ | ⟨fault, hnone, hread'⟩
        · rw [← ht] at he
          by_cases hlt : d < e
          · refine .inr ⟨.timeout, .exceeds t i, .exceeds hi ht hd he hlt, ?_⟩
            dsimp only
            rw [hread', ok_bind, if_pos hlt]
            rfl
          · refine .inl ⟨d, e, ⟨hd, .inr ⟨he, UInt64.not_lt.mp hlt⟩⟩, ?_⟩
            dsimp only
            rw [hread', ok_bind, if_neg hlt]
            rfl
        · rw [← ht] at hnone
          refine .inr ⟨.timeout, fault, .timeout hd ?_ hnone, ?_⟩
          · rw [ht]
            exact not_isUnset_iff.mpr hset'
          · dsimp only
            rw [hread']
            rfl
    · rw [← hi] at hnone
      refine .inr ⟨.interval, fault, .interval hnone, ?_⟩
      dsimp only
      rw [hread]
      rfl

theorem Fits.unique (h : Fits settings d e) (h' : Fits settings d' e') : d = d' ∧ e = e' := by
  have hinterval : d = d' := h.interval.unique h'.interval
  refine ⟨hinterval, ?_⟩
  rcases h.timeout with ⟨hunset, rfl⟩ | ⟨htimeout, -⟩
  · rcases h'.timeout with ⟨-, rfl⟩ | ⟨htimeout', -⟩
    · exact hinterval
    · exact (hunset.not_names htimeout').elim
  · rcases h'.timeout with ⟨hunset', -⟩ | ⟨htimeout', -⟩
    · exact (hunset'.not_names htimeout).elim
    · exact htimeout.unique htimeout'

/-- The times that are accepted are those that the settings name. -/
theorem both_eq_ok_iff : both settings = .ok (d, e) ↔ Fits settings d e := by
  rcases both_cases settings with ⟨d', e', hfits, hok⟩ | ⟨timing, fault, hfaulty, herror⟩
  · rw [hok]
    constructor
    · intro h
      cases h
      exact hfits
    · intro h
      obtain ⟨rfl, rfl⟩ := hfits.unique h
      rfl
  · rw [herror]
    exact ⟨nofun, fun h => (hfaulty.not_fits h).elim⟩

/-- An error says what is wrong with the settings. -/
theorem faulty_of_both {fault : Fault} (h : both settings = .error (.timing timing fault)) :
    Faulty settings timing fault := by
  rcases both_cases settings with ⟨d, e, -, hok⟩ | ⟨timing', fault', hfaulty, herror⟩
  · cases h.symm.trans hok
  · cases h.symm.trans herror
    exact hfaulty

/-- Settings that name no times are refused, for what is wrong with them. -/
theorem exists_faulty (h : ¬ ∃ d e, Fits settings d e) :
    ∃ timing fault, Faulty settings timing fault ∧
      both settings = .error (.timing timing fault) := by
  rcases both_cases settings with ⟨d, e, hfits, -⟩ | hfaulty
  · exact (h ⟨d, e, hfits⟩).elim
  · exact hfaulty

end Timing

end ScrapeJobs
