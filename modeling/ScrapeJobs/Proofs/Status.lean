import Mathlib.Data.List.Induction
import Mathlib.Data.List.Nodup
import ScrapeJobs.Status

/-!
# Histories of conditions

A status that is built with `Status.set` has one condition for each type that was set, in the order
of the first sets, and the condition is made of the sets of its type alone: it is as the last one
wrote it, but for its time, which is the one of the first set in the final run of sets with this
state (`Lasts`). One set takes such a condition to the next one (`Lasts.renew`), and so any sequence
of them leaves these conditions (`Status.conditions_after`).
-/

namespace ScrapeJobs

/-- What sets of one type leave. The last sets have one state, while the one before them, if there
is one, has another; the condition has the time of the first of them and all else from the last. -/
def Lasts (sets : List Condition) (d : Condition) : Prop :=
  ∃ before run first last, sets = before ++ run ∧ run.head? = some first ∧
    run.getLast? = some last ∧ (∀ c ∈ run, c.state = last.state) ∧
    (∀ c, before.getLast? = some c → c.state ≠ last.state) ∧ d = { last with since := first.since }

namespace Lasts

variable {sets : List Condition} {c d : Condition}

theorem single (c : Condition) : Lasts [c] c :=
  ⟨[], [c], c, c, rfl, rfl, rfl, fun b hb => by rw [List.mem_singleton.mp hb], nofun, rfl⟩

/-- One more set either goes on with the final run or begins a new one. -/
theorem renew (h : Lasts sets d) (c : Condition) : Lasts (sets ++ [c]) (Status.renew d c) := by
  obtain ⟨before, run, first, last, rfl, hfirst, hlast, hrun, hbefore, rfl⟩ := h
  have hne : run ≠ [] := List.ne_nil_of_mem (List.mem_of_mem_head? hfirst)
  unfold Status.renew
  by_cases hstate : last.state = c.state
  · rw [if_pos hstate]
    refine ⟨before, run ++ [c], first, c, by rw [List.append_assoc], ?_, List.getLast?_concat, ?_,
      ?_, rfl⟩
    · rw [List.head?_append_of_ne_nil _ hne, hfirst]
    · intro b hb
      rcases List.mem_append.mp hb with hb | hb
      · exact (hrun b hb).trans hstate
      · rw [List.mem_singleton.mp hb]
    · intro b hb
      exact hstate ▸ hbefore b hb
  · rw [if_neg hstate]
    refine ⟨before ++ run, [c], c, c, rfl, rfl, rfl, fun b hb => by rw [List.mem_singleton.mp hb],
      ?_, rfl⟩
    intro b hb
    rw [List.getLast?_append_of_ne_nil _ hne, hlast] at hb
    cases hb
    exact hstate

end Lasts

namespace Status

variable {s : Status} {c d : Condition} {type : String}

/-! ## One set -/

theorem type_renew (d c : Condition) : (renew d c).type = c.type := by
  unfold renew
  split <;> rfl

/-- A set puts a new type behind the others and leaves the types as they are otherwise. -/
theorem types_setIn (c : Condition) (l : List Condition) :
    (setIn c l).map (·.type) =
      if c.type ∈ l.map (·.type) then l.map (·.type) else l.map (·.type) ++ [c.type] := by
  induction l with
  | nil => rfl
  | cons d rest ih =>
    unfold setIn
    by_cases hd : d.type = c.type
    · simp [hd, type_renew]
    · rw [if_neg hd, List.map_cons, ih]
      simp only [List.map_cons, List.mem_cons, Ne.symm hd, false_or]
      split <;> rfl

/-- A set leaves the conditions of other types alone. -/
theorem filter_setIn (c : Condition) (l : List Condition) :
    (setIn c l).filter (·.type ≠ c.type) = l.filter (·.type ≠ c.type) := by
  induction l with
  | nil => simp [setIn]
  | cons d rest ih =>
    unfold setIn
    by_cases hd : d.type = c.type
    · simp [hd, type_renew]
    · rw [if_neg hd, List.filter_cons, List.filter_cons, ih]

theorem find?_set_ne (s : Status) (h : type ≠ c.type) : (s.set c).find? type = s.find? type := by
  have hfilter : ∀ l : List Condition,
      l.find? (·.type = type) = (l.filter (·.type ≠ c.type)).find? (·.type = type) := by
    intro l
    rw [List.find?_filter]
    congr 1
    funext d
    by_cases hd : d.type = type <;> simp [hd, h]
  change (setIn c s.conditions).find? _ = s.conditions.find? _
  rw [hfilter, filter_setIn, ← hfilter]

/-- The type that is set has the new condition in the place of the old one. -/
theorem find?_set_self (s : Status) (c : Condition) :
    (s.set c).find? c.type = some ((s.find? c.type).elim c (renew · c)) := by
  change (setIn c s.conditions).find? _ = some ((s.conditions.find? _).elim _ _)
  induction s.conditions with
  | nil => simp [setIn]
  | cons d rest ih =>
    unfold setIn
    by_cases hd : d.type = c.type
    · simp [hd, type_renew]
    · rw [if_neg hd, List.find?_cons_of_neg (by simpa using hd),
        List.find?_cons_of_neg (by simpa using hd), ih]

/-! ## Sequences of sets -/

/-- The status after conditions were set one after the other. -/
def after (cs : List Condition) : Status := cs.foldl set {}

/-- The sets of one type. -/
def setsOf (cs : List Condition) (type : String) : List Condition := cs.filter (·.type = type)

theorem eraseDups_concat (l : List String) (a : String) :
    (l ++ [a]).eraseDups = if a ∈ l then l.eraseDups else l.eraseDups ++ [a] := by
  rw [List.eraseDups_append, List.removeAll]
  by_cases ha : a ∈ l <;> simp [ha, List.eraseDups_cons]

theorem after_concat (cs : List Condition) (c : Condition) :
    after (cs ++ [c]) = (after cs).set c := by
  rw [after, List.foldl_append]
  rfl

theorem setsOf_concat (cs : List Condition) (c : Condition) :
    setsOf (cs ++ [c]) type = setsOf cs type ++ if c.type = type then [c] else [] := by
  rw [setsOf, List.filter_append, List.filter_singleton]
  by_cases h : c.type = type <;> simp [h, setsOf]

/-- The types of a status are those that were set, in the order of the first sets. -/
theorem types_after (cs : List Condition) :
    (after cs).conditions.map (·.type) = (cs.map (·.type)).eraseDups := by
  induction cs using List.reverseRecOn with
  | nil => rfl
  | append_singleton cs c ih =>
    rw [after_concat, List.map_append, List.map_singleton, eraseDups_concat]
    change (setIn c (after cs).conditions).map (·.type) = _
    simp only [types_setIn, ih, List.mem_eraseDups]

theorem nodup_types_after (cs : List Condition) : ((after cs).conditions.map (·.type)).Nodup := by
  induction cs using List.reverseRecOn with
  | nil => exact List.nodup_nil
  | append_singleton cs c ih =>
    rw [after_concat]
    change ((setIn c (after cs).conditions).map (·.type)).Nodup
    rw [types_setIn]
    split
    · exact ih
    · rename_i hc
      rw [← List.concat_eq_append]
      exact ih.concat hc

/-- The condition of a type depends on the sets of this type alone. -/
theorem find?_after (cs : List Condition) (type : String) :
    match (after cs).find? type with
    | none => setsOf cs type = []
    | some d => Lasts (setsOf cs type) d := by
  induction cs using List.reverseRecOn with
  | nil => rfl
  | append_singleton cs c ih =>
    rw [after_concat, setsOf_concat]
    by_cases htype : c.type = type
    · subst htype
      rw [find?_set_self, if_pos rfl]
      cases hfind : (after cs).find? c.type with
      | none =>
        rw [hfind] at ih
        have hnone : setsOf cs c.type = [] := ih
        rw [hnone]
        exact .single c
      | some d =>
        rw [hfind] at ih
        exact Lasts.renew ih c
    · rw [find?_set_ne _ (Ne.symm htype), if_neg htype, List.append_nil]
      exact ih

/-- After any sequence of sets, a status has one condition for each type that was set, and these
come in the order of the first sets. A further set leaves the conditions of other types as they
are. The condition of a type that was set is as its last set wrote it, with the time of the first
set in the final run of sets of this type with the same state. -/
theorem conditions_after (cs : List Condition) :
    ((after cs).conditions.map (·.type)).Nodup ∧
      (after cs).conditions.map (·.type) = (cs.map (·.type)).eraseDups ∧
      (∀ c, ((after cs).set c).conditions.filter (·.type ≠ c.type) =
        (after cs).conditions.filter (·.type ≠ c.type)) ∧
      ∀ type, match (after cs).find? type with
        | none => ∀ c ∈ cs, c.type ≠ type
        | some d => ∃ before run first last, cs.filter (·.type = type) = before ++ run ∧
            run.head? = some first ∧ run.getLast? = some last ∧
            (∀ c ∈ run, c.state = last.state) ∧
            (∀ c, before.getLast? = some c → c.state ≠ last.state) ∧
            d.type = type ∧ d.state = last.state ∧ d.reason = last.reason ∧
            d.message = last.message ∧ d.since = first.since := by
  refine ⟨nodup_types_after cs, types_after cs, fun c => filter_setIn c _, fun type => ?_⟩
  have hfind := find?_after cs type
  cases h : (after cs).find? type with
  | none =>
    rw [h] at hfind
    simpa [setsOf, List.filter_eq_nil_iff] using hfind
  | some d =>
    rw [h] at hfind
    obtain ⟨before, run, first, last, hsets, hfirst, hlast, hrun, hbefore, rfl⟩ := hfind
    have htype : last.type = type := by
      simpa using List.find?_some h
    exact ⟨before, run, first, last, hsets, hfirst, hlast, hrun, hbefore, htype, rfl, rfl, rfl, rfl⟩

end Status

end ScrapeJobs
