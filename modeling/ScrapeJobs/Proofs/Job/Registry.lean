import Mathlib.Data.List.Nodup
import ScrapeJobs.Job.Registry

/-!
# Registered names

A registry has distinct names, each with its place among all of them (`Registry.Holds`). Names are
registered together if they are free and distinct, and then they stand behind those before
(`Registry.Holds.register`, `Registry.Holds.register_iff`); else nothing is registered, and the error
names the first one that is taken with the places of both (`Registry.Holds.firstTaken_of_register`).
Names that clash with each other clash in every registry (`Registry.Holds.register_own_clash`).
-/

namespace ScrapeJobs

namespace Registry

variable {names names' : Registry} {ns new : List String} {n : String}

/-- The registry has these names and no others, in this order. -/
structure Holds (names : Registry) (ns : List String) : Prop where
  nodup : ns.Nodup
  size : names.size = ns.length
  place : ∀ n k, names.seen.get? n = some k ↔ ns[k]? = some n

theorem holds_empty : Holds {} [] where
  nodup := List.nodup_nil
  size := rfl
  place := by simp

namespace Holds

theorem isSome_get?_iff (h : names.Holds ns) : (names.seen.get? n).isSome ↔ n ∈ ns := by
  rw [Option.isSome_iff_exists, List.mem_iff_getElem?]
  exact exists_congr fun k => h.place n k

theorem get?_eq_none_iff (h : names.Holds ns) : names.seen.get? n = none ↔ n ∉ ns := by
  rw [← h.isSome_get?_iff, Option.not_isSome_iff_eq_none]

/-- A free name comes last. -/
theorem insert (h : names.Holds ns) (hfree : n ∉ ns) :
    Holds ⟨names.seen.insert n names.size, names.size + 1⟩ (ns ++ [n]) where
  nodup := by
    rw [← List.concat_eq_append]
    exact h.nodup.concat hfree
  size := by rw [h.size, List.length_append, List.length_singleton]
  place := by
    intro m k
    have hlast : (ns ++ [n])[k]? = some m ↔ ns[k]? = some m ∨ (k = ns.length ∧ n = m) := by
      rw [List.getElem?_append]
      split
      · rename_i hk
        have hne : k ≠ ns.length := Nat.ne_of_lt hk
        simp [hne]
      · rename_i hk
        rw [List.getElem?_eq_none (Nat.not_lt.mp hk), List.getElem?_singleton]
        have hsub : k - ns.length = 0 ↔ k = ns.length := by omega
        simp [hsub]
    rw [hlast, ← h.place]
    simp only [Dict.get?_insert, h.size]
    split
    · rename_i hm
      have hnone : names.seen.get? n = none := h.get?_eq_none_iff.mpr hfree
      simp [hm, hnone, eq_comm]
    · rename_i hm
      simp [Ne.symm hm]

end Holds

/-! ## Registering -/

/-- Names that are added together come behind those before. -/
theorem holds_of_addAll {seen seen' : Dict Nat} {size i : Nat} (h : Holds ⟨seen, size + i⟩ ns)
    (hadd : addAll seen size i new = .ok seen') :
    Holds ⟨seen', size + i + new.length⟩ (ns ++ new) := by
  induction new generalizing seen i ns with
  | nil =>
    cases hadd
    rw [List.append_nil]
    exact h
  | cons n rest ih =>
    unfold addAll at hadd
    split at hadd
    · cases hadd
    · rename_i hfree
      have hrest := ih (h.insert (h.get?_eq_none_iff.mp hfree)) hadd
      rw [List.append_cons, List.length_cons]
      have hsize : size + i + (rest.length + 1) = size + (i + 1) + rest.length := by omega
      rw [hsize]
      exact hrest

/-- The names of a call are new up to a place, and the one at the place has a holder among those
of the registry and those of the call before it. -/
structure FirstTaken (ns new : List String) (i : Nat) (n : String) (first : Nat) : Prop where
  name : new[i]? = some n
  before : (ns ++ new.take i).Nodup
  holder : (ns ++ new.take i)[first]? = some n

namespace FirstTaken

variable {i first : Nat}

/-- A name that is registered has its holder there. -/
theorem getElem?_of_mem (h : FirstTaken ns new i n first) (hn : n ∈ ns) : ns[first]? = some n := by
  have hholder := h.holder
  rw [List.getElem?_append] at hholder
  split at hholder
  · exact hholder
  · have hne := (List.nodup_append.mp h.before).2.2 n hn n (List.mem_of_getElem? hholder)
    exact (hne rfl).elim

/-- The holder of a name that is not registered is an earlier one of the call. -/
theorem exists_of_not_mem (h : FirstTaken ns new i n first) (hn : n ∉ ns) :
    ∃ j < i, new[j]? = some n ∧ first = ns.length + j := by
  have hholder := h.holder
  rw [List.getElem?_append] at hholder
  split at hholder
  · exact (hn (List.mem_of_getElem? hholder)).elim
  · rw [List.getElem?_take] at hholder
    split at hholder
    · rename_i hlt
      exact ⟨first - ns.length, hlt, hholder, by omega⟩
    · cases hholder

end FirstTaken

/-- A name that cannot be added stands among those before, which include the ones that were to be
added before it. -/
theorem firstTaken_of_addAll {seen : Dict Nat} {size i k first : Nat}
    (h : Holds ⟨seen, size + i⟩ ns) (hadd : addAll seen size i new = .error (k, n, first)) :
    ∃ j, k = i + j ∧ FirstTaken ns new j n first := by
  induction new generalizing seen i ns with
  | nil => cases hadd
  | cons m rest ih =>
    unfold addAll at hadd
    split at hadd
    · rename_i place htaken
      cases hadd
      refine ⟨0, rfl, rfl, ?_, ?_⟩
      · rw [List.take_zero, List.append_nil]
        exact h.nodup
      · rw [List.take_zero, List.append_nil]
        exact (h.place n first).mp htaken
    · rename_i hfree
      obtain ⟨j, rfl, htaken⟩ := ih (h.insert (h.get?_eq_none_iff.mp hfree)) hadd
      have hsplit : ns ++ (m :: rest).take (j + 1) = ns ++ [m] ++ rest.take j := by
        rw [List.take_succ_cons, List.append_cons]
      refine ⟨j + 1, by omega, htaken.name, ?_, ?_⟩
      · rw [hsplit]
        exact htaken.before
      · rw [hsplit]
        exact htaken.holder

namespace Holds

/-- Names that are registered come behind those before. -/
theorem register (h : names.Holds ns) {resource : String}
    (hnew : names.register resource new = .ok names') : names'.Holds (ns ++ new) := by
  unfold Registry.register at hnew
  split at hnew
  · rename_i seen hadd
    cases hnew
    have hstart : Holds ⟨names.seen, names.size + 0⟩ ns := h
    exact holds_of_addAll hstart hadd
  · cases hnew

/-- A rejection is for the first name of the call that is taken. -/
theorem firstTaken_of_register (h : names.Holds ns) {resource : String} {rejection : Rejection}
    (hnew : names.register resource new = .error rejection) :
    ∃ i n first, FirstTaken ns new i n first ∧
      rejection = ⟨resource, some i, .duplicateJob n first (ns.length + i)⟩ := by
  unfold Registry.register at hnew
  split at hnew
  · cases hnew
  · rename_i k n first hadd
    have hstart : Holds ⟨names.seen, names.size + 0⟩ ns := h
    obtain ⟨i, rfl, htaken⟩ := firstTaken_of_addAll hstart hadd
    cases hnew
    refine ⟨i, n, first, htaken, ?_⟩
    rw [h.size, Nat.zero_add]

/-- A rejection is for the first name that is taken, by an earlier name of the registry or of the
resource itself. -/
theorem register_error (h : names.Holds ns) {resource : String} {rejection : Rejection}
    (hnew : names.register resource new = .error rejection) :
    ∃ before n after first, new = before ++ n :: after ∧ (ns ++ before)[first]? = some n ∧
      rejection = ⟨resource, some before.length,
        .duplicateJob n first (ns.length + before.length)⟩ := by
  obtain ⟨i, n, first, htaken, rfl⟩ := h.firstTaken_of_register hnew
  obtain ⟨hi, hn⟩ := List.getElem?_eq_some_iff.mp htaken.name
  have hlength : (new.take i).length = i := List.length_take_of_le (Nat.le_of_lt hi)
  refine ⟨new.take i, n, new.drop (i + 1), first, ?_, htaken.holder, ?_⟩
  · rw [← hn, List.getElem_cons_drop, List.take_append_drop]
  · rw [hlength]

/-- Names are registered exactly if no two of them and those before are the same. -/
theorem register_iff (h : names.Holds ns) (resource : String) :
    (∃ names', names.register resource new = .ok names') ↔ (ns ++ new).Nodup := by
  constructor
  · rintro ⟨names', hregister⟩
    exact (h.register hregister).nodup
  · intro hnodup
    cases hregister : names.register resource new with
    | ok names' => exact ⟨names', rfl⟩
    | error rejection =>
      obtain ⟨before, n, after, first, rfl, hfirst, -⟩ := h.register_error hregister
      rw [← List.append_assoc] at hnodup
      have hne := (List.nodup_append.mp hnodup).2.2 n (List.mem_of_getElem? hfirst) n
        List.mem_cons_self
      exact (hne rfl).elim

/-- Distinct names are registered, unless one of them is registered already. -/
theorem register_distinct (h : names.Holds ns) (resource : String) (hnew : new.Nodup) :
    (∃ names', names.register resource new = .ok names') ∨
      ∃ k n first, new[k]? = some n ∧ ns[first]? = some n ∧
        names.register resource new =
          .error ⟨resource, some k, .duplicateJob n first (ns.length + k)⟩ := by
  cases hregister : names.register resource new with
  | ok names' => exact .inl ⟨names', rfl⟩
  | error rejection =>
    obtain ⟨before, n, after, first, rfl, hfirst, rfl⟩ := h.register_error hregister
    have hn : n ∉ before := by
      intro hmem
      exact (List.nodup_append.mp hnew).2.2 n hmem n List.mem_cons_self rfl
    have hk : (before ++ n :: after)[before.length]? = some n := by simp
    refine .inr ⟨before.length, n, first, hk, ?_, rfl⟩
    rw [List.getElem?_append] at hfirst
    split at hfirst
    · exact hfirst
    · exact (hn (List.mem_of_getElem? hfirst)).elim

/-- Names that clash with each other are never registered. -/
theorem register_own_clash (h : names.Holds ns) (resource : String) (hnew : ¬ new.Nodup) :
    ∃ k n first second,
      names.register resource new = .error ⟨resource, some k, .duplicateJob n first second⟩ := by
  cases hregister : names.register resource new with
  | ok names' =>
    have hnodup : (ns ++ new).Nodup := (h.register hregister).nodup
    exact (hnew (List.nodup_append.mp hnodup).2.1).elim
  | error rejection =>
    obtain ⟨before, n, -, first, -, -, rfl⟩ := h.register_error hregister
    exact ⟨before.length, n, first, _, rfl⟩

end Holds

/-- In an empty registry, names are registered exactly if they are distinct. -/
theorem register_empty_iff (resource : String) :
    (∃ names', ({} : Registry).register resource new = .ok names') ↔ new.Nodup :=
  holds_empty.register_iff resource

end Registry

end ScrapeJobs
