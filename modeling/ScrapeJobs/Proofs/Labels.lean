import ScrapeJobs.Label

/-!
# Look-ups in label sets

What each operation on a label set does to the look-ups of it. A map is determined by its
look-ups (`Dict.ext_get?`), so these equations are all that later modules use of label
sets. `AgreeOn P` relates two label sets that cannot be told apart on the labels with `P`.
-/

namespace ScrapeJobs

namespace Dict

variable {α : Type}

theorem lookup_filter_key (p : String → Bool) (k : String) (l : List (String × α)) :
    (l.filter fun e => p e.1).lookup k = if p k then l.lookup k else none := by
  induction l with
  | nil => simp
  | cons e r ih =>
    by_cases hk : k = e.1
    · subst hk
      by_cases hp : p e.1 <;> simp [hp, lookup_cons_eq, ih]
    · by_cases hp : p e.1 <;> simp [hp, lookup_cons_eq, hk, ih]

theorem lookup_eq_none_of_notMem {k : String} {l : List (String × α)}
    (h : k ∉ l.map (·.1)) : l.lookup k = none := by
  rw [List.lookup_eq_none_iff]
  intro e he
  refine bne_iff_ne.mpr fun hk => h ?_
  exact List.mem_map.mpr ⟨e, he, hk.symm⟩

/-- Entries with distinct keys are put into a map over what it has for these keys. -/
theorem get?_foldl_insert {l : List (String × α)} (h : (l.map (·.1)).Nodup) (d : Dict α)
    (k : String) :
    (l.foldl (fun d e => d.insert e.1 e.2) d).get? k = (l.lookup k).or (d.get? k) := by
  induction l generalizing d with
  | nil => rfl
  | cons e r ih =>
    obtain ⟨he, hr⟩ := List.nodup_cons.mp h
    rw [List.foldl_cons, ih hr, get?_insert, lookup_cons_eq]
    by_cases hk : k = e.1
    · rw [if_pos hk, if_pos hk, hk, lookup_eq_none_of_notMem he, Option.none_or, Option.some_or]
    · rw [if_neg hk, if_neg hk]

theorem nodup_keys (d : Dict α) : (d.entries.map (·.1)).Nodup := by
  rw [List.Nodup, List.pairwise_map]
  exact d.sorted.imp fun hlt => String.ne_of_lt hlt

theorem get?_of_mem {d : Dict α} {e : String × α} (h : e ∈ d.entries) : d.get? e.1 = some e.2 := by
  have hnodup := d.nodup_keys
  unfold get?
  generalize d.entries = l at h hnodup
  induction l with
  | nil => cases h
  | cons a r ih =>
    obtain ⟨ha, hr⟩ := List.nodup_cons.mp hnodup
    rw [lookup_cons_eq]
    rcases List.mem_cons.mp h with rfl | h
    · rw [if_pos rfl]
    · have hne : e.1 ≠ a.1 := fun he => ha (List.mem_map.mpr ⟨e, h, he⟩)
      rw [if_neg hne, ih h hr]

theorem ofList_entries (d : Dict α) : ofList d.entries = d := by
  refine ext_get? fun k => ?_
  rw [ofList, get?_foldl_insert d.nodup_keys, get?_empty, Option.or_none, get?]

theorem get?_filterKeys (d : Dict α) (p : String → Bool) (k : String) :
    (d.filterKeys p).get? k = if p k then d.get? k else none :=
  lookup_filter_key p k d.entries

theorem get?_erase (d : Dict α) (k k' : String) :
    (d.erase k).get? k' = if k' = k then none else d.get? k' := by
  rw [erase, get?_filterKeys]
  by_cases h : k' = k <;> simp [h]

end Dict

namespace Labels

variable {P Q : String → Prop} {a b : Labels}

theorem get?_set (ls : Labels) (name value l : String) :
    (ls.set name value).get? l =
      if l = name then (if value = "" then none else some value) else ls.get? l := by
  unfold set
  split
  · rw [Dict.get?_erase]
  · rw [Dict.get?_insert]

theorem get?_set_self (ls : Labels) (name value : String) :
    (ls.set name value).get? name = if value = "" then none else some value := by
  simp [get?_set]

theorem get?_set_ne {l name : String} (h : l ≠ name) (ls : Labels) (value : String) :
    (ls.set name value).get? l = ls.get? l := by
  simp [get?_set, h]

/-- A text that is not empty is the value of a label only if the label is there. -/
theorem value_eq_iff {v : String} (hv : v ≠ "") (ls : Labels) (name : String) :
    ls.value name = v ↔ ls.get? name = some v := by
  unfold value
  cases ls.get? name with
  | none => simpa using hv.symm
  | some w => simp

/-! ## Agreement -/

/-- The label sets have the same labels with `P`, and the same values of these. -/
def AgreeOn (P : String → Prop) (a b : Labels) : Prop := ∀ l, P l → a.get? l = b.get? l

theorem AgreeOn.mono (h : AgreeOn P a b) (hPQ : ∀ l, Q l → P l) : AgreeOn Q a b :=
  fun l hl => h l (hPQ l hl)

theorem AgreeOn.value (h : AgreeOn P a b) {l : String} (hl : P l) : a.value l = b.value l := by
  unfold Labels.value
  rw [h l hl]

theorem AgreeOn.set (h : AgreeOn P a b) (name value : String) :
    AgreeOn (fun l => P l ∨ l = name) (a.set name value) (b.set name value) := by
  intro l hl
  rw [get?_set, get?_set]
  split
  · rfl
  · rename_i hne
    exact h l (hl.resolve_right hne)

theorem AgreeOn.filterKeys (h : AgreeOn P a b) (p : String → Bool) :
    AgreeOn (fun l => P l ∨ p l = false) (a.filterKeys p) (b.filterKeys p) := by
  intro l hl
  rw [Dict.get?_filterKeys, Dict.get?_filterKeys]
  split
  · rename_i hp
    exact h l (hl.resolve_right (by simp [hp]))
  · rfl

end Labels

end ScrapeJobs
