/-!
# Maps from strings in key order

`Dict α` is a finite map from strings, held as the list of its entries in increasing
order of the keys, compared code point by code point. Two maps with the same look-ups are
equal (`Dict.ext_get?`), so a statement about a map can be read off its look-ups, and what
is derived from a map by walking its entries comes out in a fixed order.
-/

namespace ScrapeJobs

/-- A finite map from strings; the keys of its entries are strictly increasing. -/
structure Dict (α : Type) where
  entries : List (String × α)
  sorted : entries.Pairwise (fun a b => a.1 < b.1)

namespace Dict

variable {α : Type}

/-! ## Sorted entry lists -/

/-- Puts an entry at its place, replacing the one that has its key. -/
def insertEntry (k : String) (v : α) : List (String × α) → List (String × α)
  | [] => [(k, v)]
  | e :: r =>
    if k < e.1 then (k, v) :: e :: r
    else if k = e.1 then (k, v) :: r
    else e :: insertEntry k v r

theorem mem_insertEntry {k : String} {v : α} {a : String × α} {l : List (String × α)}
    (h : a ∈ insertEntry k v l) : a = (k, v) ∨ a ∈ l := by
  induction l with
  | nil => simpa [insertEntry] using h
  | cons e r ih =>
    unfold insertEntry at h
    split at h
    · simpa using h
    · split at h
      · rcases List.mem_cons.1 h with h | h
        · exact .inl h
        · exact .inr (List.mem_cons_of_mem _ h)
      · rcases List.mem_cons.1 h with h | h
        · exact .inr (h ▸ List.mem_cons_self)
        · exact (ih h).imp id (List.mem_cons_of_mem _)

theorem pairwise_insertEntry {k : String} {v : α} {l : List (String × α)}
    (h : l.Pairwise (fun a b => a.1 < b.1)) :
    (insertEntry k v l).Pairwise (fun a b => a.1 < b.1) := by
  induction l with
  | nil => simp [insertEntry]
  | cons e r ih =>
    obtain ⟨he, hr⟩ := List.pairwise_cons.1 h
    unfold insertEntry
    split
    · rename_i hk
      refine List.pairwise_cons.2 ⟨fun a ha => ?_, h⟩
      rcases List.mem_cons.1 ha with rfl | ha
      · exact hk
      · exact String.lt_trans hk (he a ha)
    · split
      · rename_i hk
        exact List.pairwise_cons.2 ⟨fun a ha => hk ▸ he a ha, hr⟩
      · rename_i h₁ h₂
        refine List.pairwise_cons.2 ⟨fun a ha => ?_, ih hr⟩
        rcases mem_insertEntry ha with rfl | ha
        · have hle : e.1 ≤ k := String.not_lt.1 h₁
          refine Classical.byContradiction fun hn => ?_
          exact h₂ (String.le_antisymm (String.not_lt.1 hn) hle)
        · exact he a ha

/-! ## Operations -/

def empty : Dict α := ⟨[], .nil⟩

instance : EmptyCollection (Dict α) := ⟨empty⟩
instance : Inhabited (Dict α) := ⟨empty⟩

instance [DecidableEq α] : DecidableEq (Dict α) := fun a b =>
  decidable_of_iff (a.entries = b.entries)
    ⟨fun h => by cases a; cases b; cases h; rfl, fun h => h ▸ rfl⟩

def get? (d : Dict α) (k : String) : Option α := d.entries.lookup k

def contains (d : Dict α) (k : String) : Bool := (d.get? k).isSome

def size (d : Dict α) : Nat := d.entries.length

def isEmpty (d : Dict α) : Bool := d.entries.isEmpty

def keys (d : Dict α) : List String := d.entries.map (·.1)

def values (d : Dict α) : List α := d.entries.map (·.2)

def insert (d : Dict α) (k : String) (v : α) : Dict α :=
  ⟨insertEntry k v d.entries, pairwise_insertEntry d.sorted⟩

/-- Adds an entry unless the key is taken. -/
def insertNew (d : Dict α) (k : String) (v : α) : Dict α :=
  if d.contains k then d else d.insert k v

/-- Keeps the entries whose key satisfies a test. -/
def filterKeys (d : Dict α) (p : String → Bool) : Dict α :=
  ⟨d.entries.filter (fun e => p e.1), d.sorted.filter _⟩

def erase (d : Dict α) (k : String) : Dict α := d.filterKeys (fun k' => k' != k)

/-- The map with the given entries; of several values for one key the last counts. -/
def ofList (l : List (String × α)) : Dict α := l.foldl (fun d e => d.insert e.1 e.2) ∅

/-- Adds the entries of another map whose keys are not taken. -/
def union (d e : Dict α) : Dict α := e.entries.foldl (fun d e => d.insertNew e.1 e.2) d

/-! ## Look-ups -/

theorem lookup_cons_eq (k : String) (e : String × α) (l : List (String × α)) :
    (e :: l).lookup k = if k = e.1 then some e.2 else l.lookup k := by
  rw [show e :: l = (e.1, e.2) :: l from rfl, List.lookup_cons]
  by_cases h : k = e.1
  · rw [if_pos h, beq_iff_eq.2 h]
  · rw [if_neg h, beq_eq_false_iff_ne.2 h]

theorem lookup_insertEntry (k : String) (v : α) (k' : String) (l : List (String × α)) :
    (insertEntry k v l).lookup k' = if k' = k then some v else l.lookup k' := by
  induction l with
  | nil => simp [insertEntry, lookup_cons_eq]
  | cons e r ih =>
    unfold insertEntry
    split
    · simp [lookup_cons_eq]
    · split
      · rename_i hk
        subst hk
        by_cases h : k' = e.1 <;> simp [lookup_cons_eq, h]
      · rename_i hk
        by_cases h : k' = k
        · subst h
          simp [lookup_cons_eq, hk, ih]
        · simp [lookup_cons_eq, ih, h]

@[simp] theorem get?_empty (k : String) : (∅ : Dict α).get? k = none := rfl

theorem get?_insert (d : Dict α) (k : String) (v : α) (k' : String) :
    (d.insert k v).get? k' = if k' = k then some v else d.get? k' :=
  lookup_insertEntry k v k' d.entries

theorem lookup_eq_none_of_lt {k : String} {l : List (String × α)} (h : ∀ e ∈ l, k < e.1) :
    l.lookup k = none := by
  induction l with
  | nil => rfl
  | cons e r ih =>
    have hne : k ≠ e.1 := fun he => String.lt_irrefl k (he ▸ h e List.mem_cons_self : k < k)
    rw [lookup_cons_eq, if_neg hne, ih fun a ha => h a (List.mem_cons_of_mem _ ha)]

/-- Entries in order are determined by their look-ups. -/
theorem eq_of_lookup {l m : List (String × α)} (hl : l.Pairwise (fun a b => a.1 < b.1))
    (hm : m.Pairwise (fun a b => a.1 < b.1)) (h : ∀ k, l.lookup k = m.lookup k) : l = m := by
  induction l generalizing m with
  | nil =>
    cases m with
    | nil => rfl
    | cons b s => simpa [lookup_cons_eq] using h b.1
  | cons a r ih =>
    obtain ⟨har, hr⟩ := List.pairwise_cons.1 hl
    cases m with
    | nil => simpa [lookup_cons_eq] using h a.1
    | cons b s =>
      obtain ⟨hbs, hs⟩ := List.pairwise_cons.1 hm
      have hab : ¬ a.1 < b.1 := fun hlt => by
        have hm' : ∀ e ∈ b :: s, a.1 < e.1 := fun e he => by
          rcases List.mem_cons.1 he with rfl | he
          · exact hlt
          · exact String.lt_trans hlt (hbs e he)
        simpa [lookup_cons_eq, lookup_eq_none_of_lt hm'] using h a.1
      have hba : ¬ b.1 < a.1 := fun hlt => by
        have hl' : ∀ e ∈ a :: r, b.1 < e.1 := fun e he => by
          rcases List.mem_cons.1 he with rfl | he
          · exact hlt
          · exact String.lt_trans hlt (har e he)
        simpa [lookup_cons_eq, lookup_eq_none_of_lt hl'] using (h b.1).symm
      have hkey : a.1 = b.1 := String.le_antisymm (String.not_lt.1 hba) (String.not_lt.1 hab)
      have hvalue : a.2 = b.2 := by simpa [lookup_cons_eq, hkey] using h a.1
      have htail : r = s := ih hr hs fun k => by
        by_cases hk : k = a.1
        · rw [hk, lookup_eq_none_of_lt har, hkey, lookup_eq_none_of_lt hbs]
        · have hk' : k ≠ b.1 := hkey ▸ hk
          simpa [lookup_cons_eq, hk, hk'] using h k
      rw [htail, Prod.ext hkey hvalue]

/-- Maps with the same look-ups are equal. -/
theorem ext_get? {d e : Dict α} (h : ∀ k, d.get? k = e.get? k) : d = e := by
  have : d.entries = e.entries := eq_of_lookup d.sorted e.sorted h
  cases d
  cases e
  cases this
  rfl

end Dict

end ScrapeJobs
