import ScrapeJobs.CharSet

/-!
# Unions of sets of characters

The ranges of a set stand in the order of their lower ends (`CharSet.IsSorted`). The union of two
such sets is one too and has the characters of both (`CharSet.contains_union`), although ranges
that overlap or touch are joined.
-/

namespace ScrapeJobs.CharSet

/-- The ranges stand in the order of their lower ends. -/
def IsSorted (s : CharSet) : Prop := s.ranges.Pairwise fun a b => a.1 ≤ b.1

/-- Some range has the code point. -/
def Covers (l : List (Nat × Nat)) (n : Nat) : Prop := ∃ r ∈ l, r.1 ≤ n ∧ n ≤ r.2

theorem contains_iff {s : CharSet} {c : Char} :
    s.contains c = true ↔ Covers s.ranges c.toNat := by
  simp [contains, containsCode, Covers]

theorem covers_cons {r : Nat × Nat} {l : List (Nat × Nat)} {n : Nat} :
    Covers (r :: l) n ↔ (r.1 ≤ n ∧ n ≤ r.2) ∨ Covers l n := by
  simp [Covers]

theorem isSorted_singleton (c : Char) : (singleton c).IsSorted := List.pairwise_singleton ..

theorem isSorted_empty : empty.IsSorted := .nil

/-- A range and those that follow it cover the same once they are joined. -/
theorem covers_go {r : Nat × Nat} {l : List (Nat × Nat)}
    (h : (r :: l).Pairwise fun a b => a.1 ≤ b.1) (n : Nat) :
    Covers (join.go r l) n ↔ Covers (r :: l) n := by
  -- on the ranges that follow, while the first one grows
  induction l generalizing r with
  | nil => rfl
  | cons s rest ih =>
    obtain ⟨hr, hrest⟩ := List.pairwise_cons.mp h
    have hrs : r.1 ≤ s.1 := hr s List.mem_cons_self
    unfold join.go
    split
    · rename_i htouch
      have hjoined : ((r.1, max r.2 s.2) :: rest).Pairwise fun a b => a.1 ≤ b.1 :=
        List.pairwise_cons.mpr ⟨fun t ht => hr t (List.mem_cons_of_mem _ ht),
          (List.pairwise_cons.mp hrest).2⟩
      rw [ih hjoined, covers_cons, covers_cons, covers_cons, ← or_assoc]
      refine or_congr_left ?_
      simp only
      omega
    · rw [covers_cons, covers_cons, ih hrest]

theorem pairwise_go {r : Nat × Nat} {l : List (Nat × Nat)}
    (h : (r :: l).Pairwise fun a b => a.1 ≤ b.1) :
    (join.go r l).Pairwise (fun a b => a.1 ≤ b.1) ∧ ∀ t ∈ join.go r l, r.1 ≤ t.1 := by
  induction l generalizing r with
  | nil => exact ⟨List.pairwise_singleton .., fun t ht => by simp_all [join.go]⟩
  | cons s rest ih =>
    obtain ⟨hr, hrest⟩ := List.pairwise_cons.mp h
    unfold join.go
    split
    · exact ih (List.pairwise_cons.mpr ⟨fun t ht => hr t (List.mem_cons_of_mem _ ht),
        (List.pairwise_cons.mp hrest).2⟩)
    · obtain ⟨hpairs, hlow⟩ := ih hrest
      have hge : ∀ t ∈ join.go s rest, r.1 ≤ t.1 :=
        fun t ht => Nat.le_trans (hr s List.mem_cons_self) (hlow t ht)
      refine ⟨List.pairwise_cons.mpr ⟨hge, hpairs⟩, fun t ht => ?_⟩
      rcases List.mem_cons.mp ht with rfl | ht
      · exact Nat.le_refl _
      · exact hge t ht

variable {s t : CharSet}

theorem pairwise_merge_ranges (hs : s.IsSorted) (ht : t.IsSorted) :
    (List.merge s.ranges t.ranges fun a b => a.1 ≤ b.1).Pairwise fun a b => a.1 ≤ b.1 := by
  have hle : ∀ {l : List (Nat × Nat)}, l.Pairwise (fun a b => decide (a.1 ≤ b.1) = true) ↔
      l.Pairwise fun a b => a.1 ≤ b.1 := by simp
  refine hle.mp (List.pairwise_merge (fun a b c => ?_) (fun a b => ?_) _ _ (hle.mpr hs)
    (hle.mpr ht))
  · simpa using Nat.le_trans
  · simpa using Nat.le_total a.1 b.1

theorem isSorted_union (hs : s.IsSorted) (ht : t.IsSorted) : (s.union t).IsSorted := by
  have h := pairwise_merge_ranges hs ht
  unfold IsSorted union
  generalize List.merge s.ranges t.ranges _ = l at h
  cases l with
  | nil => exact .nil
  | cons r rest => exact (pairwise_go h).1

/-- The union of two sets has the characters of both. -/
theorem contains_union (hs : s.IsSorted) (ht : t.IsSorted) (c : Char) :
    (s.union t).contains c = true ↔ s.contains c = true ∨ t.contains c = true := by
  have hcovers : Covers (s.union t).ranges c.toNat ↔
      Covers (List.merge s.ranges t.ranges fun a b => a.1 ≤ b.1) c.toNat := by
    have h := pairwise_merge_ranges hs ht
    unfold union
    generalize List.merge s.ranges t.ranges _ = l at h
    cases l with
    | nil => rfl
    | cons r rest => exact covers_go h c.toNat
  rw [contains_iff, contains_iff, contains_iff, hcovers]
  simp only [Covers, List.mem_merge, or_and_right, exists_or]

end ScrapeJobs.CharSet
