import ScrapeJobs.Proofs.Regex.Literal

/-!
# Fixed patterns

The patterns of generated rules that no user has a part in: the usual pattern of a rule, which is
for any text (`anchored?_defaultRegex`), and the pattern for the phases of finished pods
(`isMatch_finished_iff`).
-/

namespace ScrapeJobs.Regex

open Relabel

theorem anchored?_of_read? {p : String} {x : Expr} {names : List (String × Nat)}
    (h : read? (anchoredText p.toList) = some (x, names)) : anchored? p = some ⟨x, names⟩ := by
  rw [anchored?, ofPattern?, String.toList_ofList, h]
  rfl

/-! ## Any text -/

/-- Any number of any characters. -/
def Expr.anyText : Expr := «repeat» (chars .all) 0 none true

theorem anchored?_defaultRegex :
    anchored? defaultRegex = some ⟨Expr.whole [.group 1 .anyText], []⟩ :=
  anchored?_of_read? (by decide)

theorem contains_all (c : Char) : CharSet.all.contains c = true := by
  have hvalid := c.valid
  simp only [UInt32.isValidChar, Nat.isValidChar] at hvalid
  simp only [CharSet.contains, CharSet.containsCode, CharSet.all, CharSet.top, List.any_cons,
    List.any_nil, Bool.or_false, Bool.or_eq_true, Bool.and_eq_true, decide_eq_true_eq,
    Char.toNat]
  omega

/-! ## Finished pods -/

theorem anchored?_finished : anchored? "(Failed|Succeeded)" =
    some ⟨Expr.whole [.group 1 (.alt (.literal "Failed".toList) (.literal "Succeeded".toList))],
      []⟩ :=
  anchored?_of_read? (by decide)

theorem spans_literal_whole_iff {s : String} (hs : s.toList ≠ []) (text : String) :
    (Expr.literal s.toList).Spans text.toList.toArray 0 text.toList.length ↔ text = s := by
  rw [← String.toList_inj, ← spansAll_chars_whole_iff]
  cases h : s.toList with
  | nil => exact (hs h).elim
  | cons c rest => exact spans_foldl_seq (.char c) (rest.map .char) 0 _

theorem isMatch_finished_iff {r : Regex} (h : anchored? "(Failed|Succeeded)" = some r)
    (text : String) : r.isMatch text = true ↔ text = "Failed" ∨ text = "Succeeded" := by
  rw [anchored?_finished] at h
  cases h
  rw [isMatch_whole_iff (by decide), ← spans_literal_whole_iff (s := "Failed") (by decide),
    ← spans_literal_whole_iff (s := "Succeeded") (by decide)]
  constructor
  · rintro ⟨k, hspan, rfl⟩
    exact hspan
  · intro hspan
    exact ⟨_, hspan, rfl⟩

end ScrapeJobs.Regex
