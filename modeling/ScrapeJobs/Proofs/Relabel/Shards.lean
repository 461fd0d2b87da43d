import Mathlib.Algebra.Group.Nat.Defs
import Mathlib.Data.List.Perm.Basic
import ScrapeJobs.Proofs.Duration
import ScrapeJobs.Proofs.Relabel.Checked
import ScrapeJobs.Proofs.Regex.Words
import ScrapeJobs.Proofs.Selection

/-!
# Sharing targets among collectors

A rule that writes a hash below a modulus, and behind it a rule that keeps one value of the hash,
share the targets among as many collectors as the modulus says, without any talk between them. The
number of a target is the remainder of a hash of the values that the rule reads (`shard_eq`), and
the decimal text of a number is a pattern that matches no other number
(`exists_anchored?_toString`). So a collector keeps the targets with its own number and no others
(`run_shardRules`), and all of them together have each target once (`shards_partition_targets`).
-/

namespace ScrapeJobs

namespace Relabel

open Labels

variable {r : Rule} {modulus : UInt64}

/-! ## The number of a target -/

theorem length_bytesOf (count n : Nat) : (Digest.bytesOf count n).length = count := by
  rw [Digest.bytesOf, List.length_map, List.length_range]

/-- A digest has sixteen bytes. -/
theorem length_md5 (message : List UInt8) : (Digest.md5 message).length = 16 := by
  simp [Digest.md5, length_bytesOf]

/-- The number that bytes make in 64 bits, the most significant one first. -/
def wordOfBytes (bytes : List UInt8) : UInt64 := bytes.foldl (fun n b => n * 256 + b.toUInt64) 0

/-- The hash of a text: what the last eight bytes of its digest make. -/
def hashOf (text : String) : UInt64 := wordOfBytes ((Digest.md5 text.toUTF8.toList).drop 8)

theorem wordOfBytes_append_singleton (bytes : List UInt8) (b : UInt8) :
    wordOfBytes (bytes ++ [b]) = wordOfBytes bytes * 256 + b.toUInt64 := by
  rw [wordOfBytes, List.foldl_append]
  rfl

/-- One more byte in 64 bits, as long as there is room for it. -/
theorem toNat_mul_add_byte {n : UInt64} {b : UInt8} (h : n.toNat * 256 + b.toNat < UInt64.size) :
    (n * 256 + b.toUInt64).toNat = n.toNat * 256 + b.toNat := by
  have hproduct : (n * 256).toNat = n.toNat * 256 := by
    rw [UInt64.toNat_mul]
    exact Nat.mod_eq_of_lt (Nat.lt_of_le_of_lt (Nat.le_add_right _ _) h)
  rw [UInt64.toNat_add, hproduct, UInt8.toNat_toUInt64]
  exact Nat.mod_eq_of_lt h

/-- Up to eight bytes have room in 64 bits, so that nothing is carried over. The induction takes off
the last byte. -/
theorem toNat_wordOfBytes {bytes : List UInt8} (h : bytes.length ≤ 8) :
    (wordOfBytes bytes).toNat = bytes.foldl (fun n b => n * 256 + b.toNat) 0 ∧
      (wordOfBytes bytes).toNat < 256 ^ bytes.length := by
  induction bytes using List.reverseRecOn with
  | nil => exact ⟨rfl, by decide⟩
  | append_singleton front b ih =>
    rw [List.length_append, List.length_singleton] at h ⊢
    obtain ⟨hvalue, hlt⟩ := ih (Nat.le_of_succ_le h)
    have hb : b.toNat < 256 := b.toNat_lt
    have hnext : (wordOfBytes front).toNat * 256 + b.toNat < 256 ^ (front.length + 1) := by
      rw [Nat.pow_succ]
      omega
    have hroom : 256 ^ (front.length + 1) ≤ UInt64.size := Nat.pow_le_pow_right (by decide) h
    rw [wordOfBytes_append_singleton, toNat_mul_add_byte (Nat.lt_of_lt_of_le hnext hroom),
      List.foldl_append, ← hvalue]
    exact ⟨rfl, hnext⟩

theorem toNat_pos (hm : modulus ≠ 0) : 0 < modulus.toNat :=
  Nat.pos_of_ne_zero fun h => hm (UInt64.toNat_inj.mp h)

/-- The number of a target is the remainder of the hash, taken in 64 bits. -/
theorem shard_eq (text : String) (hm : modulus ≠ 0) :
    shard text modulus = (hashOf text % modulus).toNat := by
  have hlength : ((Digest.md5 text.toUTF8.toList).drop 8).length ≤ 8 := by
    rw [List.length_drop, length_md5]
  rw [UInt64.toNat_mod, hashOf, (toNat_wordOfBytes hlength).1, shard,
    Nat.max_eq_left (toNat_pos hm)]

theorem shard_lt (text : String) (hm : modulus ≠ 0) : shard text modulus < modulus.toNat := by
  rw [shard_eq text hm, UInt64.toNat_mod]
  exact Nat.mod_lt _ (toNat_pos hm)

/-! ## Numbers as patterns -/

theorem literal_eq_self {s : String} (h : ∀ c ∈ s.toList, isPatternChar c = false) :
    literal s = s := by
  rw [← String.toList_inj, Regex.toList_literal, Regex.escaped_of_plain h]

theorem isPatternChar_of_isDigit {c : Char} (h : c.isDigit = true) : isPatternChar c = false := by
  rw [← Bool.not_eq_true, isPatternChar, List.contains_iff_mem]
  intro hmem
  have hall : ("\\.+*?()|[]\x7b\x7d^$".toList.any Char.isDigit) = false := by decide
  exact List.any_eq_false.mp hall c hmem h

theorem foldl_size_le {ps : List Regex.Part} {bound : Nat} (h : ∀ p ∈ ps, p.size ≤ bound)
    (n : Nat) :
    ps.foldl (fun n p => n + p.size) n ≤ n + bound * ps.length := by
  induction ps generalizing n with
  | nil => exact Nat.le_refl n
  | cons p rest ih =>
    obtain ⟨hp, hrest⟩ := List.forall_mem_cons.mp h
    calc rest.foldl (fun n p => n + p.size) (n + p.size)
      _ ≤ n + p.size + bound * rest.length := ih hrest _
      _ ≤ n + bound * (rest.length + 1) := by
        rw [Nat.mul_succ]
        omega

/-- The room that a literal pattern needs is bounded by its length. -/
theorem literalSize_le (cs : List Char) : Regex.literalSize cs ≤ 128 * cs.length + 96 := by
  have hchar : ∀ p ∈ (cs.map Regex.Part.char).reverse, p.size ≤ 128 := by
    intro p hp
    obtain ⟨c, -, rfl⟩ := List.mem_map.mp (List.mem_reverse.mp hp)
    exact Nat.mul_le_mul_left 32 c.utf8Size_le_four
  have hlength : (cs.map Regex.Part.char).reverse.length = cs.length := by
    rw [List.length_reverse, List.length_map]
  rw [Regex.literalSize, ← hlength]
  generalize (cs.map Regex.Part.char).reverse = ps at hchar
  match ps with
  | [] => exact Nat.le_refl 96
  | [p] =>
    have hp : p.size ≤ 128 := hchar p List.mem_cons_self
    exact Nat.add_le_add hp (by decide : 64 ≤ 96)
  | p :: q :: rest =>
    have hsum := foldl_size_le hchar 0
    rw [Nat.zero_add] at hsum
    exact Nat.add_le_add hsum (by decide : 64 ≤ 96)

/-- A number below 2^64 is a pattern that matches its own decimal text only. -/
theorem exists_anchored?_toString {n : Nat} (h : n < UInt64.size) :
    ∃ regex, Regex.anchored? (toString n) = some regex ∧
      ∀ text, regex.isMatch text = true ↔ text = toString n := by
  have htext : (toString n).toList = Nat.toDigits 10 n := Nat.toList_repr
  have hplain : literal (toString n) = toString n := by
    refine literal_eq_self fun c hc => isPatternChar_of_isDigit ?_
    rw [htext] at hc
    exact Duration.isDigit_of_mem_toDigits hc
  have hdigits : (toString n).toList.length ≤ 20 := by
    rw [htext, Nat.length_toDigits_le_iff (by decide) (by decide)]
    exact Nat.lt_trans h (by decide)
  have hsize : Regex.literalSize (toString n).toList ≤ Regex.sizeLimit := by
    have := literalSize_le (toString n).toList
    have hlimit : 128 * 20 + 96 ≤ Regex.sizeLimit := by decide
    omega
  obtain ⟨regex, hread, hmatch⟩ : ∃ regex, Regex.anchored? (literal (toString n)) = some regex ∧
      ∀ text, regex.isMatch text = true ↔ text = toString n := by
    have hread := Regex.anchored?_literal (toString n)
    rw [if_neg (Nat.not_lt.mpr hsize)] at hread
    exact ⟨_, hread, Regex.isMatch_literal_iff hread⟩
  rw [hplain] at hread
  exact ⟨regex, hread, hmatch⟩

theorem toString_inj_iff {m n : Nat} : toString m = toString n ↔ m = n := by
  constructor
  · intro h
    have hdigits : Nat.toDigits 10 m = Nat.toDigits 10 n := by
      rw [← Nat.toList_repr, ← Nat.toList_repr]
      exact congrArg String.toList h
    rw [← Duration.natOfDigits_toDigits m, hdigits, Duration.natOfDigits_toDigits]
  · rintro rfl
    rfl

theorem toString_ne_empty (n : Nat) : toString n ≠ "" := by
  intro h
  have hdigits : (toString n).toList = Nat.toDigits 10 n := Nat.toList_repr
  rw [h] at hdigits
  exact Duration.toDigits_ne_nil n hdigits.symm

/-! ## Collectors -/

/-- The rules of the collector with a number: hash, and keep what has this number. -/
def shardRules (r : Rule) (number : Nat) : List Rule :=
  [r, .keep [r.targetLabel] (toString number)]

/-- What rules make of targets, where they keep them. -/
def scraped (rules : List Rule) (targets : List Labels) : List Labels :=
  targets.filterMap fun ls => (run ls rules).toOption.join

/-- The labels of a target with its number among them. -/
def Rule.numbered (r : Rule) (ls : Labels) : Labels :=
  ls.insert r.targetLabel (toString (shard (r.source ls) r.modulus))

/-- A collector keeps a target exactly if it has its number, and writes nothing but this number. -/
theorem run_shardRules (ha : r.action = .hashMod) (hr : r.IsReadable) (ls : Labels)
    {number : Nat} (hnumber : number < r.modulus.toNat) :
    run ls (shardRules r number) =
      .ok (if shard (r.source ls) r.modulus = number then some (r.numbered ls) else none) := by
  obtain ⟨regex, hregex⟩ := hr
  obtain ⟨own, hown, hmatch⟩ :=
    exists_anchored?_toString (Nat.lt_trans hnumber r.modulus.toNat_lt_size)
  have hread : ∀ s ∈ shardRules r number, s.IsReadable :=
    List.forall_mem_cons.mpr ⟨⟨regex, hregex⟩, List.forall_mem_singleton.mpr ⟨own, hown⟩⟩
  have hhash : r.step ls = some (r.numbered ls) := by
    rw [step_eq_apply hregex, Rule.apply, ha]
    exact congrArg some (if_neg (toString_ne_empty _))
  have hvalue : value (r.numbered ls) r.targetLabel = toString (shard (r.source ls) r.modulus) := by
    rw [value, Rule.numbered, Dict.get?_insert, if_pos rfl, Option.getD_some]
  rw [run_eq_pass hread, shardRules, pass_cons, hhash, Option.bind_some, pass_cons,
    step_keep hown, hvalue]
  simp only [hmatch, toString_inj_iff]
  split <;> rfl

theorem scraped_shardRules (ha : r.action = .hashMod) (hr : r.IsReadable)
    {number : Nat} (hnumber : number < r.modulus.toNat) (targets : List Labels) :
    scraped (shardRules r number) targets =
      (targets.filter fun ls => shard (r.source ls) r.modulus = number).map r.numbered := by
  induction targets with
  | nil => rfl
  | cons ls rest ih =>
    rw [scraped, List.filterMap_cons, ← scraped, ih, run_shardRules ha hr ls hnumber,
      List.filter_cons]
    by_cases hown : shard (r.source ls) r.modulus = number
    · rw [if_pos hown, if_pos (decide_eq_true hown)]
      rfl
    · rw [if_neg hown, if_neg (by simpa using hown)]
      rfl

theorem flatMap_range_ite {α : Type} (x : α) (k bound : Nat) :
    ((List.range bound).flatMap fun i => if k = i then [x] else []) =
      if k < bound then [x] else [] := by
  induction bound with
  | zero => rfl
  | succ bound ih =>
    rw [List.range_succ, List.flatMap_append, ih, List.flatMap_singleton]
    by_cases hk : k = bound
    · simp [hk]
    · have hlt : k < bound + 1 ↔ k < bound := by omega
      simp [hk, hlt]

/-- Items are put together again from those with each key below a bound. The induction is on the
items: each comes in with one key. -/
theorem flatMap_filter_perm {α : Type} {key : α → Nat} {bound : Nat} (hkey : ∀ a, key a < bound)
    (items : List α) :
    ((List.range bound).flatMap fun k => items.filter fun a => key a = k).Perm items := by
  induction items with
  | nil => simp
  | cons a rest ih =>
    have hsplit : ∀ k, ((a :: rest).filter fun a => key a = k) =
        (if key a = k then [a] else []) ++ rest.filter fun a => key a = k := by
      intro k
      rw [List.filter_cons]
      by_cases hk : key a = k <;> simp [hk]
    simp only [hsplit]
    refine (List.flatMap_append_perm _ _ _).symm.trans ?_
    rw [flatMap_range_ite, if_pos (hkey a)]
    exact ih.cons a

/-- Collectors that hash alike and keep one number each, from zero to the modulus, share all targets
among them: each target is kept by exactly one of them. Which one this is depends on nothing but the
joined values that are read, and only the target label is changed. The name of this label and the
regex of the rule do not matter, as long as the regex can be read. -/
theorem shards_partition_targets (ha : r.action = .hashMod) (hm : r.modulus ≠ 0)
    (hr : r.IsReadable) :
    (∀ text, shard text r.modulus = (hashOf text % r.modulus).toNat) ∧
    (∀ ls, ∃! number, number < r.modulus.toNat ∧
      ∃ out, run ls (shardRules r number) = .ok (some out)) ∧
    (∀ ls number, number < r.modulus.toNat → run ls (shardRules r number) =
      .ok (if shard (r.source ls) r.modulus = number then some (r.numbered ls) else none)) ∧
    (∀ ls, (r.numbered ls).get? r.targetLabel = some (toString (shard (r.source ls) r.modulus)) ∧
      ∀ l, l ≠ r.targetLabel → (r.numbered ls).get? l = ls.get? l) ∧
    ∀ targets, ((List.range r.modulus.toNat).flatMap fun number =>
      scraped (shardRules r number) targets).Perm (targets.map r.numbered) := by
  have hlt : ∀ ls, shard (r.source ls) r.modulus < r.modulus.toNat := fun ls => shard_lt _ hm
  refine ⟨fun text => shard_eq text hm, fun ls => ?_, fun ls _ => run_shardRules ha hr ls,
    fun ls => ⟨?_, fun l hl => ?_⟩, fun targets => ?_⟩
  · refine ⟨_, ⟨hlt ls, r.numbered ls, ?_⟩, ?_⟩
    · rw [run_shardRules ha hr ls (hlt ls), if_pos rfl]
    · rintro number ⟨hnumber, out, hout⟩
      rw [run_shardRules ha hr ls hnumber] at hout
      split at hout
      · rename_i hown
        exact hown.symm
      · cases hout
  · rw [Rule.numbered, Dict.get?_insert, if_pos rfl]
  · rw [Rule.numbered, Dict.get?_insert, if_neg hl]
  · have hscraped : ((List.range r.modulus.toNat).flatMap fun number =>
        scraped (shardRules r number) targets) =
        ((List.range r.modulus.toNat).flatMap fun number =>
          targets.filter fun ls => shard (r.source ls) r.modulus = number).map r.numbered := by
      rw [List.map_flatMap]
      exact List.flatMap_congr fun number hmem =>
        scraped_shardRules ha hr (List.mem_range.mp hmem) targets
    rw [hscraped]
    exact (flatMap_filter_perm hlt targets).map r.numbered

end Relabel

namespace Sample

open Relabel

/-- Shares targets among eleven collectors by their addresses. -/
def byAddress : Rule :=
  { sourceLabels := [Label.address], modulus := 11, targetLabel := "shard", action := .hashMod }

def targetAt (address : String) : Labels := .ofList [(Label.address, address)]

/-- The number zero is written and not taken for an empty value, and one is not found in ten. -/
theorem run_byAddress :
    (byAddress.action = .hashMod ∧ byAddress.modulus ≠ 0 ∧ byAddress.IsReadable) ∧
    run (targetAt "10.0.0.2:9090") (shardRules byAddress 0) =
      .ok (some ((targetAt "10.0.0.2:9090").insert "shard" "0")) ∧
    run (targetAt "10.0.0.16:9090") (shardRules byAddress 10) =
      .ok (some ((targetAt "10.0.0.16:9090").insert "shard" "10")) ∧
    run (targetAt "10.0.0.16:9090") (shardRules byAddress 1) = .ok none := by
  have hread : byAddress.IsReadable := isReadable_of_regex_eq rfl
  obtain ⟨-, -, hrun, -⟩ := shards_partition_targets (r := byAddress) rfl (by decide) hread
  refine ⟨⟨rfl, by decide, hread⟩, ?_, ?_, ?_⟩
  · rw [hrun _ 0 (by decide)]
    decide +kernel
  · rw [hrun _ 10 (by decide)]
    decide +kernel
  · rw [hrun _ 1 (by decide)]
    decide +kernel

end Sample

end ScrapeJobs
