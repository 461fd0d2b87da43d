import ScrapeJobs.Proofs.Labels
import ScrapeJobs.Secret

/-!
# Pools of secret keys

A pool gets secret keys one after the other (`SecretPool.addAll`) and keeps the first one of each
token, so a look-up finds the first key that has the token (`SecretPool.get?_addAll`). Pools that
are merged have the keys of the first one and then those of the second one
(`SecretPool.union_ofKeys`).
-/

namespace ScrapeJobs

/-! ## Maps that keep what they have -/

namespace Dict

variable {α : Type}

theorem get?_insertNew (d : Dict α) (k : String) (v : α) (k' : String) :
    (d.insertNew k v).get? k' = (d.get? k').or (if k' = k then some v else none) := by
  unfold insertNew contains
  split
  · rename_i htaken
    by_cases hk : k' = k
    · obtain ⟨w, hw⟩ := Option.isSome_iff_exists.mp htaken
      rw [hk, hw, Option.some_or]
    · rw [if_neg hk, Option.or_none]
  · rename_i hfree
    have hnone : d.get? k = none := Option.not_isSome_iff_eq_none.mp hfree
    rw [get?_insert]
    by_cases hk : k' = k
    · rw [if_pos hk, if_pos hk, hk, hnone, Option.none_or]
    · rw [if_neg hk, if_neg hk, Option.or_none]

theorem get?_foldl_insertNew (l : List (String × α)) (d : Dict α) (k : String) :
    (l.foldl (fun d e => d.insertNew e.1 e.2) d).get? k = (d.get? k).or (l.lookup k) := by
  induction l generalizing d with
  | nil => rw [List.foldl_nil, List.lookup_nil, Option.or_none]
  | cons e rest ih =>
    have hlookup : (e :: rest).lookup k =
        (if k = e.1 then some e.2 else none).or (rest.lookup k) := by
      rw [lookup_cons_eq]
      split
      · rfl
      · rfl
    rw [List.foldl_cons, ih, get?_insertNew, Option.or_assoc, hlookup]

/-- What a map has counts before what is merged into it. -/
theorem get?_union (d e : Dict α) (k : String) :
    (d.union e).get? k = (d.get? k).or (e.get? k) :=
  get?_foldl_insertNew e.entries d k

theorem mem_keys_iff {d : Dict α} {k : String} : k ∈ d.keys ↔ ∃ v, d.get? k = some v := by
  constructor
  · intro hk
    cases hv : d.get? k with
    | some v => exact ⟨v, rfl⟩
    | none =>
      obtain ⟨e, he, rfl⟩ := List.mem_map.mp hk
      have hne := List.lookup_eq_none_iff.mp hv e he
      simp at hne
  · rintro ⟨v, hv⟩
    refine Classical.byContradiction fun hk => ?_
    have hnone : d.get? k = none := lookup_eq_none_of_notMem hk
    rw [hv] at hnone
    cases hnone

end Dict

/-! ## Tokens -/

theorem SecretKey.token_ne_empty (k : SecretKey) : k.token ≠ "" := by
  intro hempty
  have hlist := congrArg String.toList hempty
  simp [token] at hlist

/-! ## Pools -/

namespace SecretPool

variable {pool : SecretPool} {ks ks' : List SecretKey} {k : SecretKey} {t : String}

/-- Adds secret keys in order. -/
def addAll (pool : SecretPool) (ks : List SecretKey) : SecretPool := ks.foldl add pool

@[simp] theorem addAll_nil (pool : SecretPool) : pool.addAll [] = pool := rfl

theorem addAll_append (pool : SecretPool) (ks ks' : List SecretKey) :
    pool.addAll (ks ++ ks') = (pool.addAll ks).addAll ks' := List.foldl_append

/-- A pool has what it had, and else the first key with the token. -/
theorem get?_addAll (pool : SecretPool) (ks : List SecretKey) (t : String) :
    (pool.addAll ks).get? t = (pool.get? t).or (ks.find? (·.token = t)) := by
  induction ks generalizing pool with
  | nil => rw [addAll_nil, List.find?_nil, Option.or_none]
  | cons k rest ih =>
    have hfind : (k :: rest).find? (·.token = t) =
        (if t = k.token then some k else none).or (rest.find? (·.token = t)) := by
      rw [List.find?_cons]
      by_cases ht : t = k.token
      · simp [ht]
      · simp [ht, Ne.symm ht]
    have hadd : (pool.add k).get? t = (pool.get? t).or (if t = k.token then some k else none) :=
      Dict.get?_insertNew pool k.token k t
    have hrest : (pool.addAll (k :: rest)).get? t = ((pool.add k).addAll rest).get? t := rfl
    rw [hrest, ih, hadd, Option.or_assoc, hfind]

/-- The pool of secret keys. -/
def ofKeys (ks : List SecretKey) : SecretPool := addAll ∅ ks

theorem get?_ofKeys (ks : List SecretKey) (t : String) :
    (ofKeys ks).get? t = ks.find? (·.token = t) := by
  rw [ofKeys, get?_addAll, Dict.get?_empty, Option.none_or]

/-- An entry is one of the keys, under its own token. -/
theorem mem_of_get?_ofKeys (h : (ofKeys ks).get? t = some k) : k ∈ ks ∧ k.token = t := by
  rw [get?_ofKeys] at h
  have htoken := List.find?_some h
  exact ⟨List.mem_of_find?_eq_some h, of_decide_eq_true htoken⟩

theorem mem_keys_ofKeys_iff : t ∈ (ofKeys ks).keys ↔ ∃ k ∈ ks, k.token = t := by
  rw [Dict.mem_keys_iff]
  constructor
  · rintro ⟨k, hk⟩
    exact ⟨k, mem_of_get?_ofKeys hk⟩
  · rintro ⟨k, hk, htoken⟩
    have hfound : (ks.find? (·.token = t)).isSome := by
      rw [List.find?_isSome]
      exact ⟨k, hk, decide_eq_true htoken⟩
    obtain ⟨first, hfirst⟩ := Option.isSome_iff_exists.mp hfound
    exact ⟨first, (get?_ofKeys ks t).trans hfirst⟩

/-- To merge a pool is to add its keys. -/
theorem union_ofKeys (pool : SecretPool) (ks : List SecretKey) :
    pool.union (ofKeys ks) = pool.addAll ks := by
  refine Dict.ext_get? fun t => ?_
  rw [Dict.get?_union, get?_ofKeys, get?_addAll]

end SecretPool

end ScrapeJobs
