import Mathlib.Logic.Function.Basic
import ScrapeJobs.Proofs.Secret

/-!
# Pools at work

References are resolved in any number of pools, and pools are merged into one another
(`SecretPools.step`). What a step does to a pool only adds to it (`SecretPools.growsTo_step`), unless
the step gives the pool away, and an entry stands under its own token in every pool
(`SecretPools.keyed_step`). By induction over the steps the same holds of runs; with the laws of
merging, in which the pool that is merged into comes first, this makes `SecretPools.after_steps`.
-/

namespace ScrapeJobs

/-! ## Maps that grow -/

namespace Dict

variable {α : Type} {d e f : Dict α} {k : String} {v : α}

/-- A map has all entries of another one, unchanged. -/
def GrowsTo (d e : Dict α) : Prop := ∀ k v, d.get? k = some v → e.get? k = some v

theorem GrowsTo.refl (d : Dict α) : d.GrowsTo d := fun _ _ h => h

theorem GrowsTo.trans (hde : d.GrowsTo e) (hef : e.GrowsTo f) : d.GrowsTo f :=
  fun k v h => hef k v (hde k v h)

theorem growsTo_insertNew (d : Dict α) (k : String) (v : α) : d.GrowsTo (d.insertNew k v) := by
  intro k' w hw
  rw [get?_insertNew, hw, Option.some_or]

theorem growsTo_union (d e : Dict α) : d.GrowsTo (d.union e) := by
  intro k v hv
  rw [get?_union, hv, Option.some_or]

/-- Maps are merged to the union of their keys. -/
theorem mem_keys_union_iff : k ∈ (d.union e).keys ↔ k ∈ d.keys ∨ k ∈ e.keys := by
  rw [mem_keys_iff, mem_keys_iff, mem_keys_iff, get?_union]
  cases d.get? k with
  | none => simp
  | some v => simp

theorem union_self (d : Dict α) : d.union d = d := by
  refine ext_get? fun k => ?_
  rw [get?_union, Option.or_self]

theorem union_assoc (d e f : Dict α) : (d.union e).union f = d.union (e.union f) := by
  refine ext_get? fun k => ?_
  rw [get?_union, get?_union, get?_union, get?_union, Option.or_assoc]

end Dict

/-! ## One pool -/

namespace SecretPool

variable {pool other : SecretPool} {scope : SecretScope}

/-- Every entry stands under its own token. -/
def Keyed (pool : SecretPool) : Prop := ∀ t k, pool.get? t = some k → k.token = t

theorem keyed_empty : Keyed ∅ := by
  intro t k hk
  rw [Dict.get?_empty] at hk
  cases hk

theorem Keyed.add (h : pool.Keyed) (s : SecretKey) : (pool.add s).Keyed := by
  intro t k hk
  rw [SecretPool.add, Dict.get?_insertNew, Option.or_eq_some_iff] at hk
  rcases hk with hk | ⟨-, hk⟩
  · exact h t k hk
  · split at hk
    · rename_i ht
      cases hk
      exact ht.symm
    · cases hk

theorem Keyed.union (h : pool.Keyed) (h' : other.Keyed) : Keyed (pool.union other) := by
  intro t k hk
  rw [Dict.get?_union, Option.or_eq_some_iff] at hk
  rcases hk with hk | ⟨-, hk⟩
  · exact h t k hk
  · exact h' t k hk

/-- No key of a secret has the token that stands for no reference. -/
theorem Keyed.empty_notMem_keys (h : pool.Keyed) : "" ∉ pool.keys := by
  intro hmem
  obtain ⟨k, hk⟩ := Dict.mem_keys_iff.mp hmem
  exact SecretKey.token_ne_empty k (h "" k hk)

/-- The token of a key that is added is taken, by the key itself if it was free. -/
theorem get?_add_token (pool : SecretPool) (s : SecretKey) :
    (pool.add s).get? s.token = some ((pool.get? s.token).getD s) := by
  rw [add, Dict.get?_insertNew, if_pos rfl]
  cases pool.get? s.token with
  | none => rfl
  | some k => rfl

/-- What resolving comes to. -/
theorem resolve_cases (pool : SecretPool) (scope : SecretScope) (ref : Option SecretRef) :
    (ref = none ∧ pool.resolve scope ref = (.ok "", pool)) ∨
      (∃ r violation, ref = some r ∧ r.resolve scope = .error violation ∧
        pool.resolve scope ref = (.error violation, pool)) ∨
      ∃ r s, ref = some r ∧ r.resolve scope = .ok s ∧
        pool.resolve scope ref = (.ok s.token, pool.add s) := by
  cases ref with
  | none => exact .inl ⟨rfl, rfl⟩
  | some r =>
    right
    cases hr : r.resolve scope with
    | error violation =>
      refine .inl ⟨r, violation, rfl, hr, ?_⟩
      rw [resolve, hr]
    | ok s =>
      refine .inr ⟨r, s, rfl, hr, ?_⟩
      rw [resolve, hr]

/-- A reference that is refused leaves the pool as it is. -/
theorem eq_of_resolve_error {ref : Option SecretRef} {violation : SecretScope.Violation}
    (h : pool.resolve scope ref = (.error violation, other)) : other = pool := by
  rcases resolve_cases pool scope ref with
    ⟨-, hok⟩ | ⟨r, violation', -, -, herror⟩ | ⟨r, s, -, -, hok⟩
  · cases hok.symm.trans h
  · cases herror.symm.trans h
    rfl
  · cases hok.symm.trans h

/-- The token of a reference that is resolved is in the pool from then on. -/
theorem get?_of_resolve_ok {r : SecretRef} {token : String}
    (h : pool.resolve scope (some r) = (.ok token, other)) :
    ∃ k, r.resolve scope = .ok k ∧ token = k.token ∧
      other.get? token = some ((pool.get? token).getD k) := by
  rcases resolve_cases pool scope (some r) with
    ⟨hnone, -⟩ | ⟨r', violation, -, -, herror⟩ | ⟨r', k, hr, hk, hok⟩
  · cases hnone
  · cases herror.symm.trans h
  · cases hr
    cases hok.symm.trans h
    exact ⟨k, hk, rfl, get?_add_token pool k⟩

theorem growsTo_resolve (pool : SecretPool) (scope : SecretScope) (ref : Option SecretRef) :
    pool.GrowsTo (pool.resolve scope ref).2 := by
  rcases resolve_cases pool scope ref with
    ⟨-, hrun⟩ | ⟨r, violation, -, -, hrun⟩ | ⟨r, s, -, -, hrun⟩
  · rw [hrun]
    exact .refl pool
  · rw [hrun]
    exact .refl pool
  · rw [hrun]
    exact Dict.growsTo_insertNew pool s.token s

theorem Keyed.resolve (h : pool.Keyed) (scope : SecretScope) (ref : Option SecretRef) :
    (pool.resolve scope ref).2.Keyed := by
  rcases resolve_cases pool scope ref with
    ⟨-, hrun⟩ | ⟨r, violation, -, -, hrun⟩ | ⟨r, s, -, -, hrun⟩
  · rw [hrun]
    exact h
  · rw [hrun]
    exact h
  · rw [hrun]
    exact h.add s

end SecretPool

/-! ## Any number of pools -/

/-- Pools by their numbers. -/
abbrev SecretPools := Nat → SecretPool

namespace SecretPools

/-- An operation on one of the pools. -/
inductive Step where
  | resolve (pool : Nat) (scope : SecretScope) (ref : Option SecretRef)
  /-- Merges a copy of the source. -/
  | merge (pool source : Nat)
  /-- Merges the source itself, which leaves an empty pool in its place. -/
  | drain (pool source : Nat)

/-- The pool that a step acts on. -/
def Step.pool : Step → Nat
  | .resolve i _ _ => i
  | .merge i _ => i
  | .drain i _ => i

/-- A step does not give the pool away. -/
def Step.Spares (i : Nat) : Step → Prop
  | .resolve _ _ _ => True
  | .merge _ _ => True
  | .drain into source => source = i → into = i

def step (pools : SecretPools) : Step → SecretPools
  | .resolve i scope ref => Function.update pools i ((pools i).resolve scope ref).2
  | .merge i j => Function.update pools i ((pools i).union (pools j))
  | .drain i j => Function.update (Function.update pools j ∅) i ((pools i).union (pools j))

/-- The pools after steps. -/
def after (pools : SecretPools) (steps : List Step) : SecretPools := steps.foldl step pools

/-- Pools before the first step. -/
def start : SecretPools := fun _ => ∅

variable {pools : SecretPools} {i : Nat} {s : Step} {steps : List Step}

/-- The pool that a step acts on grows. -/
theorem growsTo_step_pool (pools : SecretPools) (s : Step) :
    (pools s.pool).GrowsTo (pools.step s s.pool) := by
  cases s with
  | resolve i scope ref =>
    rw [step, Step.pool, Function.update_self]
    exact SecretPool.growsTo_resolve (pools i) scope ref
  | merge i j =>
    rw [step, Step.pool, Function.update_self]
    exact Dict.growsTo_union (pools i) (pools j)
  | drain i j =>
    rw [step, Step.pool, Function.update_self]
    exact Dict.growsTo_union (pools i) (pools j)

/-- Another pool stays as it is unless it is given away. -/
theorem step_of_ne (hi : i ≠ s.pool) (hspares : s.Spares i) : pools.step s i = pools i := by
  cases s with
  | resolve j scope ref => exact Function.update_of_ne hi _ _
  | merge j k => exact Function.update_of_ne hi _ _
  | drain j k =>
    have hk : i ≠ k := by
      intro hk
      exact hi (hspares hk.symm).symm
    exact (Function.update_of_ne hi _ _).trans (Function.update_of_ne hk _ _)

theorem growsTo_step (pools : SecretPools) (h : s.Spares i) :
    (pools i).GrowsTo (pools.step s i) := by
  by_cases hi : i = s.pool
  · rw [hi]
    exact growsTo_step_pool pools s
  · rw [step_of_ne hi h]
    exact .refl (pools i)

theorem growsTo_after (pools : SecretPools) (h : ∀ s ∈ steps, s.Spares i) :
    (pools i).GrowsTo (pools.after steps i) := by
  induction steps generalizing pools with
  | nil => exact .refl (pools i)
  | cons s rest ih =>
    have hstep : (pools i).GrowsTo (pools.step s i) :=
      growsTo_step pools (h s List.mem_cons_self)
    have hrest : (pools.step s i).GrowsTo ((pools.step s).after rest i) :=
      ih (pools.step s) fun s' hs' => h s' (List.mem_cons_of_mem s hs')
    exact hstep.trans hrest

theorem keyed_update (h : ∀ i, (pools i).Keyed) {pool : SecretPool} (hpool : pool.Keyed) (j : Nat) :
    ∀ i, (Function.update pools j pool i).Keyed := by
  intro i
  by_cases hi : i = j
  · rw [hi, Function.update_self]
    exact hpool
  · rw [Function.update_of_ne hi]
    exact h i

theorem keyed_step (h : ∀ i, (pools i).Keyed) (s : Step) : ∀ i, (pools.step s i).Keyed := by
  cases s with
  | resolve i scope ref => exact keyed_update h ((h i).resolve scope ref) i
  | merge i j => exact keyed_update h ((h i).union (h j)) i
  | drain i j =>
    have hdrained : ∀ k, (Function.update pools j ∅ k).Keyed :=
      keyed_update h SecretPool.keyed_empty j
    exact keyed_update hdrained ((h i).union (h j)) i

theorem keyed_after (h : ∀ i, (pools i).Keyed) (steps : List Step) :
    ∀ i, (pools.after steps i).Keyed := by
  induction steps generalizing pools with
  | nil => exact h
  | cons s rest ih => exact ih (keyed_step h s)

/-- After any steps every entry of a pool stands under its own token. The next step keeps the entries
of the pool that it acts on, and entries stay for as long as their pool is not given away. A
reference that is refused leaves the pool as it is, as does none; the token of any other one is in
the pool from then on. Pools are merged to the union of their keys, with the entries of the first
one where both have the key, and merging is idempotent and associative. -/
theorem after_steps (steps : List Step) :
    let pools := start.after steps
    (∀ i t k, (pools i).get? t = some k → k.token = t) ∧
      (∀ s t k, (pools s.pool).get? t = some k → (pools.step s s.pool).get? t = some k) ∧
      (∀ s i, i ≠ s.pool → s.Spares i → pools.step s i = pools i) ∧
      (∀ i later, (∀ s ∈ later, s.Spares i) → ∀ t k, (pools i).get? t = some k →
        (start.after (steps ++ later) i).get? t = some k) ∧
      (∀ i scope ref violation pool, (pools i).resolve scope ref = (.error violation, pool) →
        pool = pools i) ∧
      (∀ i scope, (pools i).resolve scope none = (.ok "", pools i) ∧ "" ∉ (pools i).keys) ∧
      (∀ i scope r token pool, (pools i).resolve scope (some r) = (.ok token, pool) →
        token ∈ pool.keys ∧ ∃ k, r.resolve scope = .ok k ∧ token = k.token ∧
          pool.get? token = some (((pools i).get? token).getD k)) ∧
      (∀ i j, ((pools i).union (pools i) = pools i) ∧
        (∀ t, t ∈ ((pools i).union (pools j)).keys ↔ t ∈ (pools i).keys ∨ t ∈ (pools j).keys) ∧
        (∀ t, ((pools i).union (pools j)).get? t = ((pools i).get? t).or ((pools j).get? t)) ∧
        ((pools i).union (pools j)).union (pools j) = (pools i).union (pools j)) ∧
      ∀ i j l, ((pools i).union (pools j)).union (pools l) =
        (pools i).union ((pools j).union (pools l)) := by
  intro pools
  have hkeyed : ∀ i, (pools i).Keyed := keyed_after (fun _ => SecretPool.keyed_empty) steps
  refine ⟨hkeyed, growsTo_step_pool pools, fun s i => step_of_ne, ?_, ?_, ?_, ?_, ?_, ?_⟩
  · intro i later hlater
    have hsplit : start.after (steps ++ later) = pools.after later := List.foldl_append
    rw [hsplit]
    exact growsTo_after pools hlater
  · intro i scope ref violation pool
    exact SecretPool.eq_of_resolve_error
  · intro i scope
    exact ⟨rfl, (hkeyed i).empty_notMem_keys⟩
  · intro i scope r token pool hrun
    obtain ⟨k, hk, htoken, hentry⟩ := SecretPool.get?_of_resolve_ok hrun
    exact ⟨Dict.mem_keys_iff.mpr ⟨_, hentry⟩, k, hk, htoken, hentry⟩
  · intro i j
    refine ⟨Dict.union_self (pools i), fun t => Dict.mem_keys_union_iff,
      Dict.get?_union (pools i) (pools j), ?_⟩
    rw [Dict.union_assoc, Dict.union_self]
  · intro i j l
    exact Dict.union_assoc (pools i) (pools j) (pools l)

end SecretPools

namespace Sample

/-- The pools get different keys of secrets with one token. -/
def clashingSteps : List SecretPools.Step :=
  [.resolve 0 (.own "shop") (some ⟨"db/read", "token", none⟩),
    .resolve 1 (.own "shop") (some ⟨"db", "read/token", none⟩)]

/-- The pool that is merged into keeps its own key. -/
theorem merge_clashing :
    let pools := SecretPools.start.after clashingSteps
    (pools 0).get? "shop/db/read/token" = some ⟨"shop", "db/read", "token"⟩ ∧
      (pools 1).get? "shop/db/read/token" = some ⟨"shop", "db", "read/token"⟩ ∧
      (pools.step (.merge 0 1) 0).get? "shop/db/read/token" = some ⟨"shop", "db/read", "token"⟩ := by
  intro pools
  have hfirst : (pools 0).get? "shop/db/read/token" = some ⟨"shop", "db/read", "token"⟩ := by
    decide +kernel
  have hsecond : (pools 1).get? "shop/db/read/token" = some ⟨"shop", "db", "read/token"⟩ := by
    decide +kernel
  obtain ⟨-, hkeeps, -⟩ := SecretPools.after_steps clashingSteps
  exact ⟨hfirst, hsecond, hkeeps (.merge 0 1) _ _ hfirst⟩

end Sample

end ScrapeJobs
