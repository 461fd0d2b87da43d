import Mathlib.Data.List.Forall2

/-!
# Steps that may fail

A sequence of steps succeeds only if each step does. The lemmas take the success of a whole
apart into that of its parts, for plain results (`bind_eq_ok`, `mapM_eq_ok`) and for steps
with a state (`run_bind_eq_ok`). What all failures of a whole have in common, those of its parts
have (`Fails`, `RunFails`).
-/

namespace ScrapeJobs.Outcome

variable {ε ε' σ α β : Type}

theorem ok_bind (a : α) (f : α → Except ε β) : (Except.ok a >>= f) = f a := rfl

theorem bind_eq_ok {x : Except ε α} {f : α → Except ε β} {b : β} (h : (x >>= f) = .ok b) :
    ∃ a, x = .ok a ∧ f a = .ok b := by
  cases x with
  | error e => cases h
  | ok a => exact ⟨a, rfl, h⟩

/-- Two checks one after the other succeed if both do. -/
theorem bind_eq_ok_unit_iff {x y : Except ε Unit} :
    (x >>= fun _ => y) = .ok () ↔ x = .ok () ∧ y = .ok () := by
  constructor
  · intro h
    obtain ⟨u, hx, hy⟩ := bind_eq_ok h
    exact ⟨hx, hy⟩
  · rintro ⟨rfl, hy⟩
    exact hy

theorem mapError_eq_ok {x : Except ε α} {f : ε → ε'} {a : α} (h : x.mapError f = .ok a) :
    x = .ok a := by
  cases x with
  | error e => cases h
  | ok b =>
    cases h
    rfl

theorem map_eq_ok {x : Except ε α} {f : α → β} {b : β} (h : x.map f = .ok b) :
    ∃ a, x = .ok a ∧ f a = b := by
  cases x with
  | error e => cases h
  | ok a =>
    cases h
    exact ⟨a, rfl, rfl⟩

theorem map_eq_error {x : Except ε α} {f : α → β} {e : ε} (h : x.map f = .error e) :
    x = .error e := by
  cases x with
  | error e' =>
    cases h
    rfl
  | ok a => cases h

theorem eq_ok_of_toOption {x : Except ε α} {a : α} (h : x.toOption = some a) : x = .ok a := by
  cases x with
  | error e => cases h
  | ok b =>
    cases h
    rfl

theorem mapM_eq_ok {f : α → Except ε β} {xs : List α} {ys : List β}
    (h : xs.mapM f = .ok ys) : List.Forall₂ (fun x y => f x = .ok y) xs ys := by
  induction xs generalizing ys with
  | nil =>
    cases h
    exact .nil
  | cons x rest ih =>
    rw [List.mapM_cons] at h
    obtain ⟨y, hy, h⟩ := bind_eq_ok h
    obtain ⟨ys', hys, h⟩ := bind_eq_ok h
    cases h
    exact .cons hy (ih hys)

theorem rel_of_getElem? {R : α → β → Prop} {xs : List α} {ys : List β}
    (h : List.Forall₂ R xs ys) {i : Nat} {x : α} {y : β} (hx : xs[i]? = some x)
    (hy : ys[i]? = some y) : R x y := by
  obtain ⟨hi, rfl⟩ := List.getElem?_eq_some_iff.mp hx
  obtain ⟨hi', rfl⟩ := List.getElem?_eq_some_iff.mp hy
  exact h.get hi hi'

/-- What stands in the first list has a partner at its place in the second one. -/
theorem exists_rel_of_getElem? {R : α → β → Prop} {xs : List α} {ys : List β}
    (h : List.Forall₂ R xs ys) {i : Nat} {x : α} (hx : xs[i]? = some x) :
    ∃ y, ys[i]? = some y ∧ R x y := by
  have hi : i < ys.length := h.length_eq ▸ (List.getElem?_eq_some_iff.mp hx).1
  have hy : ys[i]? = some ys[i] := List.getElem?_eq_getElem hi
  exact ⟨ys[i], hy, rel_of_getElem? h hx hy⟩

/-- What stands in the second list has a partner at its place in the first one. -/
theorem exists_getElem?_of_mem {R : α → β → Prop} {xs : List α} {ys : List β}
    (h : List.Forall₂ R xs ys) {y : β} (hy : y ∈ ys) :
    ∃ (i : Nat) (x : α), xs[i]? = some x ∧ ys[i]? = some y := by
  obtain ⟨i, hi, rfl⟩ := List.getElem_of_mem hy
  have hi' : i < xs.length := h.length_eq ▸ hi
  exact ⟨i, xs[i], List.getElem?_eq_getElem hi', List.getElem?_eq_getElem hi⟩

theorem exists_of_mem_mapM {f : α → Except ε β} {xs : List α} {ys : List β}
    (h : xs.mapM f = .ok ys) {y : β} (hy : y ∈ ys) : ∃ x ∈ xs, f x = .ok y := by
  obtain ⟨i, x, hx, hy⟩ := exists_getElem?_of_mem (mapM_eq_ok h) hy
  exact ⟨x, List.mem_of_getElem? hx, rel_of_getElem? (mapM_eq_ok h) hx hy⟩

/-! ## What failures say -/

variable {P : ε → Prop}

/-- Every failure is for a cause with the property. -/
def Fails (x : Except ε α) (P : ε → Prop) : Prop := ∀ e, x = .error e → P e

theorem fails_ok (a : α) : Fails (.ok a : Except ε α) P := by
  intro e he
  cases he

theorem fails_error {e : ε} (h : P e) : Fails (.error e : Except ε α) P := by
  intro e' he
  cases he
  exact h

theorem fails_ite {condition : Prop} [Decidable condition] {e : ε} {x : Except ε α} (he : P e)
    (hx : Fails x P) : Fails (if condition then .error e else x) P := by
  split
  · exact fails_error he
  · exact hx

theorem Fails.mono {x : Except ε α} {Q : ε → Prop} (h : Fails x P) (hPQ : ∀ e, P e → Q e) :
    Fails x Q := fun e he => hPQ e (h e he)

theorem fails_bind {x : Except ε α} {f : α → Except ε β} (hx : Fails x P)
    (hf : ∀ a, Fails (f a) P) : Fails (x >>= f) P := by
  intro e he
  cases h : x with
  | error e' =>
    rw [h] at he
    cases he
    exact hx e h
  | ok a =>
    rw [h] at he
    exact hf a e he

theorem fails_map {x : Except ε α} (f : α → β) (hx : Fails x P) : Fails (x.map f) P := by
  intro e he
  cases x with
  | error e' =>
    cases he
    exact hx e rfl
  | ok a => cases he

theorem fails_mapError {x : Except ε' α} {f : ε' → ε} (hf : ∀ e, P (f e)) :
    Fails (x.mapError f) P := by
  intro e he
  cases x with
  | error e' =>
    cases he
    exact hf e'
  | ok a => cases he

theorem fails_mapM {f : α → Except ε β} (xs : List α) (hf : ∀ a ∈ xs, Fails (f a) P) :
    Fails (xs.mapM f) P := by
  induction xs with
  | nil => exact fails_ok []
  | cons a rest ih =>
    rw [List.mapM_cons]
    apply fails_bind (hf a List.mem_cons_self)
    intro b
    apply fails_bind (ih fun a' ha' => hf a' (List.mem_cons_of_mem _ ha'))
    intro bs
    exact fails_ok (b :: bs)

/-! ## Steps with a state -/

theorem run_bind_eq_ok {x : ExceptT ε (StateM σ) α} {f : α → ExceptT ε (StateM σ) β} {b : β}
    {s t : σ} (h : (x >>= f).run s = (.ok b, t)) :
    ∃ a u, x.run s = (.ok a, u) ∧ (f a).run u = (.ok b, t) := by
  have hbind : (x >>= f).run s = ExceptT.bindCont f (x.run s).1 (x.run s).2 := rfl
  rw [hbind] at h
  rcases hx : x.run s with ⟨_ | a, u⟩
  · rw [hx] at h
    cases h
  · rw [hx] at h
    exact ⟨a, u, rfl, h⟩

theorem run_bind_of_ok {x : ExceptT ε (StateM σ) α} {f : α → ExceptT ε (StateM σ) β} {a : α}
    {s u : σ} (h : x.run s = (.ok a, u)) : (x >>= f).run s = (f a).run u := by
  have hbind : (x >>= f).run s = ExceptT.bindCont f (x.run s).1 (x.run s).2 := rfl
  rw [hbind, h]
  rfl

theorem run_bind_of_error {x : ExceptT ε (StateM σ) α} {f : α → ExceptT ε (StateM σ) β} {e : ε}
    {s u : σ} (h : x.run s = (.error e, u)) : (x >>= f).run s = (.error e, u) := by
  have hbind : (x >>= f).run s = ExceptT.bindCont f (x.run s).1 (x.run s).2 := rfl
  rw [hbind, h]
  rfl

theorem run_pure_eq_ok {a b : α} {s t : σ}
    (h : (pure a : ExceptT ε (StateM σ) α).run s = (.ok b, t)) : a = b := by
  cases h
  rfl

/-- Every failure of a run is for a cause with the property. -/
def RunFails (x : ExceptT ε (StateM σ) α) (P : ε → Prop) : Prop := ∀ s, Fails (x.run s).1 P

theorem runFails_pure (a : α) : RunFails (pure a : ExceptT ε (StateM σ) α) P :=
  fun _ => fails_ok a

theorem runFails_throw {e : ε} (h : P e) : RunFails (throw e : ExceptT ε (StateM σ) α) P :=
  fun _ => fails_error h

theorem runFails_bind {x : ExceptT ε (StateM σ) α} {f : α → ExceptT ε (StateM σ) β}
    (hx : RunFails x P) (hf : ∀ a, RunFails (f a) P) : RunFails (x >>= f) P := by
  intro s e he
  have hbind : (x >>= f).run s = ExceptT.bindCont f (x.run s).1 (x.run s).2 := rfl
  rw [hbind] at he
  rcases hrun : x.run s with ⟨e' | a, u⟩
  · rw [hrun] at he
    cases he
    apply hx s
    rw [hrun]
  · rw [hrun] at he
    exact hf a u e he

end ScrapeJobs.Outcome
