import ScrapeJobs.Proofs.Job.Registry
import ScrapeJobs.Proofs.Labels
import ScrapeJobs.Proofs.Outcome

/-!
# Calls of a registry

A registry is called once for each resource, and a call changes it in place. The names of a call are
collected in a map of their own, which the registry takes over only when all of them have been found
to be new (`Registry.enter`), so that a call that fails leaves the registry as it is. The two maps
together are the one in which `Registry.register` looks names up (`Registry.addAll_of_collect`), and
a call comes to the same as a registration (`Registry.run_enter`).

After any sequence of calls a registry holds the names of the calls that succeeded, in order
(`Registry.holds_after`). From there follows which calls succeed and what the others report
(`Registry.enter_after_calls`).
-/

namespace ScrapeJobs

namespace Registry

open Outcome

variable {names : Registry} {ns : List String} {n : String}

/-- The jobs of a resource by their names. -/
structure Call where
  resource : String
  names : List String

/-! ## In place -/

/-- Looks names up in the registry and among those of the call before them, which are collected
with their places in the batch. -/
def collect (seen : Dict Nat) (size : Nat) :
    Dict Nat → Nat → List String → Except (Nat × String × Nat) (Dict Nat)
  | own, _, [] => .ok own
  | own, i, n :: rest =>
    match (seen.get? n).or (own.get? n) with
    | some first => .error (i, n, first)
    | none => collect seen size (own.insert n (size + i)) (i + 1) rest

/-- Registers the jobs of a resource in place. -/
def enter (call : Call) : ExceptT Rejection (StateM Registry) Unit := do
  let names ← get
  match collect names.seen names.size ∅ 0 call.names with
  | .error (i, n, first) =>
    throw ⟨call.resource, some i, .duplicateJob n first (names.size + i)⟩
  | .ok own =>
    modify fun names => { names with size := names.size + call.names.length }
    modify fun names =>
      { names with seen := own.entries.foldl (fun seen e => seen.insert e.1 e.2) names.seen }

/-- One map has what two others have together, of which no key is in both. -/
structure Joins (seen own both : Dict Nat) : Prop where
  get? : ∀ n, both.get? n = (seen.get? n).or (own.get? n)
  apart : ∀ n, (seen.get? n).isSome → own.get? n = none

namespace Joins

variable {seen own both : Dict Nat}

theorem empty (seen : Dict Nat) : Joins seen ∅ seen where
  get? := fun n => by rw [Dict.get?_empty, Option.or_none]
  apart := fun _ _ => rfl

/-- A name that is new to both maps goes into the second one. -/
theorem insert (h : Joins seen own both) (hnew : both.get? n = none) (k : Nat) :
    Joins seen (own.insert n k) (both.insert n k) := by
  have hseen : seen.get? n = none := by
    rw [h.get?, Option.or_eq_none_iff] at hnew
    exact hnew.1
  constructor
  · intro m
    rw [Dict.get?_insert, Dict.get?_insert]
    by_cases hm : m = n
    · rw [if_pos hm, if_pos hm, hm, hseen, Option.none_or]
    · rw [if_neg hm, if_neg hm, h.get?]
  · intro m hm
    have hne : m ≠ n := by
      rintro rfl
      rw [hseen] at hm
      cases hm
    rw [Dict.get?_insert, if_neg hne]
    exact h.apart m hm

/-- The second map is put into the first one. -/
theorem extend_eq (h : Joins seen own both) :
    own.entries.foldl (fun seen e => seen.insert e.1 e.2) seen = both := by
  refine Dict.ext_get? fun n => ?_
  have hown : own.entries.lookup n = own.get? n := rfl
  rw [Dict.get?_foldl_insert own.nodup_keys, h.get?, hown]
  cases hseen : seen.get? n with
  | none => rw [Option.or_none, Option.none_or]
  | some k =>
    have hnone : own.get? n = none := by
      apply h.apart
      rw [hseen]
      rfl
    rw [hnone, Option.none_or, Option.some_or]

end Joins

/-- Names that are collected beside a registry are taken, or not, as if they were added to it one
by one. -/
theorem addAll_of_collect {seen own both : Dict Nat} {size i : Nat} {new : List String}
    (h : Joins seen own both) :
    (∃ own' both', Joins seen own' both' ∧ collect seen size own i new = .ok own' ∧
        addAll both size i new = .ok both') ∨
      ∃ e, collect seen size own i new = .error e ∧ addAll both size i new = .error e := by
  induction new generalizing own both i with
  | nil => exact .inl ⟨own, both, h, rfl, rfl⟩
  | cons n rest ih =>
    unfold collect addAll
    rw [← h.get?]
    cases hn : both.get? n with
    | some first => exact .inr ⟨_, rfl, rfl⟩
    | none => exact ih (h.insert hn (size + i))

/-- A call in place registers the names, or it leaves the registry as it is. -/
theorem run_enter (names : Registry) (call : Call) :
    (enter call).run names =
      match names.register call.resource call.names with
      | .ok names' => (.ok (), names')
      | .error rejection => (.error rejection, names) := by
  have hrun : (enter call).run names =
      match collect names.seen names.size ∅ 0 call.names with
      | .error (i, n, first) =>
        (.error ⟨call.resource, some i, .duplicateJob n first (names.size + i)⟩, names)
      | .ok own => (.ok (), ⟨own.entries.foldl (fun seen e => seen.insert e.1 e.2) names.seen,
          names.size + call.names.length⟩) := by
    have hget : (get : ExceptT Rejection (StateM Registry) Registry).run names = (.ok names, names) :=
      rfl
    rw [enter, run_bind_of_ok hget]
    cases collect names.seen names.size ∅ 0 call.names <;> rfl
  rw [hrun, register]
  rcases @addAll_of_collect _ _ _ names.size 0 call.names (Joins.empty names.seen) with
    ⟨own, both, hjoins, hcollect, hadd⟩ | ⟨e, hcollect, hadd⟩
  · rw [hcollect, hadd, ← hjoins.extend_eq]
  · rw [hcollect, hadd]

/-! ## One call after the other -/

/-- The registry after calls. -/
def after (names : Registry) (calls : List Call) : Registry :=
  calls.foldl (fun names call => ((enter call).run names).2) names

/-- The names of the calls that succeed, in order. -/
def taken : Registry → List Call → List String
  | _, [] => []
  | names, call :: rest =>
    match (enter call).run names with
    | (.ok _, names') => call.names ++ taken names' rest
    | (.error _, names') => taken names' rest

/-- What one call makes of a registry. -/
theorem enter_cases (h : names.Holds ns) (call : Call) :
    (∃ names', (enter call).run names = (.ok (), names') ∧ names'.Holds (ns ++ call.names)) ∨
      ∃ i n first, FirstTaken ns call.names i n first ∧ (enter call).run names =
        (.error ⟨call.resource, some i, .duplicateJob n first (ns.length + i)⟩, names) := by
  rw [run_enter]
  cases hregister : names.register call.resource call.names with
  | ok names' => exact .inl ⟨names', rfl, h.register hregister⟩
  | error rejection =>
    obtain ⟨i, n, first, htaken, rfl⟩ := h.firstTaken_of_register hregister
    exact .inr ⟨i, n, first, htaken, rfl⟩

/-- After calls a registry holds the names of those that succeeded behind the ones before. -/
theorem Holds.after (h : names.Holds ns) (calls : List Call) :
    (names.after calls).Holds (ns ++ names.taken calls) := by
  induction calls generalizing names ns with
  | nil =>
    rw [taken, List.append_nil]
    exact h
  | cons call rest ih =>
    rw [Registry.after, List.foldl_cons]
    rcases enter_cases h call with ⟨names', hrun, hholds⟩ | ⟨i, n, first, -, hrun⟩
    · rw [taken, hrun, ← List.append_assoc]
      exact ih hholds
    · rw [taken, hrun]
      exact ih h

/-- Names that are distinct behind those of a registry are distinct and new. -/
theorem Holds.nodup_append_iff (h : names.Holds ns) {new : List String} :
    (ns ++ new).Nodup ↔ new.Nodup ∧ ∀ n ∈ new, n ∉ ns := by
  have hnodup : ns.Nodup := h.nodup
  rw [List.nodup_append]
  constructor
  · rintro ⟨-, hnew, hne⟩
    refine ⟨hnew, ?_⟩
    intro n hn htaken
    exact hne n htaken n hn rfl
  · rintro ⟨hnew, hfree⟩
    refine ⟨hnodup, hnew, ?_⟩
    rintro m hm n hn rfl
    exact hfree m hn hm

/-- A call succeeds exactly if its names are distinct and new. -/
theorem Holds.enter_iff (h : names.Holds ns) (call : Call) :
    (∃ names', (enter call).run names = (.ok (), names')) ↔
      call.names.Nodup ∧ ∀ n ∈ call.names, n ∉ ns := by
  rw [← h.nodup_append_iff, ← h.register_iff call.resource]
  constructor
  · rintro ⟨names', hrun⟩
    rw [run_enter] at hrun
    split at hrun
    · rename_i hregister
      exact ⟨_, hregister⟩
    · cases hrun
  · rintro ⟨names', hregister⟩
    rw [run_enter, hregister]
    exact ⟨names', rfl⟩

/-- A registry after calls has the names of those that succeeded with their places. One more call
succeeds exactly if its names are new and distinct. If it fails, the registry stays as it is, and the
error is for the first name of the call that is not new, with the places of both holders. A call
comes to the same as a registration. -/
theorem enter_after_calls (calls : List Call) (call : Call) :
    let names := after {} calls
    let taken := taken {} calls
    names.size = taken.length ∧
      (∀ n k, names.seen.get? n = some k ↔ taken[k]? = some n) ∧
      ((∃ names', (enter call).run names = (.ok (), names')) ↔
        call.names.Nodup ∧ ∀ n ∈ call.names, n ∉ taken) ∧
      (∀ rejection names', (enter call).run names = (.error rejection, names') →
        names' = names ∧
          ∃ i n first, call.names[i]? = some n ∧
            ((call.names.take i).Nodup ∧ ∀ m ∈ call.names.take i, m ∉ taken) ∧
            (taken[first]? = some n ∨
              ∃ j < i, call.names[j]? = some n ∧ first = names.size + j) ∧
            rejection = ⟨call.resource, some i, .duplicateJob n first (names.size + i)⟩) ∧
      (enter call).run names =
        match names.register call.resource call.names with
        | .ok names' => (.ok (), names')
        | .error rejection => (.error rejection, names) := by
  intro names taken
  have hholds : names.Holds taken := holds_empty.after calls
  refine ⟨hholds.size, hholds.place, hholds.enter_iff call, ?_, run_enter names call⟩
  intro rejection names' hrun
  rcases enter_cases hholds call with ⟨_, hok, -⟩ | ⟨i, n, first, htaken, herror⟩
  · cases hok.symm.trans hrun
  · cases herror.symm.trans hrun
    refine ⟨rfl, i, n, first, htaken.name, hholds.nodup_append_iff.mp htaken.before, ?_, ?_⟩
    · rw [hholds.size]
      by_cases hn : n ∈ taken
      · exact .inl (htaken.getElem?_of_mem hn)
      · exact .inr (htaken.exists_of_not_mem hn)
    · rw [hholds.size]

end Registry

namespace Sample

/-- The second one of the calls fails, so its first name stays free. -/
def calls : List Registry.Call := [⟨"A", ["a/0", "a/1"]⟩, ⟨"B", ["b/0", "a/1"]⟩]

/-- A call whose last name is the same as its first one. -/
def repeating : Registry.Call := ⟨"C", ["b/0", "c/0", "b/0"]⟩

/-- The places go on from the names of the first call, and nothing is registered. -/
theorem enter_repeating :
    (Registry.enter repeating).run (Registry.after {} calls) =
        (.error ⟨"C", some 2, .duplicateJob "b/0" 2 4⟩, Registry.after {} calls) ∧
      (Registry.after {} calls).size = 2 ∧
      ∃ i n first, repeating.names[i]? = some n ∧
        (⟨"C", some 2, .duplicateJob "b/0" 2 4⟩ : Rejection) =
          ⟨"C", some i, .duplicateJob n first ((Registry.after {} calls).size + i)⟩ := by
  have hrun : (Registry.enter repeating).run (Registry.after {} calls) =
      (.error ⟨"C", some 2, .duplicateJob "b/0" 2 4⟩, Registry.after {} calls) := by
    have hregister : (Registry.after {} calls).register repeating.resource repeating.names =
        .error ⟨"C", some 2, .duplicateJob "b/0" 2 4⟩ := by decide +kernel
    rw [Registry.run_enter, hregister]
  obtain ⟨hsize, -, -, hfailed, -⟩ := Registry.enter_after_calls calls repeating
  obtain ⟨-, i, n, first, hn, -, -, hreport⟩ := hfailed _ _ hrun
  exact ⟨hrun, hsize.trans (by decide +kernel), i, n, first, hn, hreport⟩

end Sample

end ScrapeJobs
