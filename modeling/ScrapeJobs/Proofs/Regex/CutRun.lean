import ScrapeJobs.Proofs.Regex.CutStep

/-!
# Runs over cut patterns

`State.Reaches` says which states and rests of a pattern steps lead to. A run that ends has reached
the end of the pattern (`reaches_of_run?`), and steps that lead to a rest lead to what is left of it
when the pattern is cut at its end (`State.Reaches.rdrop`).
-/

namespace ScrapeJobs.Regex

variable {n m : Nat} {cs rest : List Char} {st st' fin : State}

/-- Steps from one state and text lead to others. -/
inductive State.Reaches : State → List Char → State → List Char → Prop
  | refl (st : State) (cs : List Char) : Reaches st cs st cs
  | step {st st₁ st' : State} {cs mid rest : List Char}
      (first : st.step? (st.flags.skip cs) = some (st₁, mid)) (more : Reaches st₁ mid st' rest) :
      Reaches st cs st' rest

theorem skip_brace (f : Flags) (cs : List Char) : f.skip ('\x7b' :: cs) = '\x7b' :: cs :=
  skip_of_not_blank (by decide +kernel) (by decide) f cs

theorem step_left (h : st.step? (st.flags.skip cs) = some (st', rest)) : Left cs rest :=
  (step?_local h).1.of_suffix (skip_suffix _ _)

namespace State.Reaches

theorem suffix (h : Reaches st cs st' rest) : rest <:+ cs := by
  induction h with
  | refl => exact List.suffix_rfl
  | step first _ ih => exact ih.trans (step_left first).suffix

/-- Steps are taken the same in a cut text, if no brace is cut off from what is left of it. -/
theorem rdrop (h : Reaches st cs st' rest) (hn : n ≤ rest.length)
    (hbrace : rest.head? ≠ some '\x7b') : Reaches st (cs.rdrop n) st' (rest.rdrop n) := by
  induction h with
  | refl => exact .refl _ _
  | @step st st₁ _ cs mid rest first more ih =>
    obtain ⟨-, hcut⟩ := step?_local first
    have hmid := hn.trans more.suffix.length_le
    refine .step ?_ (ih hn hbrace)
    rw [skip_rdrop (hmid.trans (step?_local first).1.lt.le)]
    refine hcut n hmid fun r hr => ?_
    -- The brace is not the last thing that was read, so the next step reads on behind it.
    subst hr
    cases more with
    | refl => exact absurd rfl hbrace
    | step second more =>
      rw [skip_brace, step?_braces] at second
      have hleft := (State.braces?_local second).1
      exact (hn.trans more.suffix.length_le).trans_lt hleft.lt

/-- A run goes on from where steps lead to, with fuel to spare. -/
theorem run? (h : Reaches st cs st' rest) (hm : cs.length < m) :
    ∃ k, rest.length < k ∧ State.run? m st cs = State.run? k st' rest := by
  induction h generalizing m with
  | refl => exact ⟨m, hm, rfl⟩
  | @step st st₁ st' cs mid rest first more ih =>
    obtain ⟨m, rfl⟩ := Nat.exists_eq_add_one.mpr (Nat.zero_lt_of_lt hm)
    have hlt := (step_left first).lt
    obtain ⟨k, hk, hrun⟩ := @ih m (by omega)
    refine ⟨k, hk, ?_⟩
    rw [← hrun, State.run?]
    split
    · rename_i hnil
      rw [hnil] at first
      cases first
    · rw [first]
      rfl

end State.Reaches

/-- A run that ends takes steps to the end of the text, where no group is open. -/
theorem reaches_of_run? (h : State.run? m st cs = some fin) :
    ∃ rest, st.Reaches cs fin rest ∧ fin.flags.skip rest = [] ∧ fin.groups = [] := by
  induction m generalizing st cs with
  | zero => cases h
  | succ m ih =>
    unfold State.run? at h
    split at h
    · rename_i hend
      split at h
      · rename_i hgroups
        cases h
        exact ⟨cs, .refl _ _, hend, List.isEmpty_iff.mp hgroups⟩
      · cases h
    · obtain ⟨⟨st₁, mid⟩, first, h⟩ := Option.bind_eq_some_iff.mp h
      obtain ⟨rest, hreach, hrest⟩ := ih h
      exact ⟨rest, .step first hreach, hrest⟩

end ScrapeJobs.Regex
