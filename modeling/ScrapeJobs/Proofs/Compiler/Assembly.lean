import ScrapeJobs.Compiler
import ScrapeJobs.Proofs.Outcome

/-!
# How a job is put together

A job is made in steps that may fail (`JobParts.MadeFrom` says that all of them succeed, and with
which results), and then it is checked as a collector does. So a run of `compileJob` that gets as
far as the check ends as the check does (`run_compileJob`), and a run that succeeds has got there
(`exists_parts_of_compileJob`).
-/

namespace ScrapeJobs

open Outcome Relabel

namespace Endpoint

/-- The path that is scraped: the one that is set, or else the usual one. -/
def path (e : Endpoint) : String := (set? e.settings.path).getD e.defaultPath

/-- The scheme of a scrape: the one that is set, or else the usual one. -/
def scheme (e : Endpoint) : String := (set? e.settings.scheme).getD e.defaultScheme

end Endpoint

/-- What the steps for a job come to. -/
structure JobParts where
  interval : Duration
  timeout : Duration
  relabeling : List Rule
  /-- The endpoint's own rules for series. -/
  own : List Rule
  client : Http.Client
  params : Dict (List String)

variable {c : Compiler} {key : String} {i : Nat} {ctx : JobContext} {scope : SecretScope}
  {s t : SecretPool} {parts : JobParts} {j : Job}

namespace JobParts

/-- All steps for a job before the check of a collector succeed, and these are the results.
The step for the client takes the pool of secrets from one state to another. -/
structure MadeFrom (parts : JobParts) (ctx : JobContext) (scope : SecretScope)
    (s t : SecretPool) : Prop where
  times : Timing.both ctx.endpoint.settings = .ok (parts.interval, parts.timeout)
  relabeling : Phase.allRules ctx = .ok parts.relabeling
  own : Protected.accept ctx.endpoint.settings.metricRelabeling = .ok parts.own
  client : (ctx.endpoint.client scope).run s = (.ok parts.client, t)
  params : ctx.endpoint.params = .ok parts.params

/-- The job that is made of the results. -/
def job (parts : JobParts) (c : Compiler) (key : String) (i : Nat) (ctx : JobContext) : Job where
  name := key ++ "/" ++ Compiler.suffix ctx i
  interval := parts.interval
  timeout := parts.timeout
  path := ctx.endpoint.path
  scheme := ctx.endpoint.scheme
  params := parts.params
  discovery := ctx.target.discovery c.platform
  staticTargets := ctx.target.staticLists
  client := parts.client
  relabeling := parts.relabeling
  metricRelabeling := parts.own ++ c.metricRules
  sampleLimit := (ctx.target.limits?.getD {}).samples
  labelLimit := (ctx.target.limits?.getD {}).labels
  labelNameLengthLimit := (ctx.target.limits?.getD {}).labelNameLength
  labelValueLengthLimit := (ctx.target.limits?.getD {}).labelValueLength

end JobParts

namespace Compiler

/-- A step that has nothing to do with secrets leaves the pool as it is. -/
theorem run_liftExcept {α : Type} (x : Except Cause α) (s : SecretPool) :
    (compileJob.liftExcept x).run s = (x, s) := by
  cases x <;> rfl

/-- Once all parts are there, a job is compiled exactly if a collector takes it back. -/
theorem run_compileJob (h : parts.MadeFrom ctx scope s t) :
    (c.compileJob key i ctx scope).run s =
      ((parts.job c key i ctx).roundTrip.map fun _ => parts.job c key i ctx, t) := by
  have hlift : ∀ {α : Type} {x : Except Cause α} {a : α}, x = .ok a → ∀ u,
      (compileJob.liftExcept x).run u = (.ok a, u) := fun hx u => hx ▸ run_liftExcept _ u
  unfold compileJob
  rw [run_bind_of_ok (hlift h.times s)]
  dsimp only
  rw [run_bind_of_ok (hlift h.relabeling s), run_bind_of_ok (hlift h.own s),
    run_bind_of_ok h.client, run_bind_of_ok (hlift h.params t)]
  change (discard (compileJob.liftExcept (parts.job c key i ctx).roundTrip) >>=
    fun _ => pure (parts.job c key i ctx)).run t = _
  cases (parts.job c key i ctx).roundTrip <;> rfl

/-- What is compiled is made of parts, and a collector takes it back. -/
theorem exists_parts_of_compileJob
    (h : (c.compileJob key i ctx scope).run s = (.ok j, t)) :
    ∃ parts : JobParts, parts.MadeFrom ctx scope s t ∧ j = parts.job c key i ctx ∧
      ∃ k, j.roundTrip = .ok k := by
  have hsteps := h
  unfold compileJob at hsteps
  obtain ⟨⟨interval, timeout⟩, s₁, htimes, hsteps⟩ := run_bind_eq_ok hsteps
  obtain ⟨relabeling, s₂, hrelabeling, hsteps⟩ := run_bind_eq_ok hsteps
  obtain ⟨own, s₃, hown, hsteps⟩ := run_bind_eq_ok hsteps
  obtain ⟨client, s₄, hclient, hsteps⟩ := run_bind_eq_ok hsteps
  obtain ⟨params, s₅, hparams, -⟩ := run_bind_eq_ok hsteps
  rw [run_liftExcept, Prod.mk.injEq] at htimes hrelabeling hown hparams
  obtain ⟨htimes, rfl⟩ := htimes
  obtain ⟨hrelabeling, rfl⟩ := hrelabeling
  obtain ⟨hown, rfl⟩ := hown
  obtain ⟨hparams, rfl⟩ := hparams
  have hmade : JobParts.MadeFrom ⟨interval, timeout, relabeling, own, client, params⟩
    ctx scope s s₄ := ⟨htimes, hrelabeling, hown, hclient, hparams⟩
  rw [run_compileJob hmade, Prod.mk.injEq] at h
  obtain ⟨hjob, rfl⟩ := h
  obtain ⟨k, hk, rfl⟩ := map_eq_ok hjob
  exact ⟨_, hmade, rfl, k, hk⟩

end Compiler

end ScrapeJobs
