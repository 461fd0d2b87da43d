import ScrapeJobs.Proofs.Compiler.Assembly
import ScrapeJobs.Proofs.Http.Resolve
import ScrapeJobs.Proofs.Timing

/-!
# Errors of a resource's own

Whether the name of a job is taken is asked only when a resource is registered. All steps before
fail for other causes: what they check is the resource by itself (`Cause.IsOwn`). So an error of
`Compiler.compileResource` is never about names (`Compiler.isOwn_of_compileResource`), and an error
about a name comes from the registry. In the same way only the first step for a job fails for the
times of its endpoint, so a job whose times are accepted fails for something else
(`Compiler.runFails_compileJob_of_times`).
-/

namespace ScrapeJobs

/-- The cause is not about names of jobs. -/
def Cause.IsOwn (cause : Cause) : Prop :=
  ∀ name first second, cause ≠ .duplicateJob name first second

/-- The cause is neither about names of jobs nor about times. -/
def Cause.IsUntimed (cause : Cause) : Prop :=
  cause.IsOwn ∧ ∀ timing fault, cause ≠ .timing timing fault

open Outcome

/-! ## Resources as a whole -/

variable {c : Compiler} {r : Resource} {rejection : Rejection}

namespace Resource

theorem fails_name (r : Resource) : Fails r.name Cause.IsUntimed := by
  unfold name
  split
  · exact fails_ok _
  · exact fails_error ⟨nofun, nofun⟩

theorem fails_namespace? (r : Resource) : Fails r.namespace? Cause.IsUntimed := by
  unfold namespace?
  split
  · split
    · exact fails_ok _
    · exact fails_error ⟨nofun, nofun⟩
  · exact fails_ok _

theorem fails_key (r : Resource) : Fails r.key Cause.IsUntimed := by
  unfold key
  apply fails_bind r.fails_name
  intro name
  apply fails_bind r.fails_namespace?
  intro ns
  cases ns with
  | none => exact fails_ok _
  | some ns => exact fails_ok _

theorem fails_secretScope (r : Resource) (default : String) :
    Fails (r.secretScope default) Cause.IsUntimed := by
  unfold secretScope
  apply fails_bind r.fails_namespace?
  intro ns
  cases ns with
  | none => exact fails_ok _
  | some ns => exact fails_ok _

end Resource

theorem MetadataLabel.fails_resolve (requested : Option (List String))
    (default allowed : List MetadataLabel) :
    Fails (resolve requested default allowed) Cause.IsUntimed := by
  unfold resolve
  split
  · exact fails_ok _
  · apply fails_map
    apply fails_mapM
    intro s _
    unfold find
    split
    · exact fails_ok _
    · exact fails_error ⟨nofun, nofun⟩

theorem Target.fails_metadata (t : Target) : Fails t.metadata Cause.IsUntimed := by
  cases t with
  | pod s => exact MetadataLabel.fails_resolve _ _ _
  | clusterPod s => exact MetadataLabel.fails_resolve _ _ _
  | clusterNode s => exact fails_ok _
  | probe s => exact fails_ok _

theorem Compiler.fails_checkTarget (t : Target) : Fails (checkTarget t) Cause.IsUntimed := by
  unfold checkTarget
  refine fails_ite ⟨nofun, nofun⟩ ?_
  refine fails_ite ⟨nofun, nofun⟩ ?_
  exact fails_ite ⟨nofun, nofun⟩ (fails_ok _)

theorem Compiler.fails_prepare (c : Compiler) (r : Resource) :
    Fails (c.prepare r) Cause.IsUntimed := by
  unfold prepare
  apply fails_bind r.fails_name
  intro name
  apply fails_bind r.fails_namespace?
  intro ns
  apply fails_bind r.target.fails_metadata
  intro metadata
  apply fails_bind (r.fails_secretScope _)
  intro scope
  apply fails_bind (fails_checkTarget r.target)
  intro _
  exact fails_ok _

/-! ## Rules -/

theorem Selector.fails_rules (s : Selector) (f : Label.Family) :
    Fails (s.rules f) Cause.IsUntimed := by
  have hpattern : ∀ q : Requirement, Fails q.pattern Cause.IsUntimed := by
    intro q
    unfold Requirement.pattern
    split
    · exact fails_ok _
    · exact fails_error ⟨nofun, nofun⟩
  unfold rules
  refine fails_bind (fails_mapM _ ?_) fun _ => fails_ok _
  intro q _
  unfold Requirement.rule
  split
  · exact fails_error ⟨nofun, nofun⟩
  · split
    · exact fails_bind (hpattern q) fun _ => fails_ok _
    · exact fails_bind (hpattern q) fun _ => fails_ok _
    · exact fails_ok _
    · exact fails_ok _

theorem LabelMapping.fails_rules (f : Label.Family) (ms : List LabelMapping) :
    Fails (rules f ms) Cause.IsUntimed := by
  apply fails_mapM
  intro m _
  unfold rule
  split
  · exact fails_error ⟨nofun, nofun⟩
  · exact fails_ok _

namespace Phase

theorem fails_addressRules (ctx : JobContext) : Fails (addressRules ctx) Cause.IsUntimed := by
  unfold addressRules
  split
  · split
    · exact fails_ok _
    · exact fails_error ⟨nofun, nofun⟩
  · exact fails_ok _
  · split
    · exact fails_ok _
    · exact fails_error ⟨nofun, nofun⟩

theorem fails_rules (ctx : JobContext) (phase : Phase) : Fails (phase.rules ctx) Cause.IsUntimed := by
  cases phase with
  | forcedLabels => exact fails_ok _
  | targetFilter =>
    refine fails_bind ?_ fun _ => fails_ok _
    unfold selectorFilter
    split
    · exact Selector.fails_rules _ _
    · exact fails_ok _
  | metadata => exact fails_ok _
  | jobLabel => exact fails_ok _
  | runningFilter => exact fails_ok _
  | address => exact fails_addressRules ctx
  | labelMapping =>
    change Fails (mappingRules ctx.target) Cause.IsUntimed
    unfold mappingRules
    split
    · exact LabelMapping.fails_rules _ _
    · exact fails_ok _

theorem fails_allRules (ctx : JobContext) : Fails (allRules ctx) Cause.IsUntimed := by
  unfold allRules
  exact fails_bind (fails_mapM _ fun phase _ => fails_rules ctx phase) fun _ => fails_ok _

end Phase

namespace Protected

theorem fails_check (rule : Relabel.Rule) : Fails (check rule) Cause.IsUntimed := by
  unfold check
  split
  · exact fails_ok _
  · exact fails_ok _
  · exact fails_ite ⟨nofun, nofun⟩ (fails_ite ⟨nofun, nofun⟩ (fails_ok _))
  · exact fails_ite ⟨nofun, nofun⟩ (fails_ite ⟨nofun, nofun⟩ (fails_ok _))
  · split
    · exact fails_error ⟨nofun, nofun⟩
    · split
      · exact fails_error ⟨nofun, nofun⟩
      · exact fails_ok _
  · split
    · exact fails_error ⟨nofun, nofun⟩
    · split
      · exact fails_error ⟨nofun, nofun⟩
      · exact fails_ok _
  · exact fails_error ⟨nofun, nofun⟩

theorem fails_accept (drafts : List Relabel.Draft) : Fails (accept drafts) Cause.IsUntimed := by
  apply fails_mapM
  intro d _
  change Fails (d.toRule.check.mapError Cause.relabeling >>= fun _ =>
    check d.toRule >>= fun _ => pure d.toRule) Cause.IsUntimed
  have hform : Fails (d.toRule.check.mapError Cause.relabeling) Cause.IsUntimed :=
    fails_mapError fun _ => ⟨nofun, nofun⟩
  apply fails_bind hform
  intro _
  exact fails_bind (fails_check d.toRule) fun _ => fails_ok _

end Protected

/-! ## Clients -/

namespace Http

variable {scope : SecretScope}

theorem runFails_token (ref : Option SecretRef) : RunFails (token scope ref) Cause.IsUntimed := by
  intro pool
  rw [run_token]
  exact fails_mapError fun _ => ⟨nofun, nofun⟩

theorem runFails_refSource (ref : Option SecretRef) :
    RunFails (refSource scope ref) Cause.IsUntimed :=
  runFails_bind (runFails_token ref) fun _ => runFails_pure _

namespace Draft

theorem runFails_version (text : Option String) : RunFails (version text) Cause.IsUntimed := by
  unfold version
  split
  · exact runFails_pure _
  · split
    · exact runFails_pure _
    · exact runFails_throw ⟨nofun, nofun⟩

theorem Tls.runFails_resolve (tls : Option Tls) : RunFails (resolve scope tls) Cause.IsUntimed := by
  unfold resolve
  split
  · exact runFails_pure _
  · apply runFails_bind (runFails_refSource _)
    intro ca
    apply runFails_bind (runFails_refSource _)
    intro cert
    apply runFails_bind (runFails_refSource _)
    intro key
    apply runFails_bind (runFails_version _)
    intro minVersion
    apply runFails_bind (runFails_version _)
    intro maxVersion
    exact runFails_pure _

theorem runFails_resolvePart {α β : Type} {resolve : α → Resolving β}
    (h : ∀ a, RunFails (resolve a) Cause.IsUntimed) (part : Option α) :
    RunFails (resolvePart resolve part) Cause.IsUntimed := by
  unfold resolvePart
  split
  · exact runFails_pure _
  · exact runFails_bind (h _) fun _ => runFails_pure _

theorem OAuth2.runFails_resolve (o : OAuth2) : RunFails (resolve scope o) Cause.IsUntimed := by
  unfold resolve
  apply runFails_bind (runFails_refSource _)
  intro clientSecret
  apply runFails_bind (Tls.runFails_resolve _)
  intro tls
  exact runFails_pure _

theorem Client.runFails_resolve (d : Client) : RunFails (resolve scope d) Cause.IsUntimed := by
  unfold resolve
  apply runFails_bind
  · refine runFails_resolvePart ?_ _
    intro a
    exact runFails_bind (runFails_refSource _) fun _ => runFails_pure _
  intro authorization
  apply runFails_bind
  · refine runFails_resolvePart ?_ _
    intro b
    exact runFails_bind (runFails_refSource _) fun _ => runFails_pure _
  intro basicAuth
  apply runFails_bind (runFails_resolvePart OAuth2.runFails_resolve _)
  intro oauth2
  apply runFails_bind (Tls.runFails_resolve _)
  intro tls
  dsimp only
  split
  · exact runFails_pure _
  · exact runFails_throw ⟨nofun, nofun⟩

end Draft

end Http

namespace Endpoint

theorem runFails_client (e : Endpoint) (scope : SecretScope) :
    RunFails (e.client scope) Cause.IsUntimed := by
  unfold client
  apply runFails_bind (Http.Draft.Client.runFails_resolve _)
  intro client
  split
  · exact runFails_pure _
  · exact runFails_pure _

theorem fails_params (e : Endpoint) : Fails e.params Cause.IsUntimed := by
  unfold params
  split
  · exact fails_ite ⟨nofun, nofun⟩ (fails_ok _)
  · exact fails_ok _

end Endpoint

/-! ## Jobs -/

theorem Timing.fails_both (settings : Settings) : Fails (both settings) Cause.IsOwn := by
  intro cause h
  rcases both_cases settings with ⟨d, e, -, hok⟩ | ⟨timing, fault, -, herror⟩
  · cases hok.symm.trans h
  · cases herror.symm.trans h
    exact nofun

theorem Port.fails_resolve (ref : Option PortRef) : Fails (resolve ref) Cause.IsUntimed := by
  unfold resolve
  split
  · exact fails_ite ⟨nofun, nofun⟩ (fails_ok _)
  · refine fails_ite ⟨nofun, nofun⟩ ?_
    split
    · exact fails_ok _
    · exact fails_error ⟨nofun, nofun⟩
  · exact fails_error ⟨nofun, nofun⟩

namespace Compiler

variable {key : String} {i : Nat} {ctx : JobContext} {scope : SecretScope} {pool : SecretPool}

theorem fails_portOf (e : Endpoint) : Fails (portOf e) Cause.IsUntimed := by
  cases e with
  | pod spec => exact fails_bind (Port.fails_resolve _) fun _ => fails_ok _
  | node s => exact fails_ok _
  | probe m => exact fails_ok _

theorem runFails_liftExcept {α : Type} {x : Except Cause α} (h : Fails x Cause.IsUntimed) :
    RunFails (compileJob.liftExcept x) Cause.IsUntimed := by
  intro s
  rw [run_liftExcept]
  exact h

/-- Times that are not accepted are what a job fails for. -/
theorem run_compileJob_of_times_error {cause : Cause}
    (h : Timing.both ctx.endpoint.settings = .error cause) :
    (c.compileJob key i ctx scope).run pool = (.error cause, pool) := by
  have htimes : (compileJob.liftExcept (Timing.both ctx.endpoint.settings)).run pool =
      (.error cause, pool) := by
    rw [h, run_liftExcept]
  unfold compileJob
  exact run_bind_of_error htimes

/-- A job whose times are accepted fails for something else. -/
theorem runFails_compileJob_of_times {interval timeout : Duration}
    (h : Timing.both ctx.endpoint.settings = .ok (interval, timeout)) :
    RunFails (c.compileJob key i ctx scope) Cause.IsUntimed := by
  have htimes : ∀ s, (compileJob.liftExcept (Timing.both ctx.endpoint.settings)).run s =
      (.ok (interval, timeout), s) := by
    intro s
    rw [h, run_liftExcept]
  intro s
  unfold compileJob
  rw [run_bind_of_ok (htimes s)]
  revert s
  apply runFails_bind (runFails_liftExcept (Phase.fails_allRules _))
  intro relabeling
  apply runFails_bind (runFails_liftExcept (Protected.fails_accept _))
  intro own
  apply runFails_bind (Endpoint.runFails_client _ _)
  intro client
  apply runFails_bind (runFails_liftExcept (Endpoint.fails_params _))
  intro params
  refine runFails_bind ?_ fun _ => runFails_pure _
  refine runFails_bind (runFails_liftExcept ?_) fun _ => runFails_pure _
  exact fails_mapError fun _ => ⟨nofun, nofun⟩

theorem runFails_compileJob (c : Compiler) (key : String) (i : Nat) (ctx : JobContext)
    (scope : SecretScope) : RunFails (c.compileJob key i ctx scope) Cause.IsOwn := by
  intro s
  cases h : Timing.both ctx.endpoint.settings with
  | error cause =>
    rw [run_compileJob_of_times_error h]
    exact fails_error (Timing.fails_both _ cause h)
  | ok times => exact (runFails_compileJob_of_times h s).mono fun _ hcause => hcause.1

theorem fails_compileEndpoints (c : Compiler) (key : String) (scope : SecretScope)
    (context : Endpoint → Option Port → JobContext) (pool : SecretPool) (i : Nat)
    (es : List Endpoint) :
    Fails (compileEndpoints c key scope context pool i es) fun e => e.2.IsOwn := by
  induction es generalizing i pool with
  | nil => exact fails_ok _
  | cons e rest ih =>
    unfold compileEndpoints
    split
    · rename_i cause hport
      exact fails_error (fails_portOf e cause hport).1
    · split
      · rename_i cause t hjob
        apply fails_error
        apply runFails_compileJob c key i _ scope pool
        rw [hjob]
      · exact fails_bind (ih _ _) fun _ => fails_ok _

/-- A resource that does not compile is rejected for a cause that is not about names of jobs. -/
theorem isOwn_of_compileResource (h : c.compileResource r = .error rejection) :
    rejection.cause.IsOwn := by
  unfold compileResource at h
  split at h
  · rename_i cause hkey
    cases h
    exact (r.fails_key cause hkey).1
  · split at h
    · rename_i cause hp
      cases h
      exact (c.fails_prepare r cause hp).1
    · simp only at h
      split at h
      · rename_i i cause hjobs
        cases h
        exact fails_compileEndpoints c _ _ _ _ _ _ _ hjobs
      · cases h

end Compiler

end ScrapeJobs
