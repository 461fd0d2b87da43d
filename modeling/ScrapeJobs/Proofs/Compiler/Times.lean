import ScrapeJobs.Proofs.Compiler.Causes
import ScrapeJobs.Proofs.Compiler.Outcomes

/-!
# Times of jobs

The times of a job are the ones that its endpoint names (`Compiler.Emits.fits`). Endpoints are
compiled in order and the times of an endpoint are the first thing that its job needs, so a resource
that gets to an endpoint without times is rejected for these (`Compiler.Reaches.timing_iff`).
`Compiler.times_of_endpoint` has both.
-/

namespace ScrapeJobs

open Outcome

namespace Compiler

variable {c : Compiler} {r : Resource} {rs : List Resource} {e : Endpoint} {i : Nat} {j : Job}
  {key : String} {scope : SecretScope} {context : Endpoint → Option Port → JobContext}
  {s t pool : SecretPool} {es : List Endpoint} {jobs : List Job} {port : Option Port}
  {rejection : Rejection}

/-! ## Jobs -/

/-- The times of a job are the ones that its endpoint names. -/
theorem Emits.fits (h : c.Emits r i e j) : Timing.Fits e.settings j.interval j.timeout := by
  obtain ⟨out, hout, he, hj⟩ := h
  obtain ⟨p, -, -, hruns⟩ := exists_runs_of_compileResource hout
  have hplace : (r.target.endpoints.zipIdx 0)[i]? = some (e, i) := by
    rw [List.getElem?_zipIdx, he, Nat.zero_add]
    rfl
  obtain ⟨port, u, v, -, hjob⟩ :=
    rel_of_getElem? (runs_of_compileEndpoints hruns) hplace hj
  obtain ⟨parts, hparts, rfl, -⟩ := exists_parts_of_compileJob hjob
  exact Timing.both_eq_ok_iff.mp hparts.times

/-! ## Endpoints one after the other -/

/-- Once endpoints are compiled, the next ones go on from there. -/
theorem compileEndpoints_append (h : compileEndpoints c key scope context s i es = .ok (jobs, t))
    (es' : List Endpoint) :
    compileEndpoints c key scope context s i (es ++ es') =
      (compileEndpoints c key scope context t (i + es.length) es').map
        fun later => (jobs ++ later.1, later.2) := by
  -- on the endpoints that are compiled, while the pool grows
  induction es generalizing i s jobs with
  | nil =>
    cases h
    rw [List.nil_append, List.length_nil, Nat.add_zero]
    cases compileEndpoints c key scope context t i es' with
    | error failure => rfl
    | ok later => rfl
  | cons e rest ih =>
    unfold compileEndpoints at h
    split at h
    · cases h
    · rename_i port hport
      split at h
      · cases h
      · rename_i job u hjob
        obtain ⟨⟨jobs', v⟩, hrest, h⟩ := bind_eq_ok h
        cases h
        have hplace : i + (rest.length + 1) = i + 1 + rest.length := by omega
        rw [List.cons_append, compileEndpoints, hport]
        dsimp only
        rw [hjob]
        dsimp only
        rw [ih hrest, List.length_cons, hplace]
        cases compileEndpoints c key scope context t (i + 1 + rest.length) es' with
        | error failure => rfl
        | ok later => rfl

/-- A failure is at the place of one of the endpoints. -/
theorem fails_place (c : Compiler) (key : String) (scope : SecretScope)
    (context : Endpoint → Option Port → JobContext) (s : SecretPool) (i : Nat)
    (es : List Endpoint) :
    Fails (compileEndpoints c key scope context s i es)
      fun failure => i ≤ failure.1 ∧ failure.1 < i + es.length := by
  induction es generalizing i s with
  | nil => exact fails_ok _
  | cons e rest ih =>
    have hhere : i ≤ i ∧ i < i + (e :: rest).length :=
      ⟨Nat.le_refl i, Nat.lt_add_of_pos_right (Nat.succ_pos _)⟩
    unfold compileEndpoints
    split
    · exact fails_error hhere
    · split
      · exact fails_error hhere
      · refine fails_bind ((ih _ (i + 1)).mono ?_) fun _ => fails_ok _
        rintro failure ⟨hle, hlt⟩
        rw [List.length_cons]
        omega

/-- A resource passes its own checks, and its endpoints before a place are compiled. -/
structure Reaches (c : Compiler) (r : Resource) (i : Nat) (key : String) (p : Prepared)
    (pool : SecretPool) : Prop where
  identified : r.key = .ok key
  prepared : c.prepare r = .ok p
  earlier : ∃ jobs, compileEndpoints c key p.scope (p.context c r) ∅ 0
    (r.target.endpoints.take i) = .ok (jobs, pool)

/-- A resource is rejected for the endpoint at a place that is reached exactly if the job of this
endpoint fails. -/
theorem Reaches.error_iff {p : Prepared} {cause : Cause} (h : Reaches c r i key p pool)
    (he : r.target.endpoints[i]? = some e) (hport : portOf e = .ok port) :
    c.compileResource r = .error ⟨key, some i, cause⟩ ↔
      ((c.compileJob key i (p.context c r e port) p.scope).run pool).1 = .error cause := by
  obtain ⟨jobs, hearlier⟩ := h.earlier
  obtain ⟨hi, hget⟩ := List.getElem?_eq_some_iff.mp he
  have hruns := compileEndpoints_append hearlier (r.target.endpoints.drop i)
  rw [List.take_append_drop, List.length_take_of_le hi.le, Nat.zero_add,
    ← List.getElem_cons_drop hi, hget, compileEndpoints, hport] at hruns
  dsimp only at hruns
  rw [compileResource_eq h.identified h.prepared, hruns]
  rcases (c.compileJob key i (p.context c r e port) p.scope).run pool with ⟨_ | job, u⟩
  · simp [Except.map]
  · -- the job is there, so a failure is behind it
    have hplace := c.fails_place key p.scope (p.context c r) u (i + 1)
      (r.target.endpoints.drop (i + 1))
    dsimp only
    refine ⟨?_, nofun⟩
    intro herror
    cases hlater : compileEndpoints c key p.scope (p.context c r) u (i + 1)
        (r.target.endpoints.drop (i + 1)) with
    | error failure =>
      rw [hlater] at herror
      have hlt : i + 1 ≤ failure.1 := (hplace failure hlater).1
      have heq : failure.1 = i := by
        cases herror
        rfl
      omega
    | ok later =>
      rw [hlater] at herror
      cases herror

/-! ## Resources -/

/-- A resource that does not compile is rejected with its own error in every batch. -/
theorem mem_rejections_of_compileResource_error (h : c.compileResource r = .error rejection)
    (hr : r ∈ rs) : rejection ∈ (c.compile rs).rejections := by
  obtain ⟨k, hk⟩ := List.mem_iff_getElem?.mp hr
  obtain ⟨o, ho, haccounts⟩ := exists_rel_of_getElem? (forall₂_accounts_outcomes c rs) hk
  cases o with
  | ok out => cases h.symm.trans haccounts.compiled
  | error rejection' =>
    rcases haccounts with hown | ⟨out, -, -, -, -, -, hout, -⟩
    · cases h.symm.trans hown
      rw [rejections_compile]
      exact List.mem_filterMap.mpr ⟨_, List.mem_of_getElem? ho, rfl⟩
    · cases h.symm.trans hout

/-- A resource with an endpoint whose settings name no times does not compile. -/
theorem exists_rejection_of_not_fits (he : r.target.endpoints[i]? = some e)
    (hno : ¬ ∃ interval timeout, Timing.Fits e.settings interval timeout) :
    ∃ rejection, c.compileResource r = .error rejection := by
  cases h : c.compileResource r with
  | error rejection => exact ⟨rejection, rfl⟩
  | ok out =>
    have hsome : (c.compileResource r).toOption.isSome = true := by
      rw [h]
      rfl
    obtain ⟨j, hj⟩ := exists_emits hsome he
    exact (hno ⟨j.interval, j.timeout, hj.fits⟩).elim

/-- A resource is rejected for the times of an endpoint that is reached exactly if its settings name
none, with what is wrong with them. -/
theorem Reaches.timing_iff {p : Prepared} (h : Reaches c r i key p pool)
    (he : r.target.endpoints[i]? = some e) (hport : portOf e = .ok port) {timing : Timing}
    {fault : Timing.Fault} :
    c.compileResource r = .error ⟨key, some i, .timing timing fault⟩ ↔
      Timing.both e.settings = .error (.timing timing fault) := by
  rw [h.error_iff he hport]
  cases hboth : Timing.both e.settings with
  | error cause =>
    rw [run_compileJob_of_times_error hboth]
    constructor
    · intro h
      cases h
      rfl
    · intro h
      cases h
      rfl
  | ok times =>
    obtain ⟨interval, timeout⟩ := times
    refine ⟨?_, nofun⟩
    intro herror
    exact ((runFails_compileJob_of_times hboth pool _ herror).2 timing fault rfl).elim

/-- The times of an endpoint are accepted exactly if its settings name them, and its job has these
times. So in every job of a batch the timeout is above zero and not above the interval. A resource
with an endpoint whose settings name no times is rejected in every batch. If everything before the
endpoint passes and its port is valid, the error is for its times exactly in this case: for the
interval if that names no time, and for the timeout otherwise, with both texts if the timeout is
above the interval. -/
theorem times_of_endpoint (c : Compiler) (he : r.target.endpoints[i]? = some e) :
    (∀ interval timeout, Timing.both e.settings = .ok (interval, timeout) ↔
        Timing.Fits e.settings interval timeout) ∧
      (∀ j, c.Emits r i e j → Timing.Fits e.settings j.interval j.timeout) ∧
      (∀ rs, ∀ j ∈ (c.compile rs).jobs, 0 < j.timeout.millis ∧ j.timeout ≤ j.interval ∧
        ∃ r' ∈ rs, ∃ i' e', c.Emits r' i' e' j ∧
          Timing.Fits e'.settings j.interval j.timeout) ∧
      ((¬ ∃ interval timeout, Timing.Fits e.settings interval timeout) →
        ∃ rejection, c.compileResource r = .error rejection ∧
          ∀ rs, r ∈ rs → rejection ∈ (c.compile rs).rejections) ∧
      ∀ key p pool port, Reaches c r i key p pool → portOf e = .ok port →
        ((¬ ∃ interval timeout, Timing.Fits e.settings interval timeout) ↔
          ∃ timing fault, c.compileResource r = .error ⟨key, some i, .timing timing fault⟩) ∧
        ∀ timing fault, c.compileResource r = .error ⟨key, some i, .timing timing fault⟩ →
          (timing = .interval ↔ Timing.NamesNone e.settings.interval) ∧
          ∀ ti tt interval timeout, e.settings.interval = some ti → e.settings.timeout = some tt →
            Timing.Names (some ti) interval → Timing.Names (some tt) timeout →
            interval < timeout ∧ timing = .timeout ∧ fault = .exceeds tt ti ∧
              (Cause.timing timing fault).message =
                "invalid timeout: timeout " ++ tt ++ " exceeds interval " ++ ti := by
  refine ⟨fun _ _ => Timing.both_eq_ok_iff, fun _ hj => hj.fits, ?_, ?_, ?_⟩
  · intro rs j hj
    obtain ⟨r', hr', i', e', hemits⟩ := exists_emits_of_mem_jobs hj
    obtain ⟨hpos, hle⟩ := hemits.fits.pos_le
    exact ⟨hpos, hle, r', hr', i', e', hemits, hemits.fits⟩
  · intro hno
    obtain ⟨rejection, hrejection⟩ := exists_rejection_of_not_fits he hno
    exact ⟨rejection, hrejection, fun rs => mem_rejections_of_compileResource_error hrejection⟩
  · intro key p pool port hreaches hport
    have hfaulty : ∀ timing fault,
        c.compileResource r = .error ⟨key, some i, .timing timing fault⟩ →
          Timing.Faulty e.settings timing fault := by
      intro timing fault herror
      exact Timing.faulty_of_both ((hreaches.timing_iff he hport).mp herror)
    refine ⟨⟨?_, ?_⟩, ?_⟩
    · intro hno
      obtain ⟨timing, fault, -, hboth⟩ := Timing.exists_faulty hno
      exact ⟨timing, fault, (hreaches.timing_iff he hport).mpr hboth⟩
    · rintro ⟨timing, fault, herror⟩ ⟨interval, timeout, hfits⟩
      exact (hfaulty timing fault herror).not_fits hfits
    · intro timing fault herror
      have h := hfaulty timing fault herror
      refine ⟨h.eq_interval_iff, ?_⟩
      intro ti tt interval timeout hti htt hinterval htimeout
      obtain ⟨hlt, rfl, rfl⟩ := h.eq_exceeds hti htt hinterval htimeout
      exact ⟨hlt, rfl, rfl, Timing.message_exceeds tt ti⟩

end Compiler

namespace Sample

/-- An endpoint whose timeout is above its interval. -/
def slow : PodEndpoint :=
  { named with settings := { interval := some "30s", timeout := some "1m" } }

/-- A resource with this endpoint behind another one. -/
def slowResource : Resource where
  metadata := { name := some "web", inNamespace := some "shop" }
  target := .pod { endpoints := [named, slow] }

theorem exists_reaches_slow :
    ∃ p pool, Compiler.Reaches compiler slowResource 1 "PodMonitoring/shop/web" p pool := by
  let p : Compiler.Prepared :=
    { name := "web", inNamespace := some "shop", metadata := [], scope := .own "shop" }
  have hkey : slowResource.key = .ok "PodMonitoring/shop/web" := by decide
  have hp : compiler.prepare slowResource = .ok p := rfl
  have hearlier : (Compiler.compileEndpoints compiler "PodMonitoring/shop/web" p.scope
      (p.context compiler slowResource) ∅ 0 [.pod named]).toOption.isSome = true := by
    decide +kernel
  obtain ⟨⟨jobs, pool⟩, hjobs⟩ := Option.isSome_iff_exists.mp hearlier
  exact ⟨p, pool, hkey, hp, jobs, eq_ok_of_toOption hjobs⟩

/-- The first endpoint is fine, and the second one is reported with both of its texts. -/
theorem rejected_slow :
    compiler.compileResource slowResource =
        .error ⟨"PodMonitoring/shop/web", some 1, .timing .timeout (.exceeds "1m" "30s")⟩ ∧
      ¬ ∃ interval timeout, Timing.Fits slow.settings interval timeout := by
  have he : slowResource.target.endpoints[1]? = some (.pod slow) := rfl
  have hport : Compiler.portOf (.pod slow) = .ok (some (.named "http-metrics")) := by decide
  have hinterval : Timing.Names (some "30s") ⟨30000⟩ := ⟨"30s", by decide⟩
  have htimeout : Timing.Names (some "1m") ⟨60000⟩ := ⟨"1m", by decide⟩
  obtain ⟨p, pool, hreaches⟩ := exists_reaches_slow
  obtain ⟨-, -, -, -, htimes⟩ := Compiler.times_of_endpoint compiler he
  obtain ⟨hrejected, hreport⟩ := htimes _ p pool _ hreaches hport
  have hno : ¬ ∃ interval timeout, Timing.Fits slow.settings interval timeout := by
    rintro ⟨interval, timeout, hfits⟩
    have hfaulty : Timing.Faulty slow.settings .timeout (.exceeds "1m" "30s") :=
      .exceeds rfl rfl hinterval htimeout (by decide)
    exact hfaulty.not_fits hfits
  obtain ⟨timing, fault, herror⟩ := hrejected.mp hno
  obtain ⟨-, rfl, rfl, -⟩ := (hreport timing fault herror).2 _ _ _ _ rfl rfl hinterval htimeout
  exact ⟨herror, hno⟩

end Sample

end ScrapeJobs
