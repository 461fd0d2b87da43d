import ScrapeJobs.Proofs.Compiler.Emits
import ScrapeJobs.Proofs.Http.Check
import ScrapeJobs.Proofs.Protected
import ScrapeJobs.Proofs.Relabel.Generated
import ScrapeJobs.Proofs.Timing

/-!
# What a collector refuses

A job is checked as a collector does when all its parts are there. Nothing that a compiler makes
itself is refused then: the times, the client, the discoveries and the rules have been checked
while they were made, or they are valid whatever texts the resource has. What is left are the
scheme and the path of the endpoint (`Endpoint.fault?`), which are taken as they are, so a job is
refused exactly for one of these (`Compiler.refused_iff_address_fault`).
-/

namespace ScrapeJobs

open Outcome Relabel

variable {c : Compiler} {key : String} {i : Nat} {ctx : JobContext} {scope : SecretScope}
  {s t : SecretPool} {parts : JobParts} {rules : List Rule}

/-! ## Parts that pass the check -/

namespace Timing

/-- Times that are accepted are not zero, and the timeout is not above the interval. -/
theorem of_both {settings : Settings} {interval timeout : Duration}
    (h : both settings = .ok (interval, timeout)) :
    interval.isZero = false ∧ timeout.isZero = false ∧ ¬ interval < timeout := by
  have hfits : Fits settings interval timeout := both_eq_ok_iff.mp h
  obtain ⟨-, -, -, -, hinterval⟩ := hfits.interval
  obtain ⟨htimeout, hle⟩ := hfits.pos_le
  refine ⟨?_, ?_, UInt64.not_lt.mpr hle⟩
  · exact decide_eq_false (UInt64.pos_iff_ne_zero.mp hinterval)
  · exact decide_eq_false (UInt64.pos_iff_ne_zero.mp htimeout)

end Timing

/-- The filters of a discovery are for its own role. -/
theorem Target.findSome?_fault?_discovery (t : Target) (p : Platform) :
    (t.discovery p).findSome? Discovery.fault? = none := by
  unfold discovery
  split
  · rfl
  · simp [Discovery.fault?]

/-- The client of an endpoint passes the check. -/
theorem Endpoint.check_of_client {e : Endpoint} {client : Http.Client}
    (h : (e.client scope).run s = (.ok client, t)) : client.check = .ok () := by
  unfold Endpoint.client at h
  obtain ⟨resolved, u, hresolved, h⟩ := run_bind_eq_ok h
  have hcheck := Http.Draft.Client.check_of_resolve hresolved
  split at h
  · rw [← run_pure_eq_ok h]
    exact Http.Client.check_withServiceAccount hcheck
  · rw [← run_pure_eq_ok h, hcheck]

theorem Job.checkRules_eq_ok (h : ∀ r ∈ rules, r.check = .ok ()) :
    checkRules rules = .ok () := by
  induction rules with
  | nil => rfl
  | cons r rest ih =>
    have hrest := ih fun q hq => h q (List.mem_cons_of_mem _ hq)
    rw [checkRules, h r List.mem_cons_self, hrest]
    rfl

/-! ## Jobs -/

/-- What a collector finds wrong with the address of an endpoint: a scheme besides the two that
it knows, or a path that does not start with a slash. -/
def Endpoint.fault? (e : Endpoint) : Option Job.Fault :=
  if e.scheme ≠ "http" ∧ e.scheme ≠ "https" then some (.scheme e.scheme)
  else if e.path.toList.head? ≠ some '/' then some (.path e.path)
  else none

theorem Endpoint.isSome_fault?_iff {e : Endpoint} :
    e.fault?.isSome ↔
      (e.scheme ≠ "http" ∧ e.scheme ≠ "https") ∨ e.path.toList.head? ≠ some '/' := by
  unfold fault?
  split
  · simp_all
  · split <;> simp_all

namespace JobParts

/-- Apart from its client and its rules, only the address of a job can be wrong. -/
theorem fault?_job (h : parts.MadeFrom ctx scope s t) :
    (parts.job c key i ctx).fault? = ctx.endpoint.fault? := by
  obtain ⟨hinterval, htimeout, hle⟩ := Timing.of_both h.times
  have hname : key ++ "/" ++ Compiler.suffix ctx i ≠ "" := by
    intro hempty
    have hlist := congrArg String.toList hempty
    simp at hlist
  have hfilters := ctx.target.findSome?_fault?_discovery c.platform
  unfold Job.fault? job Endpoint.fault?
  simp only [if_neg hname, hinterval, htimeout, if_neg hle, hfilters]
  rfl

/-- The rules of a job pass the check. -/
theorem check_of_mem_rules {p : Platform} (hc : Compiler.new p = .ok c)
    (h : parts.MadeFrom ctx scope s t)
    (hsize : ∀ text ∈ ctx.literals, Selector.IsPatternable text) {r : Rule}
    (hr : r ∈ parts.relabeling ++ (parts.own ++ c.metricRules)) : r.check = .ok () := by
  rcases List.mem_append.mp hr with hr | hr
  · exact Phase.check_of_mem_allRules hsize h.relabeling hr
  · rcases List.mem_append.mp hr with hr | hr
    · exact (Protected.of_mem_accept h.own hr).1
    · exact (Protected.of_mem_accept (Protected.accept_metricRules_of_new hc) hr).1

/-- The check of a job fails for the fault of its address and for nothing else. -/
theorem check_job {p : Platform} (hc : Compiler.new p = .ok c)
    (h : parts.MadeFrom ctx scope s t)
    (hsize : ∀ text ∈ ctx.literals, Selector.IsPatternable text) :
    (parts.job c key i ctx).check =
      match ctx.endpoint.fault? with
      | some fault => .error (.job (parts.job c key i ctx).name fault)
      | none => .ok () := by
  have hclient : (parts.job c key i ctx).client.check = .ok () := Endpoint.check_of_client h.client
  have hrules := Job.checkRules_eq_ok fun r => check_of_mem_rules (r := r) hc h hsize
  unfold Job.check
  rw [fault?_job h, hclient]
  cases ctx.endpoint.fault? with
  | some fault => rfl
  | none => exact congrArg (Except.mapError ConfigError.relabel) hrules

end JobParts

/-- A job comes back as a collector fills it in, if that passes the check. -/
theorem Job.roundTrip_eq (j : Job) :
    j.roundTrip = (j.normalize.check.map fun _ => j.normalize).mapError .refused := by
  rw [roundTrip, load_of_readsAs j.settled_encode]

namespace Compiler

/-- A run that gets as far as the check ends as the address of the endpoint says. -/
theorem run_compileJob_of_new {p : Platform} (hc : Compiler.new p = .ok c)
    (h : parts.MadeFrom ctx scope s t)
    (hsize : ∀ text ∈ ctx.literals, Selector.IsPatternable text) :
    (c.compileJob key i ctx scope).run s =
      (match ctx.endpoint.fault? with
        | some fault => .error (.refused (.job (key ++ "/" ++ suffix ctx i) fault))
        | none => .ok (parts.job c key i ctx), t) := by
  rw [run_compileJob h, Job.roundTrip_eq, normalize_job h, JobParts.check_job hc h hsize]
  cases ctx.endpoint.fault? <;> rfl

/-- A job whose parts are all there is refused exactly if the scheme of its endpoint is neither
of the two that a collector knows or the path does not start with a slash. The error names this
fault of the address, and a job that is not refused is compiled. -/
theorem refused_iff_address_fault {p : Platform} (hc : Compiler.new p = .ok c)
    (h : parts.MadeFrom ctx scope s t)
    (hsize : ∀ text ∈ ctx.literals, Selector.IsPatternable text) :
    ((∃ error, (c.compileJob key i ctx scope).run s = (.error (.refused error), t)) ↔
      (ctx.endpoint.scheme ≠ "http" ∧ ctx.endpoint.scheme ≠ "https") ∨
        ctx.endpoint.path.toList.head? ≠ some '/') ∧
    (c.compileJob key i ctx scope).run s =
      (match ctx.endpoint.fault? with
        | some fault => .error (.refused (.job (key ++ "/" ++ suffix ctx i) fault))
        | none => .ok (parts.job c key i ctx), t) := by
  have hrun := @run_compileJob_of_new c key i ctx scope s t parts p hc h hsize
  refine ⟨?_, hrun⟩
  rw [hrun, ← Endpoint.isSome_fault?_iff]
  cases ctx.endpoint.fault? with
  | some fault => exact ⟨fun _ => rfl, fun _ => ⟨_, rfl⟩⟩
  | none =>
    constructor
    · rintro ⟨error, herror⟩
      cases herror
    · intro hsome
      cases hsome

end Compiler

namespace Sample

/-- The context of an endpoint of the sample resource that is to be scraped over FTP. -/
def ftp : JobContext where
  platform := platform
  target := resource.target
  name := "web"
  inNamespace := some "shop.a"
  endpoint := .pod { named with settings := { named.settings with scheme := some "ftp" } }
  port := some (.named "http-metrics")
  metadata := [.pod, .container]

theorem exists_parts_ftp : ∃ parts : JobParts, parts.MadeFrom ftp (.own "shop.a") ∅ ∅ := by
  have hrules : (Phase.allRules ftp).toOption.isSome = true := by decide
  obtain ⟨relabeling, hrules⟩ := Option.isSome_iff_exists.mp hrules
  have htimes : Timing.both ftp.endpoint.settings = .ok (⟨30000⟩, ⟨30000⟩) := by decide
  exact ⟨⟨⟨30000⟩, ⟨30000⟩, relabeling, [], {}, ∅⟩, htimes, eq_ok_of_toOption hrules, rfl, rfl, rfl⟩

/-- A collector does not know the scheme. -/
theorem refused_ftp :
    Compiler.new platform = .ok compiler ∧ (∀ text ∈ ftp.literals, Selector.IsPatternable text) ∧
      ∃ parts : JobParts, parts.MadeFrom ftp (.own "shop.a") ∅ ∅ ∧
        (compiler.compileJob "shop.a/web" 0 ftp (.own "shop.a")).run ∅ =
          (.error (.refused (.job "shop.a/web/http-metrics" (.scheme "ftp"))), ∅) := by
  have hsize : ∀ text ∈ ftp.literals, Selector.IsPatternable text := by decide +kernel
  obtain ⟨parts, hparts⟩ := exists_parts_ftp
  obtain ⟨-, hrun⟩ := @Compiler.refused_iff_address_fault compiler "shop.a/web" 0 ftp
    (.own "shop.a") ∅ ∅ parts platform new_platform hparts hsize
  exact ⟨new_platform, hsize, parts, hparts, hrun⟩

end Sample

end ScrapeJobs
