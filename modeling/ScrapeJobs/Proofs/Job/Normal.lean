import ScrapeJobs.Job
import ScrapeJobs.Proofs.Http.Resolve

/-!
# Jobs that leave nothing to a collector

A collector adds nothing to a client that names the scheme of its authorization
(`Client.normalize_eq_self_iff`), and nothing to a job with such a client, a path and a scheme
(`Job.normalize_eq_self_iff`). Clients that are resolved from the settings of an endpoint are
such clients, and they stay so with the service account.
-/

namespace ScrapeJobs

open Outcome

namespace Http

namespace Client

theorem defaultScheme_ne_empty : defaultScheme ≠ "" := by decide

theorem normalize_eq_self_iff {c : Client} :
    c.normalize = c ↔ ∀ a ∈ c.authorization, a.scheme ≠ "" := by
  obtain ⟨basicAuth, authorization, oauth2, tls, proxy, followRedirects, enableHttp2⟩ := c
  cases authorization with
  | none => simp [normalize]
  | some a =>
    obtain ⟨scheme, credentials⟩ := a
    by_cases hscheme : scheme = ""
    · simp [normalize, hscheme, defaultScheme_ne_empty]
    · simp [normalize, hscheme]

theorem normalize_normalize (c : Client) : c.normalize.normalize = c.normalize := by
  refine normalize_eq_self_iff.mpr fun a ha => ?_
  obtain ⟨b, -, rfl⟩ := Option.map_eq_some_iff.mp ha
  split
  · exact defaultScheme_ne_empty
  · assumption

theorem normalize_withServiceAccount {c : Client} (h : c.normalize = c) :
    c.withServiceAccount.normalize = c.withServiceAccount := by
  refine normalize_eq_self_iff.mpr fun a ha => ?_
  unfold withServiceAccount at ha
  simp only at ha
  split at ha
  · cases ha
    exact defaultScheme_ne_empty
  · exact normalize_eq_self_iff.mp h a ha

end Client

theorem Draft.Client.normalize_of_resolve {scope : SecretScope} {d : Draft.Client} {c : Http.Client}
    {s t : SecretPool} (h : (d.resolve scope).run s = (.ok c, t)) : c.normalize = c := by
  obtain ⟨made, -, -, -, -, -, -, -, rfl, -⟩ := exists_of_resolve h
  exact made.normalize_normalize

end Http

theorem Job.normalize_eq_self_iff {j : Job} :
    j.normalize = j ↔ j.path ≠ "" ∧ j.scheme ≠ "" ∧ j.client.normalize = j.client := by
  have hset (s t : String) (ht : t ≠ "") : (if s = "" then t else s) = s ↔ s ≠ "" := by
    by_cases hs : s = "" <;> simp [hs, ht]
  cases j
  simp only [normalize, mk.injEq, hset _ "/metrics" (by decide), hset _ "http" (by decide),
    true_and, and_true]

end ScrapeJobs
