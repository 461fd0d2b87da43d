import ScrapeJobs.Http.Resolve
import ScrapeJobs.Proofs.Outcome

/-!
# Resolving clients

A reference to a secret is resolved against the pool as it is (`run_token`). A client is made of
its parts, each resolved against the pool that the one before left, and it has passed the check
(`Draft.Client.exists_of_resolve`).
-/

namespace ScrapeJobs.Http

open Outcome

variable {scope : SecretScope} {s t : SecretPool}

theorem run_token (scope : SecretScope) (r : Option SecretRef) (s : SecretPool) :
    (token scope r).run s = ((s.resolve scope r).1.mapError .tenancy, (s.resolve scope r).2) := by
  have hget : (getThe SecretPool : Resolving SecretPool).run s = (.ok s, s) := rfl
  rw [token, run_bind_of_ok hget]
  rcases s.resolve scope r with ⟨_ | _, _⟩ <;> rfl

/-- The client of a job was made of its parts and has passed the check. -/
theorem Draft.Client.exists_of_resolve {d : Draft.Client} {c : Http.Client}
    (h : (d.resolve scope).run s = (.ok c, t)) :
    ∃ (made : Http.Client) (s₁ s₂ s₃ : SecretPool),
      (resolvePart (Authorization.resolve scope) d.authorization).run s =
        (.ok made.authorization, s₁) ∧
      (resolvePart (BasicAuth.resolve scope) d.basicAuth).run s₁ = (.ok made.basicAuth, s₂) ∧
      (resolvePart (OAuth2.resolve scope) d.oauth2).run s₂ = (.ok made.oauth2, s₃) ∧
      (Tls.resolve scope d.tls).run s₃ = (.ok made.tls, t) ∧
      c = made.normalize ∧ c.check = .ok () := by
  unfold resolve at h
  obtain ⟨authorization, s₁, hauthorization, h⟩ := run_bind_eq_ok h
  obtain ⟨basicAuth, s₂, hbasicAuth, h⟩ := run_bind_eq_ok h
  obtain ⟨oauth2, s₃, hoauth2, h⟩ := run_bind_eq_ok h
  obtain ⟨tls, s₄, htls, h⟩ := run_bind_eq_ok h
  simp only at h
  split at h
  · rename_i hcheck
    cases h
    exact ⟨_, s₁, s₂, s₃, hauthorization, hbasicAuth, hoauth2, htls, rfl, hcheck⟩
  · cases h

end ScrapeJobs.Http
