import ScrapeJobs.Proofs.Http.Resolve

/-!
# Clients that pass the check

A client that is resolved from the settings of an endpoint has passed the check of a collector
(`Draft.Client.check_of_resolve`). The service account adds an authority or an authorization only
where there is none, so the client passes the check again (`Client.check_withServiceAccount`).
-/

namespace ScrapeJobs.Http

open Outcome

theorem refuse_eq_ok_iff {f : Fault} {condition : Bool} :
    refuse f condition = .ok () ↔ condition = false := by
  cases condition <;> simp [refuse]

namespace Tls

/-- The authority is checked apart from all else. -/
theorem check_eq_ok_iff_of_ca {t : Tls} :
    t.check = .ok () ↔ t.ca.isAmbiguous = false ∧ ({ t with ca := {} } : Tls).check = .ok () := by
  have hempty : ({} : Source).isAmbiguous = false := by decide
  unfold check
  simp only [bind_eq_ok_unit_iff, refuse_eq_ok_iff, hempty, true_and]
  rfl

/-- The authority of the service account is added only where there is none. -/
theorem withServiceAccount_cases (t : Tls) :
    t.withServiceAccount = t ∨
      t.ca = {} ∧ t.withServiceAccount = { t with ca := { file := serviceAccountCa } } := by
  unfold withServiceAccount
  split
  · exact .inl rfl
  · rename_i hset
    have hca : t.ca = {} := by
      by_contra hne
      simp [Source.isSet, hne] at hset
    refine .inr ⟨hca, ?_⟩
    rw [hca]

theorem check_withServiceAccount {t : Tls} (h : t.check = .ok ()) :
    t.withServiceAccount.check = .ok () := by
  rcases t.withServiceAccount_cases with hsame | ⟨-, hadded⟩
  · rw [hsame]
    exact h
  · have hfile : ({ file := serviceAccountCa } : Source).isAmbiguous = false := by decide
    obtain ⟨-, hrest⟩ := check_eq_ok_iff_of_ca.mp h
    rw [hadded]
    exact check_eq_ok_iff_of_ca.mpr ⟨hfile, hrest⟩

end Tls

namespace Client

theorem check_eq_ok_iff {c : Client} :
    c.check = .ok () ↔ c.schemes ≤ 1 ∧ checkPart BasicAuth.check c.basicAuth = .ok () ∧
      checkPart Authorization.check c.authorization = .ok () ∧
      checkPart OAuth2.check c.oauth2 = .ok () ∧ c.tls.check = .ok () ∧ c.proxy.check = .ok () := by
  unfold check
  simp only [bind_eq_ok_unit_iff, refuse_eq_ok_iff, decide_eq_false_iff_not, Nat.not_lt]

theorem eq_none_of_schemes {c : Client} (h : c.schemes = 0) :
    c.basicAuth = none ∧ c.authorization = none ∧ c.oauth2 = none := by
  have hunset := List.filter_eq_nil_iff.mp (List.length_eq_zero_iff.mp h)
  have hbasic : c.basicAuth = none := by simpa using hunset c.basicAuth.isSome (by simp)
  have hauthorization : c.authorization = none := by
    simpa using hunset c.authorization.isSome (by simp)
  have hoauth2 : c.oauth2 = none := by simpa using hunset c.oauth2.isSome (by simp)
  exact ⟨hbasic, hauthorization, hoauth2⟩

/-- The credentials of the service account are added only where there are none. -/
theorem schemes_withServiceAccount_le {c : Client} (h : c.schemes ≤ 1) :
    c.withServiceAccount.schemes ≤ 1 := by
  by_cases hnone : c.schemes = 0
  · obtain ⟨hbasic, -, hoauth2⟩ := eq_none_of_schemes hnone
    have hbasic' : c.withServiceAccount.basicAuth = none := hbasic
    have hoauth2' : c.withServiceAccount.oauth2 = none := hoauth2
    have hauthorization : c.withServiceAccount.authorization =
      some ⟨"Bearer", { file := serviceAccountToken }⟩ := if_pos hnone
    rw [schemes, hbasic', hauthorization, hoauth2']
    exact Nat.le_refl 1
  · have hauthorization : c.withServiceAccount.authorization = c.authorization := if_neg hnone
    rw [schemes, hauthorization]
    exact h

/-- A client passes the check with the service account if it passes without it. -/
theorem check_withServiceAccount {c : Client} (h : c.check = .ok ()) :
    c.withServiceAccount.check = .ok () := by
  obtain ⟨hschemes, hbasic, hauthorization, hoauth2, htls, hproxy⟩ := check_eq_ok_iff.mp h
  refine check_eq_ok_iff.mpr ⟨schemes_withServiceAccount_le hschemes, hbasic, ?_, hoauth2,
    Tls.check_withServiceAccount htls, hproxy⟩
  unfold withServiceAccount
  simp only
  split
  · have hbearer : (Authorization.mk "Bearer" { file := serviceAccountToken }).check = .ok () := by
      decide +kernel
    exact hbearer
  · exact hauthorization

end Client

theorem Draft.Client.check_of_resolve {scope : SecretScope} {d : Draft.Client} {c : Http.Client}
    {s t : SecretPool} (h : (d.resolve scope).run s = (.ok c, t)) : c.check = .ok () := by
  obtain ⟨made, -, -, -, -, -, -, -, -, hcheck⟩ := exists_of_resolve h
  exact hcheck

end ScrapeJobs.Http
