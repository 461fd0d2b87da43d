import ScrapeJobs.Dict

/-!
# Secrets

A resource refers to keys of secrets and never holds their values. A reference is
resolved within the scope of the resource to a secret key; the key is kept in a pool under
its token, and the token is what a job holds. Of two keys with one token a pool keeps the
first.
-/

namespace ScrapeJobs

/-- A reference to a key of a secret, as a resource writes it. -/
structure SecretRef where
  name : String
  key : String
  /-- The namespace of the secret; an empty one is unset. -/
  inNamespace : Option String := none
  deriving DecidableEq

/-- A key of a secret. -/
structure SecretKey where
  inNamespace : String
  name : String
  key : String
  deriving DecidableEq

/-- The text that stands for a secret key in a job. -/
def SecretKey.token (s : SecretKey) : String := s.inNamespace ++ "/" ++ s.name ++ "/" ++ s.key

/-- The namespaces whose secrets a resource may refer to. -/
inductive SecretScope where
  /-- Only the resource's own. -/
  | own (ns : String)
  /-- Any; the given one if a reference names none. -/
  | any (default : String)
  deriving DecidableEq, Repr

/-- A reference to a secret outside of the resource's own namespace. -/
structure SecretScope.Violation where
  secret : String
  own : String
  requested : String
  deriving DecidableEq, Repr

/-- The namespace that a reference means. -/
def SecretScope.resolve (scope : SecretScope) (r : SecretRef) : Except Violation String :=
  match scope, r.inNamespace.filter (· ≠ "") with
  | .own ns, some requested => if requested = ns then .ok ns else .error ⟨r.name, ns, requested⟩
  | .own ns, none => .ok ns
  | .any _, some requested => .ok requested
  | .any default, none => .ok default

/-- The secret key that a reference means. -/
def SecretRef.resolve (r : SecretRef) (scope : SecretScope) :
    Except SecretScope.Violation SecretKey := do
  return { inNamespace := ← scope.resolve r, name := r.name, key := r.key }

/-- Secret keys by their tokens. -/
abbrev SecretPool := Dict SecretKey

namespace SecretPool

/-- Adds a secret key unless its token is taken. -/
def add (pool : SecretPool) (s : SecretKey) : SecretPool := pool.insertNew s.token s

/-- Resolves a reference: its token, which is empty without one, and the pool with the
secret key in it. A reference that is refused leaves the pool as it is. -/
def resolve (pool : SecretPool) (scope : SecretScope) :
    Option SecretRef → Except SecretScope.Violation String × SecretPool
  | none => (.ok "", pool)
  | some r =>
    match r.resolve scope with
    | .ok s => (.ok s.token, pool.add s)
    | .error e => (.error e, pool)

end SecretPool

end ScrapeJobs
