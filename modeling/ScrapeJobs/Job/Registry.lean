import ScrapeJobs.Rejection

/-!
# Names of jobs

A registry has the names of the jobs of a batch with their places. The jobs of a resource
are registered together or not at all, and only if all names are new.
-/

namespace ScrapeJobs

/-- The names of the jobs so far, with their places in the batch. -/
structure Registry where
  seen : Dict Nat := ∅
  size : Nat := 0
  deriving DecidableEq

namespace Registry

/-- Adds names from a place on to those that are taken; fails with the first one that is
taken, its number and the place of its holder. -/
def addAll (seen : Dict Nat) (size : Nat) :
    Nat → List String → Except (Nat × String × Nat) (Dict Nat)
  | _, [] => .ok seen
  | i, n :: rest =>
    match seen.get? n with
    | some first => .error (i, n, first)
    | none => addAll (seen.insert n (size + i)) size (i + 1) rest

/-- Registers the jobs of a resource by their names. -/
def register (r : Registry) (resource : String) (names : List String) :
    Except Rejection Registry :=
  match addAll r.seen r.size 0 names with
  | .ok seen => .ok ⟨seen, r.size + names.length⟩
  | .error (i, n, first) => .error ⟨resource, some i, .duplicateJob n first (r.size + i)⟩

end Registry

end ScrapeJobs
