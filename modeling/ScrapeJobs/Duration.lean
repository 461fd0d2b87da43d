/-!
# Durations

A duration is a number of milliseconds below 2^64. It is written as numbers with units,
each unit at most once and longer units first: `1h30m`, `500ms`. `Duration.parse` reads
this notation and `Duration.render` writes it.
-/

namespace ScrapeJobs

/-- A length of time in milliseconds. -/
structure Duration where
  millis : UInt64
  deriving DecidableEq, Repr

/-- A unit of time. Units that are marked so are written only if they divide a duration
evenly, since `90d` reads better than `12w6d`. -/
structure TimeUnit where
  name : String
  millis : Nat
  onlyWhole : Bool := false

/-- The units, longest first. A year has 365 days. -/
def TimeUnit.all : List TimeUnit :=
  let day := 24 * 60 * 60 * 1000
  [⟨"y", 365 * day, true⟩, ⟨"w", 7 * day, true⟩, ⟨"d", day, false⟩,
    ⟨"h", 60 * 60 * 1000, false⟩, ⟨"m", 60 * 1000, false⟩, ⟨"s", 1000, false⟩, ⟨"ms", 1, false⟩]

namespace Duration

/-- Why a text is no duration. -/
inductive Fault where
  | empty
  | malformed
  | outOfRange
  deriving DecidableEq, Repr

def Fault.message : Fault → String
  | empty => "empty duration string"
  | malformed => "not a valid duration string"
  | outOfRange => "duration out of range"

instance : LE Duration := ⟨fun d e => d.millis ≤ e.millis⟩
instance : LT Duration := ⟨fun d e => d.millis < e.millis⟩
instance (d e : Duration) : Decidable (d ≤ e) := inferInstanceAs (Decidable (d.millis ≤ e.millis))
instance (d e : Duration) : Decidable (d < e) := inferInstanceAs (Decidable (d.millis < e.millis))

def ofSeconds (n : UInt64) : Duration := ⟨n * 1000⟩

def isZero (d : Duration) : Bool := d.millis = 0

/-! ## Reading -/

/-- The number that a list of digits makes. -/
def natOfDigits (cs : List Char) : Nat :=
  cs.foldl (fun n c => n * 10 + (c.toNat - '0'.toNat)) 0

/-- Adds the numbers of a text to a total. The units from the given ones on may occur. -/
def sum : List TimeUnit → Nat → List Char → Except Fault Nat
  | _, total, [] => .ok total
  | [], _, _ :: _ => .error .malformed
  | u :: units, total, cs =>
    let digits := cs.takeWhile Char.isDigit
    let rest := cs.dropWhile Char.isDigit
    if digits = [] ∨ UInt64.size ≤ natOfDigits digits then .error .malformed
    else if rest.takeWhile Char.isAlpha = u.name.toList then
      let total := total + natOfDigits digits * u.millis
      if total < UInt64.size then sum units total (rest.dropWhile Char.isAlpha)
      else .error .outOfRange
    else sum units total cs

/-- Reads a duration. A zero needs no unit. -/
def parse (s : String) : Except Fault Duration :=
  if s = "" then .error .empty
  else if s = "0" then .ok ⟨0⟩
  else (sum TimeUnit.all 0 s.toList).map fun n => ⟨UInt64.ofNat n⟩

/-! ## Writing -/

/-- A number of milliseconds in the given units. -/
def renderIn : List TimeUnit → Nat → String
  | [], _ => ""
  | u :: units, n =>
    if u.onlyWhole ∧ n % u.millis ≠ 0 ∨ n < u.millis then renderIn units n
    else toString (n / u.millis) ++ u.name ++ renderIn units (n % u.millis)

/-- The text of a duration. -/
def render (d : Duration) : String :=
  if d.millis = 0 then "0s" else renderIn TimeUnit.all d.millis.toNat

end Duration

end ScrapeJobs
