import ScrapeJobs.CharSet
import ScrapeJobs.Unicode.Properties

/-!
# Points in time

A point in time is read from a date, a time of day and an offset, as in
`2024-01-01T00:00:00+02:00`, and written in universal time with as many groups of three
fraction digits as it needs.
-/

namespace ScrapeJobs

/-- Seconds since the start of 1970 in universal time, and nanoseconds. A leap second is
counted in the nanoseconds of the second before it. -/
structure Time where
  seconds : Int
  nanos : Nat
  deriving DecidableEq, Repr

namespace Time

def nanosPerSecond : Nat := 1000000000

/-! ## The calendar -/

def isLeapYear (y : Int) : Bool := y % 4 = 0 && (y % 100 ≠ 0 || y % 400 = 0)

def daysInMonth (y : Int) (m : Nat) : Nat :=
  if m = 2 then if isLeapYear y then 29 else 28
  else if m = 4 ∨ m = 6 ∨ m = 9 ∨ m = 11 then 30
  else 31

/-- Days from the start of year zero to the start of a year. -/
def daysBeforeYear (y : Int) : Int :=
  365 * y + (y + 3).fdiv 4 - (y + 99).fdiv 100 + (y + 399).fdiv 400

def daysBeforeMonth (y : Int) (m : Nat) : Nat :=
  (List.range (m - 1)).foldl (fun n i => n + daysInMonth y (i + 1)) 0

/-- Days from the start of 1970 to a date. -/
def daysOfDate (y : Int) (m d : Nat) : Int :=
  daysBeforeYear y + daysBeforeMonth y m + d - 1 - daysBeforeYear 1970

/-- The year of a day counted from the start of year zero. -/
def yearOfDay (n : Int) : Int :=
  let y := (n * 400).fdiv 146097
  if n < daysBeforeYear y then y - 1 else if daysBeforeYear (y + 1) ≤ n then y + 1 else y

/-- Year, month and day of a day counted from the start of 1970. -/
def dateOfDays (n : Int) : Int × Nat × Nat :=
  let n := n + daysBeforeYear 1970
  let y := yearOfDay n
  let day := (n - daysBeforeYear y).toNat
  let m := ((List.range 12).filter fun i => daysBeforeMonth y (i + 1) ≤ day).length
  (y, m, day - daysBeforeMonth y m + 1)

/-! ## Reading -/

def natOfDigits (cs : List Char) : Nat :=
  cs.foldl (fun n c => n * 10 + (c.toNat - '0'.toNat)) 0

def skipSpace (cs : List Char) : List Char := cs.dropWhile Unicode.whiteSpace.contains

/-- A number of at least one and at most `width` digits. -/
def number? (width : Nat) (cs : List Char) : Option (Nat × List Char) :=
  let cs := skipSpace cs
  let digits := (cs.take width).takeWhile Char.isDigit
  if digits = [] then none else some (natOfDigits digits, cs.drop digits.length)

/-- A year of up to four digits, or of any number of digits after a sign. -/
def year? (cs : List Char) : Option (Int × List Char) :=
  match skipSpace cs with
  | '-' :: rest => if rest.head?.any Char.isDigit then
      (number? rest.length rest).map fun (n, rest) => (-n, rest) else none
  | '+' :: rest => if rest.head?.any Char.isDigit then
      (number? rest.length rest).map fun (n, rest) => (n, rest) else none
  | cs => (number? 4 cs).map fun (n, rest) => (n, rest)

/-- A character after optional space. -/
def mark? (c : Char) (cs : List Char) : Option (List Char) :=
  match skipSpace cs with
  | d :: rest => if c = d then some rest else none
  | [] => none

/-- The nanoseconds of an optional fraction; digits after the ninth do not count. -/
def fraction? (cs : List Char) : Option (Nat × List Char) :=
  match cs with
  | '.' :: rest =>
    let digits := rest.takeWhile Char.isDigit
    if digits = [] then none
    else
      let kept := digits.take 9
      some (natOfDigits kept * Nat.pow 10 (9 - kept.length), rest.dropWhile Char.isDigit)
  | _ => some (0, cs)

/-- An offset from universal time in seconds, up to the end of the text. -/
def offset? (cs : List Char) : Option Int :=
  let ends (rest : List Char) (n : Int) : Option Int :=
    if skipSpace rest = [] then some n else none
  let signed (sign : Int) (rest : List Char) : Option Int :=
    match rest with
    | a :: b :: rest =>
      match rest.dropWhile fun c => c = ':' || Unicode.whiteSpace.contains c with
      | c :: d :: rest =>
        if [a, b, c, d].all Char.isDigit && c ≤ '5' && natOfDigits [a, b] < 24 then
          ends rest (sign * (3600 * natOfDigits [a, b] + 60 * natOfDigits [c, d]))
        else none
      | _ => none
    | _ => none
  match skipSpace cs with
  | '+' :: rest => signed 1 rest
  | '-' :: rest => signed (-1) rest
  | '−' :: rest => signed (-1) rest
  | u :: t :: c :: rest =>
    if (String.ofList [u, t, c]).toLower = "utc" then ends rest 0
    else if u = 'Z' ∨ u = 'z' then ends (t :: c :: rest) 0
    else none
  | z :: rest => if z = 'Z' ∨ z = 'z' then ends rest 0 else none
  | [] => none

/-- Reads a point in time. -/
def parse? (s : String) : Option Time := do
  let (y, cs) ← year? s.toList
  let (m, cs) ← number? 2 (← mark? '-' cs)
  let (d, cs) ← number? 2 (← mark? '-' cs)
  let cs ← match cs with
    | c :: rest => if c = 'T' ∨ c = 't' ∨ c = ' ' then some rest else none
    | [] => none
  let (hour, cs) ← number? 2 cs
  let (minute, cs) ← number? 2 (← mark? ':' cs)
  let (second, cs) ← number? 2 (← mark? ':' cs)
  let (nanos, cs) ← fraction? cs
  let offset ← offset? cs
  let valid := y.natAbs ≤ 262142 && 1 ≤ m && m ≤ 12 && 1 ≤ d && d ≤ daysInMonth y m &&
    hour < 24 && minute < 60 && second ≤ 60
  if valid then
    let (second, nanos) := if second = 60 then (59, nanos + nanosPerSecond) else (second, nanos)
    return ⟨86400 * daysOfDate y m d + 3600 * hour + 60 * minute + second - offset, nanos⟩
  else none

/-! ## Writing -/

/-- A number with zeros in front up to a width. -/
def padded (width n : Nat) : String :=
  let digits := toString n
  String.ofList (List.replicate (width - digits.length) '0') ++ digits

def renderYear (y : Int) : String :=
  if 0 ≤ y ∧ y ≤ 9999 then padded 4 y.toNat
  else (if y < 0 then "-" else "+") ++ padded 4 y.natAbs

def renderFraction (nanos : Nat) : String :=
  if nanos = 0 then ""
  else if nanos % 1000000 = 0 then "." ++ padded 3 (nanos / 1000000)
  else if nanos % 1000 = 0 then "." ++ padded 6 (nanos / 1000)
  else "." ++ padded 9 nanos

/-- The text of a point in time. -/
def render (t : Time) : String :=
  let (y, m, d) := dateOfDays (t.seconds.fdiv 86400)
  let second := (t.seconds.fmod 86400).toNat
  let leap := t.nanos / nanosPerSecond
  renderYear y ++ "-" ++ padded 2 m ++ "-" ++ padded 2 d ++ "T" ++
    padded 2 (second / 3600) ++ ":" ++ padded 2 (second / 60 % 60) ++ ":" ++
    padded 2 (second % 60 + leap) ++
    renderFraction (t.nanos % nanosPerSecond) ++ "Z"

end Time

end ScrapeJobs
