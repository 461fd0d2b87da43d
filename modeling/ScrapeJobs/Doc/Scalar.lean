/-!
# Plain scalars

What a scalar without quotes stands for where any value may stand: nothing, a truth
value, a number or else a text. `Scalar.ofText` decides this for reading, and writing
quotes each text that would be read as something else.
-/

namespace ScrapeJobs

/-- The kinds of plain scalars. -/
inductive Scalar where
  | null
  | bool (b : Bool)
  /-- An integer of 64 bits, signed or not. -/
  | int (n : Int)
  /-- An integer that needs up to 128 bits. -/
  | huge
  | float
  | text
  deriving DecidableEq, Repr

namespace Scalar

/-! ## Numbers -/

def digit? (c : Char) : Option Nat :=
  if c.isDigit then some (c.toNat - '0'.toNat)
  else if 'a' ≤ c ∧ c ≤ 'f' then some (c.toNat - 'a'.toNat + 10)
  else if 'A' ≤ c ∧ c ≤ 'F' then some (c.toNat - 'A'.toNat + 10)
  else none

/-- The number that one or more digits make in a base up to sixteen. -/
def natOfDigits? (base : Nat) : List Char → Option Nat
  | [] => none
  | cs => cs.foldlM (fun n c => do
      let d ← digit? c
      if d < base then return n * base + d else none) 0

/-- Digits with a zero in front are no number. -/
def hasLeadingZero (cs : List Char) : Bool :=
  let cs := match cs with
    | '-' :: rest => rest
    | '+' :: rest => rest
    | _ => cs
  match cs with
  | '0' :: c :: rest => (c :: rest).all Char.isDigit
  | _ => false

/-- A number with a mark for its base, other than ten, in front. -/
def marked? : List Char → Option Nat
  | '0' :: 'x' :: rest => natOfDigits? 16 rest
  | '0' :: 'o' :: rest => natOfDigits? 8 rest
  | '0' :: 'b' :: rest => natOfDigits? 2 rest
  | _ => none

/-- A number without a sign or after a plus sign. -/
def nat? (cs : List Char) : Option Nat :=
  let digits := match cs with
    | '+' :: rest => rest
    | _ => cs
  match marked? digits with
  | some n => some n
  | none => if hasLeadingZero cs then none else natOfDigits? 10 digits

/-- A number after a minus sign, without the sign. -/
def negative? : List Char → Option Nat
  | '-' :: digits =>
    match marked? digits with
    | some n => some n
    | none => if hasLeadingZero digits then none else natOfDigits? 10 digits
  | _ => none

/-- The midpoint of the largest double and the next power of two. -/
def doubleBound : Nat := Nat.pow 2 1024 - Nat.pow 2 970

/-- Whether a decimal number rounds to a finite double. -/
def fitsDouble (mantissa : Nat) (exponent : Int) : Bool :=
  if mantissa = 0 then true
  else if exponent < 0 then
    (toString mantissa).length < 300 + exponent.natAbs ||
      mantissa < doubleBound * Nat.pow 10 exponent.natAbs
  else exponent ≤ 400 && mantissa * Nat.pow 10 exponent.toNat < doubleBound

/-- The digits at the start of a text, which may be none, and the rest. -/
def spanDigits (cs : List Char) : List Char × List Char :=
  (cs.takeWhile Char.isDigit, cs.dropWhile Char.isDigit)

/-- The exponent that a text is, if it is empty or one. -/
def exponent? : List Char → Option Int
  | [] => some 0
  | e :: rest =>
    if e = 'e' ∨ e = 'E' then
      match rest with
      | '-' :: ds => (natOfDigits? 10 ds).map fun n => -n
      | '+' :: ds => (natOfDigits? 10 ds).map fun n => n
      | ds => (natOfDigits? 10 ds).map fun n => n
    else none

/-- Whether a text is a decimal number that is finite as a double. -/
def isDecimal (cs : List Char) : Bool :=
  let (whole, cs) := spanDigits cs
  let (fraction, cs) := match cs with
    | '.' :: rest => spanDigits rest
    | _ => ([], cs)
  match natOfDigits? 10 (whole ++ fraction), exponent? cs with
  | some mantissa, some e => fitsDouble mantissa (e - fraction.length)
  | _, _ => false

def infinities : List String := [".inf", ".Inf", ".INF"]

/-- Whether a text is a number with a fraction or an exponent, infinite or no number. -/
def isFloat (cs : List Char) : Bool :=
  if [".nan", ".NaN", ".NAN"].contains (String.ofList cs) then true
  else
    let digits := match cs with
      | '-' :: rest => rest
      | '+' :: rest => rest
      | _ => cs
    infinities.contains (String.ofList digits) || isDecimal digits

/-! ## Kinds -/

def bool? (s : String) : Option Bool :=
  if ["true", "True", "TRUE"].contains s then some true
  else if ["false", "False", "FALSE"].contains s then some false
  else none

/-- Whether a text stands for nothing. -/
def isNull (s : String) : Bool := ["", "~", "null", "Null", "NULL"].contains s

/-- A natural number of 64 bits. -/
def word? (s : String) : Option Nat := (nat? s.toList).filter (· < UInt64.size)

/-- The kind of a plain scalar. -/
def ofText (s : String) : Scalar :=
  if isNull s then .null
  else
    match bool? s with
    | some b => .bool b
    | none =>
      let cs := s.toList
      match nat? cs, negative? cs with
      | some n, _ =>
        if n < UInt64.size then .int n else if n < UInt64.size * UInt64.size then .huge
        else if isFloat cs then .float else .text
      | none, some n =>
        if n ≤ UInt64.size / 2 then .int (-n)
        else if n ≤ UInt64.size * UInt64.size / 2 then .huge
        else if isFloat cs then .float else .text
      | none, none => if !hasLeadingZero cs && isFloat cs then .float else .text

end Scalar

end ScrapeJobs
