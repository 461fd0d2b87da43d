/-!
# Punycode

A host label that starts with `xn--` holds characters outside of ASCII in a coded form: the
ASCII characters come first, then each further character as a number that says how far it lies
behind the one before, in value and position.
-/

namespace ScrapeJobs.Url.Punycode

def digit? (c : Char) : Option Nat :=
  if c.isLower then some (c.toNat - 'a'.toNat)
  else if c.isUpper then some (c.toNat - 'A'.toNat)
  else if c.isDigit then some (c.toNat - '0'.toNat + 26)
  else none

/-- The least value of a digit that goes on to another one. -/
def threshold (k bias : Nat) : Nat := min 26 (max 1 (k - bias))

/-- A number of digits with growing weights, and what comes behind it. -/
def number? (bias : Nat) : Nat → Nat → Nat → List Char → Option (Nat × List Char)
  | _, _, _, [] => none
  | k, weight, n, c :: rest => do
    let d ← digit? c
    let n := n + d * weight
    let t := threshold k bias
    if UInt32.size ≤ n then none
    else if d < t then return (n, rest)
    else number? bias (k + 36) (weight * (36 - t)) n rest

/-- The bias for the number after one of value `delta`. -/
def adapt (delta size : Nat) (first : Bool) : Nat :=
  let delta := if first then delta / 700 else delta / 2
  go 8 (delta + delta / size) 0
where
  go : Nat → Nat → Nat → Nat
    | 0, _, k => k
    | fuel + 1, delta, k =>
      if 455 < delta then go fuel (delta / 35) (k + 36) else k + 36 * delta / (delta + 38)

/-- Adds the coded characters to the text so far; `first` tells that none was added. -/
def insertAll? (first : Bool) : Nat → Nat → Nat → Nat → List Char → List Char → Option (List Char)
  | _, _, _, _, done, [] => some done
  | 0, _, _, _, _, _ :: _ => none
  | fuel + 1, code, start, bias, done, cs => do
    let (n, rest) ← number? bias 36 1 0 cs
    let size := done.length + 1
    let code := code + (start + n) / size
    let place := (start + n) % size
    if code < 0x110000 ∧ ¬(0xD800 ≤ code ∧ code < 0xE000) then
      insertAll? false fuel code (place + 1) (adapt n size first)
        (done.take place ++ Char.ofNat code :: done.drop place) rest
    else none

/-- The text that a label stands for, given what follows `xn--`. -/
def decode? (cs : List Char) : Option (List Char) :=
  let tail := (cs.reverse.takeWhile (· != '-')).reverse
  let head := (cs.take (cs.length - tail.length)).dropLast
  insertAll? true (tail.length + 1) 0x80 0 72 head tail

end ScrapeJobs.Url.Punycode
