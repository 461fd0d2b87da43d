/-!
# Replacement templates

A template is text with references to groups: `$name`, which takes the longest run of
letters, digits and low lines, and `${name}`, which takes any text up to the closing
brace. `$$` is a dollar sign, and so is a dollar sign that starts no reference.
-/

namespace ScrapeJobs.Regex

/-- A part of a template. -/
inductive Piece where
  | char (c : Char)
  /-- A group, by number or name. -/
  | group (name : List Char)
  deriving DecidableEq, Repr

/-- Characters of a reference without braces: ASCII letters, digits and the low line. -/
def isReferenceChar (c : Char) : Bool := c.isAlphanum || c = '_'

theorem length_dropWhile_le (p : Char → Bool) (cs : List Char) :
    (cs.dropWhile p).length ≤ cs.length :=
  (List.dropWhile_suffix p).length_le

/-- Splits a template into its parts. -/
def pieces : List Char → List Piece
  | [] => []
  | '$' :: '$' :: rest => .char '$' :: pieces rest
  | '$' :: '\x7b' :: rest =>
    match _h : rest.dropWhile (· != '\x7d') with
    | _ :: after => .group (rest.takeWhile (· != '\x7d')) :: pieces after
    | [] => .char '$' :: pieces ('\x7b' :: rest)
  | '$' :: rest =>
    if rest.takeWhile isReferenceChar = [] then .char '$' :: pieces rest
    else .group (rest.takeWhile isReferenceChar) :: pieces (rest.dropWhile isReferenceChar)
  | c :: rest => .char c :: pieces rest
termination_by cs => cs.length
decreasing_by
  · simp only [List.length_cons]
    omega
  · have hle := length_dropWhile_le (· != '\x7d') rest
    rw [_h] at hle
    simp only [List.length_cons] at hle ⊢
    omega
  · simp only [List.length_cons]
    omega
  · simp only [List.length_cons]
    omega
  · have hle := length_dropWhile_le isReferenceChar rest
    simp only [List.length_cons]
    omega
  · simp only [List.length_cons]
    omega

/-- Writes out a template, given what the references stand for. -/
def expandPieces (value : List Char → List Char) (template : List Char) : List Char :=
  (pieces template).flatMap fun
    | .char c => [c]
    | .group name => value name

/-- The number that a reference is, if it is one: digits after an optional plus sign. A
number too large for a machine word is a name. -/
def groupNumber? (name : List Char) : Option Nat :=
  let digits := match name with
    | '+' :: rest => rest
    | _ => name
  if digits ≠ [] ∧ digits.all Char.isDigit then
    let n := digits.foldl (fun n d => n * 10 + (d.toNat - '0'.toNat)) 0
    if n < UInt64.size then some n else none
  else none

end ScrapeJobs.Regex
