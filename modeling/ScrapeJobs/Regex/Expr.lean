import ScrapeJobs.CharSet
import ScrapeJobs.Unicode.Properties

/-!
# Regular expressions as trees

`Expr` is an expression after its flags are resolved: classes are sets, and an anchor
names the exact condition it tests. The builders keep expressions in a normal form.
Sequences are flat, alternatives of single characters are one set, and alternatives that
share their first parts are written with those parts once (`Expr.alternatives`); the last
rule decides which of two matches is found first when the shared parts can match in
several ways.
-/

namespace ScrapeJobs.Regex

/-- A condition on a place in a text that takes up no characters. -/
inductive Anchor where
  | textStart
  | textEnd
  | lineStart
  | lineEnd
  /-- Line ends are carriage returns, line feeds, or one after the other. -/
  | crlfLineStart
  | crlfLineEnd
  | wordBoundary (unicode : Bool)
  | notWordBoundary (unicode : Bool)
  | wordStart (unicode : Bool)
  | wordEnd (unicode : Bool)
  /-- No character of a word stands before. -/
  | wordStartHalf (unicode : Bool)
  /-- No character of a word stands after. -/
  | wordEndHalf (unicode : Bool)
  deriving DecidableEq, Repr

/-- A regular expression. -/
inductive Expr where
  | empty
  | chars (set : CharSet)
  | anchor (a : Anchor)
  /-- Remembers what its body matches under a number. -/
  | group (number : Nat) (body : Expr)
  | seq (first second : Expr)
  /-- The first alternative is preferred. -/
  | alt (first second : Expr)
  /-- A body at least `min` times; greedy ones prefer more times, others fewer. -/
  | repeat (body : Expr) (min : Nat) (max : Option Nat) (greedy : Bool)
  deriving DecidableEq, Inhabited

namespace Expr

/-- Whether every match takes up at least one character. -/
def consumes : Expr → Bool
  | empty => false
  | chars _ => true
  | anchor _ => false
  | group _ x => x.consumes
  | seq x y => x.consumes || y.consumes
  | alt x y => x.consumes && y.consumes
  | «repeat» x min _ _ => min != 0 && x.consumes

/-- Whether no match takes up a character. -/
def isZeroWidth : Expr → Bool
  | empty => true
  | chars _ => false
  | anchor _ => true
  | group _ x => x.isZeroWidth
  | seq x y => x.isZeroWidth && y.isZeroWidth
  | alt x y => x.isZeroWidth && y.isZeroWidth
  | «repeat» x _ _ _ => x.isZeroWidth

/-! ## Sequences -/

/-- The parts of a sequence, in order. -/
def parts : Expr → List Expr
  | empty => []
  | seq x y => x.parts ++ y.parts
  | x => [x]

/-- A sequence of parts. Sequences lean to the left, so that a match goes on from every
place where the parts before can end, and not once for each way to get there. -/
def ofParts : List Expr → Expr
  | [] => empty
  | x :: rest => rest.foldl seq x

/-- One expression after the other. -/
def sequence (xs : List Expr) : Expr := ofParts (xs.flatMap parts)

/-- A text taken literally. -/
def literal (cs : List Char) : Expr := ofParts (cs.map fun c => chars (.singleton c))

/-! ## Alternatives -/

/-- The alternatives of an expression, in order of preference. -/
def branches : Expr → List Expr
  | alt x y => x.branches ++ y.branches
  | x => [x]

def ofBranches : List Expr → Expr
  | [] => chars .empty
  | [x] => x
  | x :: rest => alt x (ofBranches rest)

/-- The set that several single characters make up, if all of them are such. -/
def charSets? : List Expr → Option CharSet
  | [] => some .empty
  | chars s :: rest => (charSets? rest).map s.union
  | _ => none

/-- The longest common beginning of two lists. -/
def commonStart [DecidableEq α] : List α → List α → List α
  | x :: xs, y :: ys => if x = y then x :: commonStart xs ys else []
  | _, _ => []

/-- Writes alternatives of several parts with their common first parts once. -/
def factored (fuel : Nat) (xs : List Expr) : Expr :=
  match charSets? xs with
  | some s => if xs.length = 1 then ofBranches xs else chars s
  | none =>
    match fuel, xs.map parts with
    | fuel + 1, p :: q :: rest =>
      if (p :: q :: rest).all (2 ≤ ·.length) then
        match (q :: rest).foldl commonStart p with
        | [] => ofBranches xs
        | shared =>
          let rests := (p :: q :: rest).map fun r => ofParts (r.drop shared.length)
          ofParts (shared ++ (factored fuel (rests.flatMap branches)).parts)
      else ofBranches xs
    | _, _ => ofBranches xs

/-- Alternatives in order of preference. -/
def alternatives (xs : List Expr) : Expr :=
  let bs := xs.flatMap branches
  factored (bs.flatMap parts).length bs

/-! ## Repetitions -/

/-- A body some number of times. Repeating what matches nothing but the empty text more
than once adds no match. -/
def repeated (x : Expr) (min : Nat) (max : Option Nat) (greedy : Bool) : Expr :=
  let (min, max) :=
    if x.isZeroWidth then (Nat.min min 1, some (Nat.min (max.getD 1) 1)) else (min, max)
  if max = some 0 then empty
  else if min = 1 ∧ max = some 1 then x
  else «repeat» x min max greedy

end Expr

/-! ## Anchors -/

/-- Whether a character belongs to words: ASCII letters, digits and the low line, or the
word characters of Unicode. -/
def isWordChar (unicode : Bool) (c : Char) : Bool :=
  if c.toNat < 0x80 then c.isAlphanum || c = '_' else unicode && Unicode.word.contains c

/-- Whether an anchor holds before the character at a position of a text. -/
def Anchor.holds (text : Array Char) (i : Nat) : Anchor → Bool
  | textStart => i = 0
  | textEnd => i = text.size
  | lineStart => i = 0 || before = some '\n'
  | lineEnd => i = text.size || after = some '\n'
  | crlfLineStart => i = 0 || before = some '\n' || (before = some '\r' && after != some '\n')
  | crlfLineEnd =>
    i = text.size || after = some '\r' || (after = some '\n' && before != some '\r')
  | wordBoundary u => word u before != word u after
  | notWordBoundary u => word u before == word u after
  | wordStart u => !word u before && word u after
  | wordEnd u => word u before && !word u after
  | wordStartHalf u => !word u before
  | wordEndHalf u => !word u after
where
  before : Option Char := if i = 0 then none else text[i - 1]?
  after : Option Char := text[i]?
  word (u : Bool) (c : Option Char) : Bool := c.any (isWordChar u)

end ScrapeJobs.Regex
