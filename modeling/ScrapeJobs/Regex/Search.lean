import ScrapeJobs.Regex.Expr

/-!
# Matching

`Expr.arrivals` lists where the matches of an expression from a position end, in order of
preference: greedy repetitions go on before they stop, earlier alternatives come first.
Since what can follow depends on the position alone, only the first way to each end is
kept, which bounds the work by a polynomial in the length of the text.

A repetition whose body can match nothing could go round for ever. Every choice has a
place in the expression (its path), and a match passes no choice twice without taking up a
character in between: an arrival carries the choices passed since its last character.
-/

namespace ScrapeJobs.Regex

/-- The place of a part in an expression, innermost step first. -/
abbrev Path := List Nat

/-- The end of one way to match. -/
structure Arrival where
  pos : Nat
  /-- Numbers of groups with the start and end of what they matched, latest first. -/
  groups : List (Nat × Nat × Nat)
  /-- The choices passed since the last character. -/
  passed : List Path
  deriving DecidableEq, Repr

/-- Ways to match from a path, a position and the choices passed there. -/
abbrev Ways := Path → Nat → List Path → List Arrival

/-- The arrival `b`, which goes on from `a`, with the groups of both. -/
def Arrival.andThen (a b : Arrival) : Arrival := { b with groups := b.groups ++ a.groups }

/-- Keeps the first arrival at each position; `seen` has the bits of positions left out. -/
def firsts (seen : Nat) : List Arrival → List Arrival
  | [] => []
  | a :: rest =>
    if seen.testBit a.pos then firsts seen rest
    else a :: firsts (seen ||| 1 <<< a.pos) rest

namespace Ways

/-- Matches the empty text. -/
def stay : Ways := fun _ i passed => [⟨i, [], passed⟩]

/-- Goes on from arrivals. -/
def goOn (w : Ways) (p : Path) (as : List Arrival) : List Arrival :=
  firsts 0 (as.flatMap fun a => (w p a.pos a.passed).map a.andThen)

/-- One after the other. -/
def seq (v w : Ways) : Ways := fun p i passed => goOn w (1 :: p) (v (0 :: p) i passed)

/-- The first or else the second, unless this choice was passed at this position. -/
def alt (v w : Ways) : Ways := fun p i passed =>
  if p ∈ passed then []
  else firsts 0 (v (0 :: p) i (p :: passed) ++ w (1 :: p) i (p :: passed))

/-- The body a fixed number of times. -/
def times (w : Ways) (n : Nat) : Ways := fun p i passed =>
  (List.range n).foldl (fun as k => goOn w (k :: 0 :: p) as) [⟨i, [], passed⟩]

/-- The choice between the body once more and going on, from an arrival. A choice is made
once at each position for each `level`, and `fuel` bounds how often the body is taken. What
is found goes to the front of the first part of the state, latest first; the second part
has the bits of the choices made. -/
def more (w : Ways) (greedy : Bool) (places : Nat) (level : Nat → Nat) (body : Nat → Path)
    (p : Path) : Nat → Arrival → List Arrival × Nat → List Arrival × Nat
  | 0, a, (found, seen) => (a :: found, seen)
  | fuel + 1, a, (found, seen) =>
    let here := level (fuel + 1)
    let choice : Path := here :: 1 :: p
    let bit := here * places + a.pos
    if choice ∈ a.passed ∨ seen.testBit bit then (found, seen)
    else
      let stop : Arrival := { a with passed := choice :: a.passed }
      let again (state : List Arrival × Nat) : List Arrival × Nat :=
        (w (body (fuel + 1)) a.pos stop.passed).foldl
          (fun state b => more w greedy places level body p fuel (a.andThen b) state) state
      if greedy then
        let (found, seen) := again (found, seen ||| 1 <<< bit)
        (stop :: found, seen)
      else again (stop :: found, seen ||| 1 <<< bit)

/-- From arrivals, the body up to `n` times. -/
def upTo (w : Ways) (greedy : Bool) (size n : Nat) (p : Path) (as : List Arrival) :
    List Arrival :=
  firsts 0
    (as.foldl (fun state a => more w greedy (size + 1) id (fun k => k :: 2 :: p) p n a state)
      ([], 0)).1.reverse

/-- From arrivals at a choice, the body any number of times; `body` is its path. -/
def loop (w : Ways) (greedy : Bool) (size : Nat) (body p : Path) (as : List Arrival) :
    List Arrival :=
  firsts 0
    (as.foldl
      (fun state a =>
        more w greedy (size + 1) (fun _ => 0) (fun _ => body) p (size + 2) a state)
      ([], 0)).1.reverse

/-- The ways of an optional part. -/
def opt (w : Ways) (greedy : Bool) : Ways := if greedy then alt w stay else alt stay w

/-- A body with bounds on how often it is taken. A loop from zero on whose body may match
nothing is an optional loop from one on: so an empty round ends the loop. -/
def «repeat» (w : Ways) (size : Nat) (consumes : Bool) (min : Nat) (max : Option Nat)
    (greedy : Bool) : Ways := fun p i passed =>
  match max with
  | some max => upTo w greedy size (max - min) p (times w min p i passed)
  | none =>
    match min with
    | 0 =>
      if consumes then loop w greedy size (0 :: 2 :: p) p [⟨i, [], passed⟩]
      else
        opt (fun q i passed => loop w greedy size (0 :: q) q (w (0 :: q) i passed)) greedy
          p i passed
    | n + 1 => loop w greedy size (n :: 0 :: p) p (times w (n + 1) p i passed)

end Ways

/-- Where the matches of an expression end, most preferred first. -/
def Expr.arrivals (text : Array Char) : Expr → Ways
  | empty => .stay
  | chars s => fun _ i _ =>
    match text[i]? with
    | some c => if s.contains c then [⟨i + 1, [], []⟩] else []
    | none => []
  | anchor a => fun _ i passed => if a.holds text i then [⟨i, [], passed⟩] else []
  | group n x => fun p i passed =>
    (x.arrivals text p i passed).map fun a => { a with groups := (n, i, a.pos) :: a.groups }
  | seq x y => .seq (x.arrivals text) (y.arrivals text)
  | alt x y => .alt (x.arrivals text) (y.arrivals text)
  | «repeat» x min max greedy =>
    .repeat (x.arrivals text) text.size x.consumes min max greedy

/-! ## Search -/

/-- A match: its span and the spans of its groups. -/
structure Match where
  start : Nat
  stop : Nat
  groups : List (Nat × Nat × Nat)
  deriving DecidableEq, Repr

/-- The span of a group, of the whole match for number zero. -/
def Match.span? (m : Match) (number : Nat) : Option (Nat × Nat) :=
  if number = 0 then some (m.start, m.stop) else m.groups.lookup number

/-- The preferred match that starts at a position. -/
def Expr.matchAt? (x : Expr) (text : Array Char) (i : Nat) : Option Match :=
  (x.arrivals text [] i []).head?.map fun a => ⟨i, a.pos, a.groups⟩

/-- The leftmost match that starts at a position or later, and of those the preferred. -/
def Expr.find? (x : Expr) (text : Array Char) (start : Nat) : Option Match :=
  (List.range' start (text.size + 1 - start)).findSome? (x.matchAt? text)

/-- All matches from left to right. An empty match does not touch the match before it. -/
def Expr.findAll (x : Expr) (text : Array Char) : List Match :=
  go (text.size + 2) 0 none
where
  go : Nat → Nat → Option Nat → List Match
    | 0, _, _ => []
    | fuel + 1, start, last =>
      match x.find? text start with
      | none => []
      | some m =>
        if m.start = m.stop ∧ last = some m.stop then go fuel (start + 1) none
        else m :: go fuel m.stop (some m.stop)

end ScrapeJobs.Regex
