import ScrapeJobs.Regex.Expr
import ScrapeJobs.Unicode.Folding
import ScrapeJobs.Unicode.Lookup

/-!
# Reading regular expressions

`read?` turns a pattern into an expression, its number of groups and their names. Flags
are resolved while reading: they hold from where they are set to the end of the group,
across its alternatives. Patterns are refused when malformed, when nested too deep, when a
class could match a part of a character, and when they are too large.
-/

namespace ScrapeJobs.Regex

/-- What `(?…)` sets. -/
structure Flags where
  caseInsensitive : Bool := false
  multiLine : Bool := false
  dotAll : Bool := false
  swapGreed : Bool := false
  unicode : Bool := true
  crlf : Bool := false
  /-- Blanks and comments in the pattern are skipped. -/
  skipsBlanks : Bool := false
  deriving DecidableEq

/-! ## Blanks and numbers -/

def isBlank (c : Char) : Bool := Unicode.whiteSpace.contains c

/-- Skips blanks and comments, which run from a hash sign to the end of the line. -/
def skipBlanks (inComment : Bool) : List Char → List Char
  | [] => []
  | c :: rest =>
    if inComment then skipBlanks (c != '\n') rest
    else if isBlank c then skipBlanks false rest
    else if c = '#' then skipBlanks true rest
    else c :: rest

/-- Skips blanks and comments where the flags say so. -/
def Flags.skip (f : Flags) (cs : List Char) : List Char :=
  if f.skipsBlanks then skipBlanks false cs else cs

def digitValue? (base : Nat) (c : Char) : Option Nat :=
  let v :=
    if c.isDigit then some (c.toNat - '0'.toNat)
    else if 'a' ≤ c ∧ c ≤ 'f' then some (c.toNat - 'a'.toNat + 10)
    else if 'A' ≤ c ∧ c ≤ 'F' then some (c.toNat - 'A'.toNat + 10)
    else none
  v.filter (· < base)

/-- A number at the start of a text. -/
def numberOf (base : Nat) (cs : List Char) : Nat :=
  cs.foldl (fun n c => base * n + (digitValue? base c).getD 0) 0

/-- The digits at the start of a text, blanks between them skipped as the flags say. -/
def Flags.digits (f : Flags) (base : Nat) : Nat → List Char → List Char × List Char
  | 0, cs => ([], cs)
  | fuel + 1, c :: rest =>
    if (digitValue? base c).isSome then
      let (ds, rest) := f.digits base fuel (f.skip rest)
      (c :: ds, rest)
    else ([], c :: rest)
  | _ + 1, [] => ([], [])

/-- A count of a repetition. -/
def Flags.count? (f : Flags) (cs : List Char) : Option (Nat × List Char) :=
  let cs := cs.dropWhile isBlank
  let (ds, rest) := f.digits 10 cs.length cs
  let n := numberOf 10 ds
  if ds.isEmpty ∨ UInt32.size ≤ n then none else some (n, (f.skip rest).dropWhile isBlank)

/-! ## Escapes -/

/-- A part of a pattern that is the same inside and outside of classes. -/
inductive Item where
  /-- A character; `byte` if it is written as two hexadecimal digits. -/
  | char (c : Char) (byte : Bool)
  | set (s : CharSet)
  | anchor (a : Anchor)

/-- ASCII characters that stand for themselves after a backslash. -/
def isEscapable (c : Char) : Bool :=
  c.toNat < 0x80 && !c.isAlphanum && c != '<' && c != '>'

def charOfCode? (n : Nat) : Option Char :=
  if n.isValidChar then some (Char.ofNat n) else none

/-- Hexadecimal digits in braces or a fixed number of them. -/
def Flags.hexEscape? (f : Flags) (digits : Nat) (cs : List Char) :
    Option (Item × List Char) := do
  match f.skip cs with
  | [] => none
  | '\x7b' :: rest =>
    let rest := f.skip rest
    let (ds, rest) := f.digits 16 rest.length rest
    match rest with
    | '\x7d' :: rest =>
      if ds.isEmpty ∨ UInt32.size ≤ numberOf 16 ds then none
      else return (.char (← charOfCode? (numberOf 16 ds)) false, f.skip rest)
    | _ => none
  | cs =>
    let (ds, rest) := f.digits 16 digits cs
    if ds.length ≠ digits then none
    else return (.char (← charOfCode? (numberOf 16 ds)) (digits = 2), rest)

/-- Splits a list at the first place where a separator stands. -/
def splitAt? (sep : List Char) : List Char → Option (List Char × List Char)
  | [] => if sep.isEmpty then some ([], []) else none
  | c :: rest =>
    if sep.isPrefixOf (c :: rest) then some ([], (c :: rest).drop sep.length)
    else (splitAt? sep rest).map fun p => (c :: p.1, p.2)

/-- The set of a property written between braces. -/
def propertySet? (name : List Char) : Option CharSet :=
  match splitAt? ['!', '='] name with
  | some (n, v) => Unicode.valued? n v
  | none =>
    match splitAt? [':'] name with
    | some (n, v) => Unicode.valued? n v
    | none =>
      match splitAt? ['='] name with
      | some (n, v) => Unicode.valued? n v
      | none => Unicode.named? name

/-- Folds case as the flags say and then takes the complement if asked to. Without the
Unicode flag a set that is not ASCII could match a part of a character and is refused. -/
def Flags.close? (f : Flags) (negated : Bool) (s : CharSet) : Option CharSet :=
  if f.unicode then
    let s := if f.caseInsensitive then s.foldCase else s
    some (if negated then s.complement else s)
  else if negated then none
  else
    let s := if f.caseInsensitive then s.foldAsciiCase else s
    if s.isAscii then some s else none

/-- The text of a property in braces, up to the closing one. -/
def Flags.braced? (f : Flags) : Nat → List Char → Option (List Char × List Char)
  | 0, _ => none
  | fuel + 1, cs =>
    match f.skip cs with
    | [] => none
    | '\x7d' :: rest => some ([], rest)
    | c :: rest => (f.braced? fuel rest).map fun p => (c :: p.1, p.2)

/-- What follows a backslash and a `p`. -/
def Flags.property? (f : Flags) (negated : Bool) (cs : List Char) :
    Option (Item × List Char) := do
  let (name, rest) ← match f.skip cs with
    | [] => none
    | '\x7b' :: rest => f.braced? (rest.length + 1) rest
    | '\\' :: _ => none
    | c :: rest => some ([c], f.skip rest)
  if !f.unicode then none
  else return (.set (← f.close? negated (← propertySet? name)), rest)

/-- One of the classes with a letter for a name, upper case for the complement. -/
def Flags.letterClass? (f : Flags) (c : Char) : Option CharSet :=
  let s : CharSet := match c.toLower, f.unicode with
    | 'd', true => Unicode.digit
    | 'd', false => ⟨[(0x30, 0x39)]⟩
    | 's', true => Unicode.whiteSpace
    | 's', false => ⟨[(0x09, 0x0D), (0x20, 0x20)]⟩
    | _, true => Unicode.word
    | _, false => ⟨[(0x30, 0x39), (0x41, 0x5A), (0x5F, 0x5F), (0x61, 0x7A)]⟩
  if c.isUpper then (if f.unicode then some s.complement else none) else some s

/-- The word boundary that a name in braces stands for. No result means that the braces
are a repetition. -/
def Flags.namedBoundary? (f : Flags) (cs : List Char) : Option (Option (Anchor × List Char)) :=
  match f.skip cs with
  | [] => none
  | c :: rest =>
    if !isNameChar c then some none
    else
      let (name, rest) := letters (rest.length + 1) (c :: rest)
      match rest with
      | '\x7d' :: rest =>
        match String.ofList name with
        | "start" => some (some (.wordStart f.unicode, rest))
        | "end" => some (some (.wordEnd f.unicode, rest))
        | "start-half" => some (some (.wordStartHalf f.unicode, rest))
        | "end-half" => some (some (.wordEndHalf f.unicode, rest))
        | _ => none
      | _ => none
where
  isNameChar (c : Char) : Bool := c.isAlpha || c = '-'
  letters : Nat → List Char → List Char × List Char
    | 0, cs => ([], cs)
    | fuel + 1, c :: rest =>
      if isNameChar c then
        let (ds, rest) := letters fuel (f.skip rest)
        (c :: ds, rest)
      else ([], c :: rest)
    | _ + 1, [] => ([], [])

/-- What follows a backslash. -/
def Flags.escape? (f : Flags) : List Char → Option (Item × List Char)
  | [] => none
  | 'x' :: rest => f.hexEscape? 2 rest
  | 'u' :: rest => f.hexEscape? 4 rest
  | 'U' :: rest => f.hexEscape? 8 rest
  | 'p' :: rest => f.property? false rest
  | 'P' :: rest => f.property? true rest
  | 'a' :: rest => some (.char '\x07' false, rest)
  | 'f' :: rest => some (.char '\x0c' false, rest)
  | 't' :: rest => some (.char '\t' false, rest)
  | 'n' :: rest => some (.char '\n' false, rest)
  | 'r' :: rest => some (.char '\r' false, rest)
  | 'v' :: rest => some (.char '\x0b' false, rest)
  | 'A' :: rest => some (.anchor .textStart, rest)
  | 'z' :: rest => some (.anchor .textEnd, rest)
  | 'b' :: '\x7b' :: rest =>
    match f.namedBoundary? rest with
    | none => none
    | some none => some (.anchor (.wordBoundary f.unicode), '\x7b' :: rest)
    | some (some (a, rest)) => some (.anchor a, rest)
  | 'b' :: rest => some (.anchor (.wordBoundary f.unicode), rest)
  | 'B' :: rest => some (.anchor (.notWordBoundary f.unicode), rest)
  | '<' :: rest => some (.anchor (.wordStart f.unicode), rest)
  | '>' :: rest => some (.anchor (.wordEnd f.unicode), rest)
  | c :: rest =>
    if "dswDSW".toList.contains c then (f.letterClass? c).map fun s => (.set s, rest)
    else if isEscapable c then some (.char c false, rest)
    else none

/-! ## Classes in brackets -/

/-- The classes with a name between colons. -/
def asciiClasses : List (String × List (Nat × Nat)) := [
  ("alnum", [(0x30, 0x39), (0x41, 0x5A), (0x61, 0x7A)]),
  ("alpha", [(0x41, 0x5A), (0x61, 0x7A)]),
  ("ascii", [(0x00, 0x7F)]),
  ("blank", [(0x09, 0x09), (0x20, 0x20)]),
  ("cntrl", [(0x00, 0x1F), (0x7F, 0x7F)]),
  ("digit", [(0x30, 0x39)]),
  ("graph", [(0x21, 0x7E)]),
  ("lower", [(0x61, 0x7A)]),
  ("print", [(0x20, 0x7E)]),
  ("punct", [(0x21, 0x2F), (0x3A, 0x40), (0x5B, 0x60), (0x7B, 0x7E)]),
  ("space", [(0x09, 0x0D), (0x20, 0x20)]),
  ("upper", [(0x41, 0x5A)]),
  ("word", [(0x30, 0x39), (0x41, 0x5A), (0x5F, 0x5F), (0x61, 0x7A)]),
  ("xdigit", [(0x30, 0x39), (0x41, 0x46), (0x61, 0x66)])]

/-- A class with a name between colons, after the opening bracket: whether it is negated,
its characters and the rest. -/
def asciiClass? (cs : List Char) : Option (Bool × CharSet × List Char) := do
  let cs ← match cs with
    | ':' :: rest => some rest
    | _ => none
  let (negated, cs) := match cs with
    | '^' :: rest => (true, rest)
    | _ => (false, cs)
  let name := cs.takeWhile (· != ':')
  match cs.drop name.length with
  | ':' :: ']' :: rest =>
    return (negated, ⟨← asciiClasses.lookup (String.ofList name)⟩, rest)
  | _ => none

inductive ClassOp where
  | inter
  | diff
  | symmDiff

def ClassOp.apply : ClassOp → CharSet → CharSet → CharSet
  | inter => .inter
  | diff => .diff
  | symmDiff => .symmDiff

/-- A class whose closing bracket is still to come. -/
structure OpenClass where
  negated : Bool
  /-- What the items since the last operator hold, and how many and how deep they are. -/
  items : CharSet := .empty
  count : Nat := 0
  depth : Nat := 0
  /-- The operator before these items with its left side and the depth of it. -/
  left : Option (ClassOp × CharSet × Nat) := none

def OpenClass.add (k : OpenClass) (s : CharSet) (depth : Nat) : OpenClass :=
  { k with items := k.items.union s, count := k.count + 1, depth := max k.depth depth }

/-- The items and the operator before them, with the depth of the whole. -/
def OpenClass.fold (f : Flags) (k : OpenClass) : CharSet × Nat :=
  let depth := if k.count ≤ 1 then k.depth else k.depth + 1
  match k.left with
  | none => (k.items, depth)
  | some (op, l, d) =>
    let close (s : CharSet) :=
      if !f.caseInsensitive then s
      else if f.unicode then s.foldCase else s.foldAsciiCase
    (op.apply (close l) (close k.items), max d depth + 1)

def OpenClass.operator (f : Flags) (k : OpenClass) (op : ClassOp) : OpenClass :=
  let (s, d) := k.fold f
  { negated := k.negated, left := some (op, s, d) }

/-- Whether a character can be told apart from parts of others in a class. -/
def Flags.classChar? (f : Flags) (c : Char) : Option Char :=
  if f.unicode || c.toNat < 0x80 then some c else none

/-- Hyphens at the start of a class, or a closing bracket, stand for themselves. -/
def Flags.leading (f : Flags) : Nat → OpenClass → List Char → OpenClass × List Char
  | fuel + 1, k, '-' :: rest => f.leading fuel (k.add (.singleton '-') 0) (f.skip rest)
  | _, k, ']' :: rest =>
    if k.count = 0 then (k.add (.singleton ']') 0, f.skip rest) else (k, ']' :: rest)
  | _, k, cs => (k, cs)

/-- Opens a class, after its bracket. -/
def Flags.openClass? (f : Flags) (cs : List Char) : Option (OpenClass × List Char) :=
  let (negated, cs) := match f.skip cs with
    | '^' :: rest => (true, f.skip rest)
    | cs => (false, cs)
  let (k, cs) := f.leading cs.length { negated } cs
  if cs.isEmpty then none else some (k, cs)

/-- One item of a class: a character or an escape. -/
def Flags.classItem? (f : Flags) : List Char → Option (Item × List Char)
  | [] => none
  | '\\' :: rest => f.escape? rest
  | c :: rest => some (.char c false, rest)

/-- A character, a range, or a class with a letter for a name. -/
def Flags.classRange? (f : Flags) (cs : List Char) : Option (CharSet × List Char) := do
  let (item, rest) ← f.classItem? cs
  let rest := f.skip rest
  let single : Option (CharSet × List Char) := match item with
    | .char c _ => (f.classChar? c).map fun c => (.singleton c, rest)
    | .set s => some (s, rest)
    | .anchor _ => none
  match rest with
  | [] => none
  | '-' :: after =>
    match f.skip after with
    | [] => none
    | ']' :: _ => single
    | '-' :: _ => single
    | after =>
      let (last, rest) ← f.classItem? after
      match item, last with
      | .char lo _, .char hi _ =>
        if hi < lo then none
        else return (.range (← f.classChar? lo) (← f.classChar? hi), rest)
      | _, _ => none
  | _ => single

/-- Reads a class to its closing bracket: its characters and its depth. The list holds the
open classes, innermost first. -/
def Flags.class? (f : Flags) :
    Nat → OpenClass → List OpenClass → List Char → Option (CharSet × Nat × List Char)
  | 0, _, _, _ => none
  | fuel + 1, k, outer, cs =>
    match f.skip cs with
    | [] => none
    | '[' :: rest =>
      match asciiClass? rest with
      | some (negated, s, rest) => do
        f.class? fuel (k.add (← f.close? negated s) 0) outer rest
      | none => do
        let (inner, rest) ← f.openClass? rest
        f.class? fuel inner (k :: outer) rest
    | ']' :: rest => do
      let (s, d) := k.fold f
      let s ← f.close? k.negated s
      match outer with
      | [] => return (s, d + 1, rest)
      | o :: outer => f.class? fuel (o.add s (d + 1)) outer rest
    | '&' :: '&' :: rest => f.class? fuel (k.operator f .inter) outer rest
    | '-' :: '-' :: rest => f.class? fuel (k.operator f .diff) outer rest
    | '~' :: '~' :: rest => f.class? fuel (k.operator f .symmDiff) outer rest
    | cs => do
      let (s, rest) ← f.classRange? cs
      f.class? fuel (k.add s 0) outer rest

/-! ## Parts and groups -/

/-- The deepest nesting of a pattern. -/
def depthLimit : Nat := 250

/-- The greatest size of a pattern, in bytes of a machine that runs it. The limit is the engine's,
but the sizes that are held against it (`setSize`, `Part.sequence`, `Part.repeated`) are estimates
of what its machine takes: of a pattern near the limit the engine may judge otherwise. -/
def sizeLimit : Nat := 10 * 1024 * 1024

/-- A part of a pattern with its depth and size. -/
structure Part where
  expr : Expr
  depth : Nat := 0
  size : Nat := 0
  /-- Set for what only sets flags, which cannot be repeated. -/
  setsFlags : Bool := false

/-- About how much a machine needs for one character of a set. -/
def setSize (s : CharSet) : Nat :=
  s.ranges.foldl (fun n r =>
    n + if r.2 < 0x80 then 8 else if r.2 < 0x800 then 40 else if r.2 < 0x10000 then 60 else 90)
    32

def Part.ofSet (s : CharSet) (depth : Nat) : Part := { expr := .chars s, depth, size := setSize s }

/-- The parts of a sequence, latest first, as one part. -/
def Part.sequence : List Part → Part
  | [] => { expr := .empty, size := 32 }
  | [p] => { p with setsFlags := false }
  | ps => {
    expr := .sequence (ps.reverse.map (·.expr))
    depth := (ps.map (·.depth)).foldl max 0 + 1
    size := ps.foldl (fun n p => n + p.size) 0 }

/-- The alternatives of a group, latest first, as one part. -/
def Part.alternatives (last : List Part) : List Part → Part
  | [] => .sequence last
  | before => {
    expr := .alternatives ((Part.sequence last :: before).reverse.map (·.expr))
    depth := ((Part.sequence last :: before).map (·.depth)).foldl max 0 + 1
    size := (Part.sequence last :: before).foldl (fun n p => n + p.size + 36) 0 }

/-- A repetition of a part. -/
def Part.repeated (p : Part) (min : Nat) (max : Option Nat) (greedy : Bool) : Part := {
  expr := .repeated p.expr min max greedy
  depth := p.depth + 1
  size := match max with
    | some m => m * (p.size + 40) + 32
    | none => (Nat.max min 1) * p.size + 72 }

/-- A group whose closing parenthesis is still to come: what stands before it, its flags
to return to, and its number if it has one. -/
structure OpenGroup where
  number : Option Nat
  outerFlags : Flags
  outerParts : List Part
  outerBranches : List Part

/-- How far a pattern is read. -/
structure State where
  flags : Flags := {}
  /-- The parts of the current alternative, latest first. -/
  parts : List Part := []
  /-- The alternatives before it, latest first. -/
  branches : List Part := []
  /-- The open groups, innermost first. -/
  groups : List OpenGroup := []
  count : Nat := 0
  names : List (String × Nat) := []

def State.push (st : State) (p : Part) : State := { st with parts := p :: st.parts }

/-- Repeats the last part, which has to be one that can be repeated. -/
def State.repeatLast? (st : State) (min : Nat) (max : Option Nat) (greedy : Bool) :
    Option State :=
  match st.parts with
  | [] => none
  | p :: rest =>
    if p.setsFlags then none
    else some { st with parts := p.repeated min max (greedy != st.flags.swapGreed) :: rest }

/-- A mark after a repetition makes it prefer fewer times. -/
def lazyMark : List Char → Bool × List Char
  | '?' :: rest => (false, rest)
  | cs => (true, cs)

/-- The bounds of a repetition in braces, after the opening one. -/
def Flags.bounds? (f : Flags) (cs : List Char) :
    Option (Nat × Option Nat × List Char) := do
  let (min, rest) ← f.count? (f.skip cs)
  let (max, rest) ← match rest with
    | ',' :: rest =>
      match f.skip rest with
      | '\x7d' :: rest => some (none, '\x7d' :: rest)
      | rest => do
        let (max, rest) ← f.count? rest
        if max < min then none else some (some max, rest)
    | rest => some (some min, rest)
  match rest with
  | '\x7d' :: rest => some (min, max, f.skip rest)
  | _ => none

/-- The flags between a question mark and a colon or a parenthesis, as letters in order. -/
def flagLetters? : List Char → List Char → Option (List Char × List Char)
  | [], _ => none
  | c :: rest, done =>
    if c = ':' ∨ c = ')' then
      if done.head? = some '-' then none else some (done.reverse, c :: rest)
    else if !"imsUuRx-".toList.contains c ∨ done.contains c then none
    else flagLetters? rest (c :: done)

/-- Sets one flag. -/
def Flags.setTo (f : Flags) (on : Bool) : Char → Flags
  | 'i' => { f with caseInsensitive := on }
  | 'm' => { f with multiLine := on }
  | 's' => { f with dotAll := on }
  | 'U' => { f with swapGreed := on }
  | 'u' => { f with unicode := on }
  | 'R' => { f with crlf := on }
  | 'x' => { f with skipsBlanks := on }
  | _ => f

/-- Sets the flags of letters, those after a hyphen to off. -/
def Flags.update (f : Flags) (letters : List Char) : Flags :=
  let on := letters.takeWhile (· != '-')
  let off := letters.drop on.length
  off.foldl (fun f c => f.setTo false c) (on.foldl (fun f c => f.setTo true c) f)

/-- The name of a group, up to its closing angle. -/
def groupName? (cs : List Char) : Option (List Char × List Char) :=
  let name := cs.takeWhile (· != '>')
  match name, cs.drop name.length with
  | c :: more, '>' :: rest =>
    if (c = '_' || Unicode.alphabetic.contains c) && more.all isNameChar then
      some (c :: more, rest)
    else none
  | _, _ => none
where
  isNameChar (c : Char) : Bool :=
    c = '_' || c = '.' || c = '[' || c = ']' || Unicode.alphanumeric.contains c

/-- Opens a group with the flags it has inside. -/
def State.openGroup (st : State) (number : Option Nat) (flags : Flags) : State :=
  { st with
    flags
    parts := []
    branches := []
    groups := ⟨number, st.flags, st.parts, st.branches⟩ :: st.groups }

/-- What follows an opening parenthesis. -/
def State.group? (st : State) (cs : List Char) : Option (State × List Char) :=
  let cs := st.flags.skip cs
  let number := st.count + 1
  let named (cs : List Char) : Option (State × List Char) := do
    let (name, rest) ← groupName? cs
    let name := String.ofList name
    if (st.names.lookup name).isSome then none
    else
      let st := { st with count := number, names := (name, number) :: st.names }
      return (st.openGroup (some number) st.flags, rest)
  match cs with
  | '?' :: '=' :: _ => none
  | '?' :: '!' :: _ => none
  | '?' :: '<' :: '=' :: _ => none
  | '?' :: '<' :: '!' :: _ => none
  | '?' :: 'P' :: '<' :: rest => named rest
  | '?' :: '<' :: rest => named rest
  | '?' :: rest => do
    let (letters, rest) ← flagLetters? rest []
    let flags := st.flags.update letters
    match rest with
    | ':' :: rest => return (st.openGroup none flags, rest)
    | _ :: rest =>
      if letters.isEmpty then none
      else return ({ st with flags }.push { expr := .empty, setsFlags := true }, rest)
    | [] => none
  | rest => some ({ st with count := number }.openGroup (some number) st.flags, rest)

/-- Closes the innermost group. -/
def State.close? (st : State) : Option State :=
  match st.groups with
  | [] => none
  | g :: groups =>
    let body := Part.alternatives st.parts st.branches
    let part : Part := match g.number with
      | some n => { expr := .group n body.expr, depth := body.depth + 1, size := body.size + 64 }
      | none => { expr := body.expr, depth := body.depth + 1, size := body.size }
    some { st with
      flags := g.outerFlags
      parts := part :: g.outerParts
      branches := g.outerBranches
      groups }

/-- The part that a character or an escape outside of classes stands for. -/
def Flags.part? (f : Flags) : Item → Option Part
  | .char c byte =>
    if f.unicode then
      if f.caseInsensitive then some (.ofSet (CharSet.singleton c).foldCase 0)
      else some { expr := .chars (.singleton c), size := 32 * c.utf8Size }
    else if byte && 0x7F < c.toNat then none
    else if f.caseInsensitive then some (.ofSet (CharSet.singleton c).foldAsciiCase 0)
    else some { expr := .chars (.singleton c), size := 32 * c.utf8Size }
  | .set s => some (.ofSet s 0)
  | .anchor a => some { expr := .anchor a, size := 32 }

/-- The characters that a dot stands for. -/
def Flags.dot (f : Flags) : CharSet :=
  if f.dotAll then .all
  else if f.crlf then CharSet.all.diff ⟨[(0x0A, 0x0A), (0x0D, 0x0D)]⟩
  else CharSet.all.diff ⟨[(0x0A, 0x0A)]⟩

def Flags.startAnchor (f : Flags) : Anchor :=
  if !f.multiLine then .textStart else if f.crlf then .crlfLineStart else .lineStart

def Flags.endAnchor (f : Flags) : Anchor :=
  if !f.multiLine then .textEnd else if f.crlf then .crlfLineEnd else .lineEnd

/-- Reads one part of a pattern. -/
def State.step? (st : State) : List Char → Option (State × List Char)
  | [] => none
  | '(' :: rest => st.group? rest
  | ')' :: rest => st.close?.map fun st => (st, rest)
  | '|' :: rest =>
    some ({ st with parts := [], branches := .sequence st.parts :: st.branches }, rest)
  | '[' :: rest => do
    let (k, cs) ← st.flags.openClass? rest
    let (s, depth, rest) ← st.flags.class? (cs.length + 1) k [] cs
    return (st.push (.ofSet s depth), rest)
  | '?' :: rest =>
    let (greedy, rest) := lazyMark rest
    (st.repeatLast? 0 (some 1) greedy).map fun st => (st, rest)
  | '*' :: rest =>
    let (greedy, rest) := lazyMark rest
    (st.repeatLast? 0 none greedy).map fun st => (st, rest)
  | '+' :: rest =>
    let (greedy, rest) := lazyMark rest
    (st.repeatLast? 1 none greedy).map fun st => (st, rest)
  | '\x7b' :: rest => do
    let (min, max, rest) ← st.flags.bounds? rest
    let (greedy, rest) := lazyMark rest
    return (← st.repeatLast? min max greedy, rest)
  | '.' :: rest =>
    if st.flags.unicode then some (st.push (.ofSet st.flags.dot 0), rest) else none
  | '^' :: rest => some (st.push { expr := .anchor st.flags.startAnchor, size := 32 }, rest)
  | '$' :: rest => some (st.push { expr := .anchor st.flags.endAnchor, size := 32 }, rest)
  | '\\' :: rest => do
    let (item, rest) ← st.flags.escape? rest
    return (st.push (← st.flags.part? item), rest)
  | c :: rest => do return (st.push (← st.flags.part? (.char c false)), rest)

/-- Reads parts to the end of a pattern. -/
def State.run? : Nat → State → List Char → Option State
  | 0, _, _ => none
  | fuel + 1, st, cs =>
    match st.flags.skip cs with
    | [] => if st.groups.isEmpty then some st else none
    | cs => do
      let (st, rest) ← st.step? cs
      run? fuel st rest

/-- What a pattern means: its expression and the names of its groups. -/
def read? (pattern : List Char) : Option (Expr × List (String × Nat)) := do
  let st ← State.run? (pattern.length + 1) {} pattern
  let p := Part.alternatives st.parts st.branches
  if depthLimit < p.depth ∨ sizeLimit < p.size then none else return (p.expr, st.names)

end ScrapeJobs.Regex
