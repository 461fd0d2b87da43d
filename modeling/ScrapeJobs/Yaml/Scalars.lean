import ScrapeJobs.Doc.Scalar
import ScrapeJobs.Yaml.Place

/-!
# Reading scalars

Scalars in quotes and plain scalars may go over several lines: a line end between two runs
of characters counts as a space, and an empty line as a line feed (`Gap.text`). Scalars in
block style keep their lines (`literal`) or join them (`folded`), and their hints tell what
becomes of the line ends at their end.
-/

namespace ScrapeJobs.Yaml

/-! ## Folding -/

/-- What stands between two runs of characters of a scalar. -/
inductive Gap where
  /-- Blanks on one line. -/
  | blanks (cs : List Char)
  /-- Ends of lines; the first is missing if it was escaped. Blanks do not count. -/
  | breaks (first : Option Char) (more : List Char)

namespace Gap

def none : Gap := blanks []

def blank (c : Char) : Gap → Gap
  | blanks cs => blanks (cs ++ [c])
  | g => g

def newline (c : Char) : Gap → Gap
  | blanks _ => breaks (some c) []
  | breaks first more => breaks first (more ++ [c])

def isBroken : Gap → Bool
  | blanks _ => false
  | breaks _ _ => true

def isNone : Gap → Bool
  | blanks [] => true
  | _ => false

/-- What a gap stands for. -/
def text : Gap → List Char
  | blanks cs => cs
  | breaks (some '\n') [] => [' ']
  | breaks (some '\n') more => more
  | breaks first more => first.toList ++ more

/-- Puts a gap after characters, which are held latest first. -/
def onto (g : Gap) (out : List Char) : List Char := g.text.reverse ++ out

end Gap

/-! ## Quotes -/

/-- The rest of a scalar in single quotes, where two quotes stand for one. -/
def single (p : Place) (out : List Char) (gap : Gap) : List Char → Option (String × Cursor)
  | [] => none
  | '\'' :: '\'' :: rest => single (p.step 2) ('\'' :: gap.onto out) .none rest
  | '\'' :: rest => some (String.ofList (gap.onto out).reverse, ⟨p.step, rest⟩)
  | c :: rest =>
    if isBlank c then single p.step out (gap.blank c) rest
    else if endsLine c then single p.newline out (gap.newline c) rest
    else if p.atMarker (c :: rest) then none
    else single p.step (c :: gap.onto out) .none rest

/-- The character that a letter after a backslash stands for. -/
def escape? : Char → Option Char
  | '0' => some '\x00'
  | 'a' => some '\x07'
  | 'b' => some '\x08'
  | 't' => some '\t'
  | '\t' => some '\t'
  | 'n' => some '\n'
  | 'v' => some '\x0b'
  | 'f' => some '\x0c'
  | 'r' => some '\r'
  | 'e' => some '\x1b'
  | ' ' => some ' '
  | '\x22' => some '\x22'
  | '/' => some '/'
  | '\\' => some '\\'
  | 'N' => some '\u0085'
  | '_' => some '\u00A0'
  | 'L' => some '\u2028'
  | 'P' => some '\u2029'
  | _ => none

/-- The number of hexadecimal digits after a letter. -/
def codeLength? : Char → Option Nat
  | 'x' => some 2
  | 'u' => some 4
  | 'U' => some 8
  | _ => none

/-- What the next character of a scalar in double quotes belongs to. -/
inductive Mode where
  | text (gap : Gap)
  | escape
  /-- The number of a character, of which some digits are still to come. -/
  | code (left value : Nat)

/-- The rest of a scalar in double quotes. -/
def double (p : Place) (out : List Char) (mode : Mode) : List Char → Option (String × Cursor)
  | [] => none
  | c :: rest =>
    match mode with
    | .text gap =>
      if isBlank c then double p.step out (.text (gap.blank c)) rest
      else if endsLine c then double p.newline out (.text (gap.newline c)) rest
      else if p.atMarker (c :: rest) then none
      else if c = '\x22' then some (String.ofList (gap.onto out).reverse, ⟨p.step, rest⟩)
      else if c = '\\' then double p.step (gap.onto out) .escape rest
      else double p.step (c :: gap.onto out) (.text .none) rest
    | .escape =>
      if endsLine c then double p.newline out (.text (.breaks none [])) rest
      else
        match escape? c, codeLength? c with
        | some e, _ => double p.step (e :: out) (.text .none) rest
        | none, some n => double p.step out (.code n 0) rest
        | none, none => none
    | .code left value =>
      match Scalar.digit? c with
      | none => none
      | some d =>
        let value := value * 16 + d
        if 1 < left then double p.step out (.code (left - 1) value) rest
        else if value.isValidChar then
          double p.step (Char.ofNat value :: out) (.text .none) rest
        else none

/-! ## Plain scalars -/

/-- Whether a plain scalar ends before these characters. -/
def endsPlain (flow : Bool) (cs : List Char) : Bool :=
  match cs with
  | ':' :: rest => blankNext rest
  | c :: _ => flow && [',', '[', ']', '\x7b', '\x7d'].contains c
  | [] => true

/-- Whether a colon stands right before a mark of a flow collection. -/
def strayColon : List Char → Bool
  | ':' :: c :: _ => [',', '?', '[', ']', '\x7b', '\x7d'].contains c
  | _ => false

/-- The rest of a plain scalar, whose further lines stand in a column or deeper. Also
tells whether it was followed by the end of a line. -/
def plain (flow : Bool) (column : Nat) (p : Place) (out : List Char) (gap : Gap) :
    List Char → Option (String × Bool × Cursor)
  | [] => some (String.ofList out.reverse, gap.isBroken, ⟨p, []⟩)
  | c :: rest =>
    if isBlank c then
      if gap.isBroken ∧ p.column < column ∧ c = '\t' then none
      else plain flow column p.step out (gap.blank c) rest
    else if endsLine c then plain flow column p.newline out (gap.newline c) rest
    else if !gap.isNone && (c = '#' || !flow && p.column < column) || p.atMarker (c :: rest) then
      some (String.ofList out.reverse, gap.isBroken, ⟨p, c :: rest⟩)
    else if flow && strayColon (c :: rest) then none
    else if endsPlain flow (c :: rest) then
      some (String.ofList out.reverse, gap.isBroken, ⟨p, c :: rest⟩)
    else plain flow column p.step (c :: gap.onto out) .none rest

/-! ## Block style -/

/-- What becomes of the line ends at the end of a scalar. -/
inductive Chomp where
  | strip
  | clip
  | keep
  deriving DecidableEq

def chomp? : Char → Option Chomp
  | '-' => some .strip
  | '+' => some .keep
  | _ => none

/-- A column hint: a digit other than zero. -/
def hint? (c : Char) : Option Nat :=
  if c.isDigit then some (c.toNat - '0'.toNat) else none

/-- The hints at the start of a scalar, in either order, and how many characters they
are. A hint of zero columns is none. -/
def hints? (cs : List Char) : Option (Chomp × Option Nat × Nat) :=
  let checked (chomp : Chomp) (n length : Nat) :=
    if n = 0 then none else some (chomp, some n, length)
  match cs with
  | [] => some (.clip, none, 0)
  | a :: rest =>
    match chomp? a, hint? a with
    | some chomp, _ =>
      match rest.head?.bind hint? with
      | some n => checked chomp n 2
      | none => some (chomp, none, 1)
    | none, some n =>
      match rest.head?.bind chomp? with
      | some chomp => checked chomp n 2
      | none => checked .clip n 1
    | none, none => some (.clip, none, 0)

/-- The empty lines at the start of a scalar; with no column known, also the deepest
column that one of them reaches. A tab may not stand where the column is open. -/
def leadingBreaks? (column : Option Nat) (deepest : Nat) (p : Place) (breaks : List Char) :
    List Char → Option (List Char × Nat × Cursor)
  | [] => some (breaks, deepest, ⟨p, []⟩)
  | c :: rest =>
    let isOpen := column.all (p.column < ·)
    if c = ' ' ∧ isOpen then leadingBreaks? column (max deepest (p.column + 1)) p.step breaks rest
    else if c = '\t' ∧ isOpen then none
    else if endsLine c then leadingBreaks? column deepest p.newline (breaks ++ [c]) rest
    else some (breaks, deepest, ⟨p, c :: rest⟩)

/-- A scalar in block style as far as it has been read. -/
structure Block where
  /-- Its characters, latest first, without the line ends after the last line. -/
  out : List Char := []
  /-- The end of the last line. -/
  last : Option Char := none
  /-- The ends of the empty lines after it. -/
  empty : List Char := []
  /-- Whether the last line began with a blank. -/
  indented : Bool := false

namespace Block

/-- Begins a line with a character. A folded scalar joins two lines that do not begin
with blanks. -/
def beginLine (folded : Bool) (b : Block) (c : Char) : Block :=
  let between :=
    if folded && b.last = some '\n' && !b.indented && !isBlank c then
      if b.empty.isEmpty then [' '] else b.empty
    else b.last.toList ++ b.empty
  { out := c :: (between.reverse ++ b.out), indented := isBlank c }

def text (chomp : Chomp) (b : Block) : String :=
  let ends := match chomp with
    | .strip => []
    | .clip => b.last.toList
    | .keep => b.last.toList ++ b.empty
  String.ofList (b.out.reverse ++ ends)

/-- The lines of a scalar in a column; `inLine` tells that a line has begun. -/
def lines? (folded : Bool) (column : Nat) (p : Place) (inLine : Bool) (b : Block) :
    List Char → Option (Block × Cursor)
  | [] => some (b, ⟨p, []⟩)
  | c :: rest =>
    if inLine then
      if endsLine c then lines? folded column p.newline false { b with last := some c } rest
      else lines? folded column p.step true { b with out := c :: b.out } rest
    else if c = ' ' ∧ p.column < column then lines? folded column p.step false b rest
    else if c = '\t' ∧ p.column < column then none
    else if endsLine c then
      lines? folded column p.newline false { b with empty := b.empty ++ [c] } rest
    else if p.column = column then lines? folded column p.step true (b.beginLine folded c) rest
    else some (b, ⟨p, c :: rest⟩)

end Block

/-- A scalar in block style after its mark; `outer` is the column of what it belongs to. -/
def block? (folded : Bool) (outer : Option Nat) (c : Cursor) : Option (String × Cursor) := do
  let (chomp, hint, length) ← hints? c.chars
  let c ← (c.skip length).restOfLine?
  let fixed := hint.map (outer.getD 0 + ·)
  let (breaks, deepest, c) ← leadingBreaks? fixed 0 c.place [] c.chars
  let column := fixed.getD (max 1 (max deepest (outer.elim 0 (· + 1))))
  let (b, c) ← Block.lines? folded column c.place false { empty := breaks } c.chars
  return (b.text chomp, c)

end ScrapeJobs.Yaml
