/-!
# Places in YAML texts

Lines end with a line feed or one of the two separators of Unicode; other ways to end a
line are replaced by a line feed before a text is read (`unifyBreaks`).
-/

namespace ScrapeJobs.Yaml

/-! ## Characters -/

/-- Whether a character ends a line. -/
def endsLine (c : Char) : Bool :=
  c = '\n' || c = '\r' || c = '\u0085' || c = '\u2028' || c = '\u2029'

def isBlank (c : Char) : Bool := c = ' ' || c = '\t'

/-- Whether a character may occur in a text that is read. -/
def isAllowed (c : Char) : Bool :=
  c = '\t' || c = '\n' || c = '\r' || c = '\u0085' || ' ' ≤ c && c ≤ '~' ||
    '\u00A0' ≤ c && c ≠ '\uFFFE' && c ≠ '\uFFFF'

/-- Whether a character may occur in names of anchors and in handles of tags. -/
def isWord (c : Char) : Bool := c.isAlphanum || c = '-' || c = '_'

/-- Whether a character is a mark of structure wherever it begins a scalar. -/
def isIndicator (c : Char) : Bool :=
  [',', '[', ']', '\x7b', '\x7d', '#', '&', '*', '!', '|', '>', '\'', '\x22', '%', '@',
    '\x60'].contains c

/-- Replaces the ways to end a line by line feeds; separators of Unicode stay. -/
def unifyBreaks : List Char → List Char
  | [] => []
  | '\r' :: '\n' :: rest => '\n' :: unifyBreaks rest
  | c :: rest => (if c = '\r' ∨ c = '\u0085' then '\n' else c) :: unifyBreaks rest

/-- Whether a mark before these characters is taken for structure: a blank follows, or
the text ends. -/
def blankNext : List Char → Bool
  | [] => true
  | c :: _ => isBlank c || c = '\x00' || endsLine c

/-! ## Places -/

/-- A place in a text. -/
structure Place where
  line : Nat := 0
  column : Nat := 0
  /-- The number of characters before it. -/
  index : Nat := 0

namespace Place

/-- The place after some characters of the same line. -/
def step (p : Place) (n : Nat := 1) : Place :=
  { p with column := p.column + n, index := p.index + n }

def newline (p : Place) : Place := ⟨p.line + 1, 0, p.index + 1⟩

/-- Whether a line begins here with the mark for the start or the end of a document. -/
def atMarker (p : Place) (cs : List Char) : Bool :=
  p.column = 0 && match cs with
    | '-' :: '-' :: '-' :: rest => blankNext rest
    | '.' :: '.' :: '.' :: rest => blankNext rest
    | _ => false

end Place

/-- What is left of a text. -/
structure Cursor where
  place : Place := {}
  chars : List Char

namespace Cursor

/-- Passes characters of one line. -/
def skip (c : Cursor) (n : Nat := 1) : Cursor := ⟨c.place.step n, c.chars.drop n⟩

/-- The characters up to one that fails a test, and what is left. -/
def span (p : Char → Bool) (c : Cursor) : List Char × Cursor :=
  let taken := c.chars.takeWhile p
  (taken, c.skip taken.length)

def skipWhile (p : Char → Bool) (c : Cursor) : Cursor := (c.span p).2

/-- Passes the end of a line, if there is one. -/
def skipBreak (c : Cursor) : Cursor :=
  match c.chars with
  | b :: rest => if endsLine b then ⟨c.place.newline, rest⟩ else c
  | [] => c

/-- Passes blanks and a comment; nothing else may be left on the line. -/
def restOfLine? (c : Cursor) : Option Cursor :=
  let c := c.skipWhile isBlank
  let c := if c.chars.head? = some '#' then c.skipWhile (!endsLine ·) else c
  if c.chars.head?.all endsLine then some c.skipBreak else none

end Cursor

end ScrapeJobs.Yaml
