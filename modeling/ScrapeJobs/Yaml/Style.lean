import ScrapeJobs.Doc.Scalar
import ScrapeJobs.Yaml.Place

/-!
# Styles of scalars in YAML

A text is written plainly if it can be. A text with line feeds is written literally, line
by line; a text that would be read as something else, or whose marks would be read as
structure, stands in single quotes; and one with characters that do not show, or with
spaces where a line is folded, stands in double quotes (`Style.ofText`).
-/

namespace ScrapeJobs.Yaml

/-- The ways to write a text. -/
inductive Style where
  | plain
  | single
  | double
  | literal
  deriving DecidableEq, Repr

/-! ## Characters -/

/-- Whether a character may stand in a text as it is. -/
def isPrintable (c : Char) : Bool :=
  c = '\n' || ' ' ≤ c && c ≤ '~' ||
    '\u00A0' ≤ c && c ≠ '\uFEFF' && c ≠ '\uFFFE' && c ≠ '\uFFFF'

/-! ## What keeps a text from a style -/

/-- Whether a text begins with a mark of structure. -/
def beginsWithMark (cs : List Char) : Bool :=
  match cs with
  | '-' :: '-' :: '-' :: _ => true
  | '.' :: '.' :: '.' :: _ => true
  | '-' :: rest => blankNext rest
  | '?' :: rest => blankNext rest
  | c :: _ => isIndicator c
  | [] => false

/-- Whether a text has a mark of structure within: a colon before a blank or a number sign
after one. -/
def hasMark (afterBlank : Bool) : List Char → Bool
  | [] => false
  | ':' :: rest => blankNext rest || hasMark false rest
  | '#' :: rest => afterBlank || hasMark false rest
  | c :: rest => hasMark (blankNext [c]) rest

/-- Whether two characters of these kinds stand side by side. -/
def adjacent (p q : Char → Bool) : List Char → Bool
  | a :: b :: rest => p a && q b || adjacent p q (b :: rest)
  | _ => false

def isSpace (c : Char) : Bool := c = ' '

def fills (c : Char) : Bool := isSpace c || endsLine c

/-- Whether only double quotes keep a text. -/
def needsDouble (cs : List Char) : Bool :=
  cs.any (!isPrintable ·) || adjacent isSpace endsLine cs

/-- Whether single quotes keep a text. -/
def allowsSingle (cs : List Char) : Bool := !needsDouble cs && !adjacent endsLine isSpace cs

/-- Whether a text can stand line by line. -/
def allowsLiteral (cs : List Char) : Bool :=
  !cs.isEmpty && !needsDouble cs && !cs.getLast?.any isSpace

/-- Whether a text can stand without quotes. -/
def allowsPlain (cs : List Char) : Bool :=
  allowsSingle cs && !cs.any endsLine && !cs.head?.any fills && !cs.getLast?.any fills &&
    !beginsWithMark cs && !hasMark true cs

/-! ## The choice -/

namespace Style

/-- The style that the meaning of a text asks for. -/
def wanted (s : String) : Style :=
  if s.toList.contains '\n' then literal
  else if Scalar.ofText s ≠ .text ∨ Scalar.hasLeadingZero s.toList then single
  else plain

/-- The style of a text; `key` tells that it stands on a line with its value. -/
def ofText (key : Bool) (s : String) : Style :=
  let cs := s.toList
  let quotes := if allowsSingle cs then single else double
  match wanted s with
  | literal => if allowsLiteral cs && !key then literal else double
  | plain => if allowsPlain cs then plain else quotes
  | _ => quotes

end Style

end ScrapeJobs.Yaml
