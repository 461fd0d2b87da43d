import ScrapeJobs.Doc
import ScrapeJobs.Yaml.Style

/-!
# Documents as YAML

`Doc.toYaml` writes a document in block style: each entry of a mapping and each item of a
sequence on lines of its own, two columns deeper than what it belongs to, but the items of
a sequence in a mapping stand below its key. Keys that are long or need several lines are
set off by a question mark.
-/

namespace ScrapeJobs.Yaml

/-! ## Pages -/

/-- A text that is being written. -/
structure Page where
  /-- What is written so far, its last character first. -/
  chars : List Char := []
  column : Nat := 0
  /-- Whether what comes next needs no space before it. -/
  spaced : Bool := true
  /-- Whether the line has nothing but marks that more structure may follow. -/
  fresh : Bool := true

namespace Page

def put (p : Page) (c : Char) : Page := { p with chars := c :: p.chars, column := p.column + 1 }

def puts (p : Page) (s : String) : Page := s.toList.foldl put p

/-- Ends the line. -/
def newline (p : Page) (c : Char := '\n') : Page := { p with chars := c :: p.chars, column := 0 }

/-- Puts a space if one is needed. -/
def space (p : Page) : Page := if p.spaced then p else p.put ' '

/-- A mark after which a line is as fresh as before. -/
def opening (p : Page) (s : String) : Page := { p.space.puts s with spaced := false }

/-- A mark with a space before it. -/
def mark (p : Page) (s : String) : Page := { p.space.puts s with spaced := false, fresh := false }

/-- A mark right after what comes before it. -/
def attach (p : Page) (s : String) : Page := { p.puts s with spaced := false, fresh := false }

def spaces (p : Page) : Nat → Page
  | 0 => p
  | n + 1 => (p.put ' ').spaces n

/-- Moves to a column of a fresh line. -/
def indent (p : Page) (n : Nat) : Page :=
  let p := if !p.fresh || n < p.column || (p.column = n && !p.spaced) then p.newline else p
  { p.spaces (n - p.column) with spaced := true, fresh := true }

/-! ## Scalars -/

def plain (p : Page) (s : String) : Page :=
  if s = "" then { p with spaced := false, fresh := false } else p.mark s

/-- The characters between single quotes; `broken` tells that a line has ended. -/
def singleChars (n : Nat) (broken : Bool) (p : Page) : List Char → Page
  | [] => if broken then p.indent n else p
  | c :: rest =>
    if endsLine c then
      let p := if !broken && c = '\n' then p.newline else p
      singleChars n true { p.newline c with fresh := true } rest
    else
      let p := if broken then p.indent n else p
      let p := if c = '\'' then p.put '\'' else p
      singleChars n false { p.put c with fresh := false } rest

def single (p : Page) (n : Nat) (s : String) : Page :=
  (singleChars n false (p.mark "'") s.toList).attach "'"

/-- A number in hexadecimal digits. -/
def hex (width n : Nat) : String :=
  let digits := (Nat.toDigits 16 n).map Char.toUpper
  String.ofList (List.replicate (width - digits.length) '0' ++ digits)

/-- A character between double quotes. -/
def doubleChar (c : Char) : String :=
  if isPrintable c && !endsLine c && c ≠ '\x22' && c ≠ '\\' then c.toString
  else
    "\\" ++ match c with
      | '\x00' => "0"
      | '\x07' => "a"
      | '\x08' => "b"
      | '\t' => "t"
      | '\n' => "n"
      | '\x0b' => "v"
      | '\x0c' => "f"
      | '\r' => "r"
      | '\x1b' => "e"
      | '\x22' => "\""
      | '\\' => "\\"
      | '\u0085' => "N"
      | '\u00A0' => "_"
      | '\u2028' => "L"
      | '\u2029' => "P"
      | c =>
        if c.toNat ≤ 0xFF then "x" ++ hex 2 c.toNat
        else if c.toNat ≤ 0xFFFF then "u" ++ hex 4 c.toNat
        else "U" ++ hex 8 c.toNat

def double (p : Page) (s : String) : Page :=
  ((p.mark "\"").puts (String.join (s.toList.map doubleChar))).attach "\""

/-- What a reader must know of a literal text: how deep it stands, if it begins with a
space or an empty line, and how many of its last line ends count, unless it is one. -/
def literalHints (cs : List Char) : String :=
  let depth := if cs.head?.any fills then "2" else ""
  let ends := match cs.reverse with
    | c :: rest =>
      if !endsLine c then "-" else if rest.isEmpty || rest.head?.any endsLine then "+" else ""
    | [] => "-"
  depth ++ ends

def literalChars (n : Nat) (broken : Bool) (p : Page) : List Char → Page
  | [] => p
  | c :: rest =>
    if endsLine c then literalChars n true { p.newline c with fresh := true } rest
    else
      let p := if broken then p.indent n else p
      literalChars n false { p.put c with fresh := false } rest

def literal (p : Page) (n : Nat) (s : String) : Page :=
  let p := (p.mark ("|" ++ literalHints s.toList)).newline
  literalChars n true { p with spaced := true, fresh := true } s.toList

/-- A text whose further lines stand in a column. -/
def scalar (p : Page) (n : Nat) (key : Bool) (s : String) : Page :=
  match Style.ofText key s with
  | .plain => p.plain s
  | .single => p.single n s
  | .double => p.double s
  | .literal => p.literal n s

end Page

/-! ## Documents -/

/-- Whether a key stands on one line with its value. -/
def isSimpleKey : Doc → Bool
  | .str s | .plain s => !s.toList.any endsLine && s.utf8ByteSize ≤ 128
  | .seq items => items.isEmpty
  | .map entries => entries.isEmpty
  | .tagged _ d => isSimpleKey d
  | _ => true

/-- Where a node stands. -/
inductive Position where
  | root
  | item
  | key
  | value
  deriving DecidableEq

/-- The column of what belongs to a node in a column. -/
def deeper : Option Nat → Nat
  | none => 0
  | some n => n + 2

mutual

/-- Writes a node; `n` is the column of what it belongs to. -/
def writeNode (n : Option Nat) (pos : Position) (p : Page) : Doc → Page
  | .null => p.plain "null"
  | .bool b => p.plain (if b then "true" else "false")
  | .int i => p.plain (toString i)
  | .float => p.plain ".nan"
  | .plain s => p.plain s
  | .str s => p.scalar (n.getD 0 + 2) (pos = .key) s
  | .seq [] => (p.mark "[").attach "]"
  | .seq items =>
    let n := if pos = .value && !p.fresh then n.getD 0 else deeper n
    writeItems n p items
  | .map [] => (p.mark "\x7b").attach "\x7d"
  | .map entries => writeEntries (deeper n) p entries
  | .tagged tag d => writeNode n pos (p.mark tag) d
  | .endless => p.plain "null"

def writeItems (n : Nat) (p : Page) : List Doc → Page
  | [] => p
  | d :: rest => writeItems n (writeNode (some n) .item ((p.indent n).opening "-") d) rest

def writeEntries (n : Nat) (p : Page) : List (Doc × Doc) → Page
  | [] => p
  | (k, v) :: rest =>
    let p := p.indent n
    let p :=
      if isSimpleKey k then (writeNode (some n) .key p k).attach ":"
      else ((writeNode (some n) .value (p.opening "?") k).indent n).opening ":"
    writeEntries n (writeNode (some n) .value p v) rest

end

end ScrapeJobs.Yaml

namespace ScrapeJobs

/-- The characters of a document as YAML. -/
def Doc.yamlChars (d : Doc) : List Char := ((Yaml.writeNode none .root {} d).indent 0).chars.reverse

/-- A document as YAML. -/
def Doc.toYaml (d : Doc) : String := String.ofList d.yamlChars

end ScrapeJobs
