import ScrapeJobs.Yaml.Scalars
import ScrapeJobs.Yaml.Tag

/-!
# Tokens of YAML

`tokens?` cuts a text into tokens. Columns become tokens of their own: where a sequence or
a mapping begins or ends in block style. That a scalar or a collection was the key of a
mapping shows only by the colon after it; the tokens for it are then put where the key
begins. Such a key stands on one line with its colon, at most 1024 characters before it.
-/

namespace ScrapeJobs.Yaml

inductive Token where
  | directive (d : Directive)
  | documentStart
  | documentEnd
  | blockSeq
  | blockMap
  /-- The end of a collection in block style. -/
  | blockEnd
  | flowSeq
  | flowSeqEnd
  | flowMap
  | flowMapEnd
  /-- The dash before an item. -/
  | item
  | comma
  | key
  | value
  /-- An alias for a node with an anchor. -/
  | reference (name : String)
  | anchor (name : String)
  | tag (t : Tag)
  | scalar (isPlain : Bool) (text : String)

/-- The beginning of what may turn out to be a key. -/
structure KeyStart where
  /-- The number of tokens before it. -/
  count : Nat
  place : Place
  /-- Whether nothing but a key can stand here. -/
  required : Bool

/-- A text that is being cut into tokens. -/
structure Scan where
  cursor : Cursor
  /-- Latest first. -/
  tokens : List Token := []
  count : Nat := 0
  /-- The columns of the collections in block style, innermost first. -/
  columns : List Nat := []
  /-- Whether a key may begin here. -/
  keyAllowed : Bool := true
  /-- The key that may have begun in the innermost flow collection, or outside of any. -/
  start : Option KeyStart := none
  /-- The same for the collections around it. -/
  outer : List (Option KeyStart) := []

namespace Scan

def isFlow (s : Scan) : Bool := !s.outer.isEmpty

def place (s : Scan) : Place := s.cursor.place

def push (s : Scan) (t : Token) : Scan := { s with tokens := t :: s.tokens, count := s.count + 1 }

/-- Puts a token before those that come after the first `i`. -/
def putAt (s : Scan) (i : Nat) (t : Token) : Scan :=
  let later := s.count - i
  { s with
    tokens := s.tokens.take later ++ t :: s.tokens.drop later
    count := s.count + 1 }

/-! ## Blanks and columns -/

/-- Passes blanks, comments and ends of lines. A new line may begin with a key. Tabs may
not stand where one may begin, since its column would be open. -/
def skipBlanks (flow keyAllowed comment : Bool) (p : Place) : List Char → Bool × Cursor
  | [] => (keyAllowed, ⟨p, []⟩)
  | c :: rest =>
    if endsLine c then skipBlanks flow (keyAllowed || !flow) false p.newline rest
    else if comment then skipBlanks flow keyAllowed true p.step rest
    else if c = ' ' || c = '\t' && (flow || !keyAllowed) || c = '\uFEFF' && p.column = 0 then
      skipBlanks flow keyAllowed false p.step rest
    else if c = '#' then skipBlanks flow keyAllowed true p.step rest
    else (keyAllowed, ⟨p, c :: rest⟩)

/-- Moves to the next token. -/
def toToken (s : Scan) : Scan :=
  let (keyAllowed, cursor) :=
    skipBlanks s.isFlow s.keyAllowed false s.place s.cursor.chars
  { s with keyAllowed, cursor }

/-- Ends the collections in block style that are deeper than a column. -/
def unindent (s : Scan) (column : Option Nat) : Scan :=
  if s.isFlow then s
  else
    let isDeeper (n : Nat) := column.all (· < n)
    let ended := (s.columns.takeWhile isDeeper).length
    { s with
      columns := s.columns.dropWhile isDeeper
      tokens := List.replicate ended .blockEnd ++ s.tokens
      count := s.count + ended }

/-- Begins a collection in block style, before the tokens after the first `i`, if a column
is deeper than those of the others. -/
def indent (s : Scan) (column i : Nat) (t : Token) : Scan :=
  if !s.isFlow && s.columns.head?.all (· < column) then
    { s.putAt i t with columns := column :: s.columns }
  else s

/-! ## Keys -/

/-- Gives up the key that may have begun. -/
def dropStart? (s : Scan) : Option Scan :=
  if s.start.any (·.required) then none else some { s with start := none }

/-- Notes that a key may begin here. -/
def saveStart? (s : Scan) : Option Scan :=
  if s.keyAllowed then do
    let required := !s.isFlow && s.columns.head? = some s.place.column
    return { ← s.dropStart? with start := some ⟨s.count, s.place, required⟩ }
  else some s

/-- Whether what has begun can still be a key. -/
def reaches (s : Scan) (k : KeyStart) : Bool :=
  k.place.line = s.place.line && s.place.index ≤ k.place.index + 1024

/-! ## Single tokens -/

/-- A token of some characters. -/
def mark (s : Scan) (n : Nat) (t : Token) : Scan := { s.push t with cursor := s.cursor.skip n }

def directive? (s : Scan) : Option Scan := do
  let s ← (s.unindent none).dropStart?
  let (d, cursor) ← Yaml.directive? s.cursor
  return { s.push (.directive d) with cursor, keyAllowed := false }

def document? (s : Scan) (t : Token) : Option Scan := do
  let s ← (s.unindent none).dropStart?
  return { s.mark 3 t with keyAllowed := false }

def openFlow? (s : Scan) (t : Token) : Option Scan := do
  let s ← s.saveStart?
  return { s.mark 1 t with keyAllowed := true, start := none, outer := s.start :: s.outer }

def closeFlow? (s : Scan) (t : Token) : Option Scan := do
  let s ← s.dropStart?
  let s := match s.outer with
    | start :: outer => { s with start, outer }
    | [] => s
  return { s.mark 1 t with keyAllowed := false }

def comma? (s : Scan) : Option Scan := do
  return { (← s.dropStart?).mark 1 .comma with keyAllowed := true }

def item? (s : Scan) : Option Scan := do
  if !s.isFlow && !s.keyAllowed then none
  else
    let s ← (s.indent s.place.column s.count .blockSeq).dropStart?
    return { s.mark 1 .item with keyAllowed := true }

def key? (s : Scan) : Option Scan := do
  if !s.isFlow && !s.keyAllowed then none
  else
    let s ← (s.indent s.place.column s.count .blockMap).dropStart?
    return { s.mark 1 .key with keyAllowed := !s.isFlow }

/-- The colon after a key. If the key was not marked as one, it is now. -/
def value? (s : Scan) : Option Scan :=
  match s.start.filter s.reaches with
  | some k =>
    let s := (s.putAt k.count .key).indent k.place.column k.count .blockMap
    some { s.mark 1 .value with keyAllowed := false, start := none }
  | none =>
    if s.start.any (·.required) then none
    else if !s.isFlow && !s.keyAllowed then none
    else
      let s := s.indent s.place.column s.count .blockMap
      some { s.mark 1 .value with keyAllowed := !s.isFlow, start := none }

/-- The name of an anchor, or of one that an alias refers to. -/
def name? (s : Scan) (t : String → Token) : Option Scan := do
  let s ← s.saveStart?
  let (name, cursor) := (s.cursor.skip 1).span isWord
  let ends := blankNext cursor.chars ||
    cursor.chars.head?.any ['?', ':', ',', ']', '\x7d', '%', '@', '\x60'].contains
  if name.isEmpty || !ends then none
  else return { s.push (t (String.ofList name)) with cursor, keyAllowed := false }

def tag? (s : Scan) : Option Scan := do
  let s ← s.saveStart?
  let (t, cursor) ← Yaml.tag? s.isFlow s.cursor
  return { s.push (.tag t) with cursor, keyAllowed := false }

def block? (s : Scan) (folded : Bool) : Option Scan := do
  let s ← s.dropStart?
  let (text, cursor) ← Yaml.block? folded s.columns.head? (s.cursor.skip 1)
  return { s.push (.scalar false text) with cursor, keyAllowed := true }

def quoted? (s : Scan) (read : Place → List Char → Option (String × Cursor)) : Option Scan := do
  let s ← s.saveStart?
  let c := s.cursor.skip 1
  let (text, cursor) ← read c.place c.chars
  return { s.push (.scalar false text) with cursor, keyAllowed := false }

def plain? (s : Scan) : Option Scan := do
  let s ← s.saveStart?
  let column := s.columns.head?.elim 0 (· + 1)
  let (text, broken, cursor) ← Yaml.plain s.isFlow column s.place [] .none s.cursor.chars
  return { s.push (.scalar true text) with cursor, keyAllowed := broken }

/-- Whether a plain scalar may begin with these characters. -/
def beginsPlain (flow : Bool) (c : Char) (rest : List Char) : Bool :=
  if c = '-' then !rest.head?.any isBlank
  else if c = '?' || c = ':' then !flow && !blankNext rest
  else !blankNext [c] && !isIndicator c

/-- The next token, which begins here. -/
def next? (s : Scan) : Option Scan :=
  match s.cursor.chars with
  | [] => none
  | c :: rest =>
    if s.place.column = 0 ∧ c = '%' then s.directive?
    else if s.place.atMarker (c :: rest) then
      s.document? (if c = '-' then .documentStart else .documentEnd)
    else
      let flow := s.isFlow
      match c with
      | '[' => s.openFlow? .flowSeq
      | '\x7b' => s.openFlow? .flowMap
      | ']' => s.closeFlow? .flowSeqEnd
      | '\x7d' => s.closeFlow? .flowMapEnd
      | ',' => s.comma?
      | '*' => s.name? .reference
      | '&' => s.name? .anchor
      | '!' => s.tag?
      | '\'' => s.quoted? fun p cs => single p [] .none cs
      | '\x22' => s.quoted? fun p cs => double p [] (.text .none) cs
      | _ =>
        if c = '-' && blankNext rest then s.item?
        else if c = '?' && (flow || blankNext rest) then s.key?
        else if c = ':' && (flow || blankNext rest) then s.value?
        else if !flow && (c = '|' || c = '>') then s.block? (c = '>')
        else if beginsPlain flow c rest then s.plain?
        else none

/-- The tokens up to the end of the text, of which each takes a character. -/
def all? : Nat → Scan → Option (List Token)
  | 0, _ => none
  | fuel + 1, s =>
    let s := s.toToken
    let s := s.unindent (some s.place.column)
    if s.cursor.chars.isEmpty then do
      let s ← (s.unindent none).dropStart?
      return s.tokens.reverse
    else s.next?.bind (all? fuel)

end Scan

/-- The tokens of the characters of a text. -/
def tokens? (cs : List Char) : Option (List Token) :=
  if cs.all isAllowed then
    let cs := unifyBreaks (if cs.head? = some '\uFEFF' then cs.drop 1 else cs)
    Scan.all? (cs.length + 1) { cursor := ⟨{}, cs⟩ }
  else none

end ScrapeJobs.Yaml
