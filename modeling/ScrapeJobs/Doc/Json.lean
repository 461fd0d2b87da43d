import ScrapeJobs.Doc
import ScrapeJobs.Doc.Scalar

/-!
# Documents as JSON

`Doc.ofJson?` reads one JSON text and `Doc.toJson` writes one. A text is first cut into
tokens. Values nest at most 127 deep, control characters and lone surrogates do not occur
in strings, numbers fit a double, and of two entries with one key the last counts.
-/

namespace ScrapeJobs.Doc

/-- A token of JSON. -/
inductive Token where
  | beginArray
  | endArray
  | beginObject
  | endObject
  | comma
  | colon
  | scalar (d : Doc)
  deriving Inhabited

namespace Token

/-! ## Strings -/

/-- The number that four hexadecimal digits make. -/
def hex4? : List Char → Option (Nat × List Char)
  | a :: b :: c :: d :: rest => do
    let n ← [a, b, c, d].foldlM (fun n c => do return n * 16 + (← Scalar.digit? c)) 0
    return (n, rest)
  | _ => none

/-- The character after a backslash and a `u`, which may be written as two surrogates. -/
def unicodeEscape? (cs : List Char) : Option (Char × List Char) := do
  let (n, rest) ← hex4? cs
  if 0xD800 ≤ n ∧ n < 0xDC00 then
    match rest with
    | '\\' :: 'u' :: rest =>
      let (m, rest) ← hex4? rest
      if 0xDC00 ≤ m ∧ m < 0xE000 then
        return (Char.ofNat (0x10000 + (n - 0xD800) * 0x400 + (m - 0xDC00)), rest)
      else none
    | _ => none
  else if 0xDC00 ≤ n ∧ n < 0xE000 then none
  else return (Char.ofNat n, rest)

def simpleEscape? : Char → Option Char
  | '\x22' => some '\x22'
  | '\\' => some '\\'
  | '/' => some '/'
  | 'b' => some '\x08'
  | 'f' => some '\x0c'
  | 'n' => some '\n'
  | 'r' => some '\r'
  | 't' => some '\t'
  | _ => none

/-- The rest of a string after its opening quote; `done` has its characters, latest
first. -/
def string? : Nat → List Char → List Char → Option (String × List Char)
  | 0, _, _ => none
  | fuel + 1, done, cs =>
    match cs with
    | '\x22' :: rest => some (String.ofList done.reverse, rest)
    | '\\' :: 'u' :: rest => do
      let (c, rest) ← unicodeEscape? rest
      string? fuel (c :: done) rest
    | '\\' :: c :: rest => do string? fuel ((← simpleEscape? c) :: done) rest
    | c :: rest => if c.toNat < 0x20 then none else string? fuel (c :: done) rest
    | [] => none

/-! ## Numbers -/

def natOfDigits (cs : List Char) : Nat :=
  cs.foldl (fun n c => n * 10 + (c.toNat - '0'.toNat)) 0

/-- The integer part of a number: no digits before a zero. -/
def integerPart? (cs : List Char) : Option (List Char × List Char) :=
  match cs.takeWhile Char.isDigit with
  | [] => none
  | '0' :: _ :: _ => none
  | ds => some (ds, cs.dropWhile Char.isDigit)

/-- A number, from its first digit or sign on. -/
def number? (cs : List Char) : Option (Doc × List Char) := do
  let (negative, cs) := match cs with
    | '-' :: rest => (true, rest)
    | _ => (false, cs)
  let (whole, cs) ← integerPart? cs
  let (fraction, cs) ← match cs with
    | '.' :: rest =>
      match rest.takeWhile Char.isDigit with
      | [] => none
      | ds => some (some ds, rest.dropWhile Char.isDigit)
    | _ => some (none, cs)
  let exponentDigits (sign : Int) (rest : List Char) : Option (Option Int × List Char) :=
    match rest.takeWhile Char.isDigit with
    | [] => none
    | ds => some (some (sign * natOfDigits ds), rest.dropWhile Char.isDigit)
  let (exponent, cs) ← match cs with
    | e :: rest =>
      if e = 'e' ∨ e = 'E' then
        match rest with
        | '+' :: rest => exponentDigits 1 rest
        | '-' :: rest => exponentDigits (-1) rest
        | _ => exponentDigits 1 rest
      else some (none, cs)
    | [] => some (none, cs)
  let n := natOfDigits whole
  if fraction.isNone ∧ exponent.isNone ∧ !(negative && n = 0) ∧
      n < (if negative then UInt64.size / 2 + 1 else UInt64.size) then
    return (.int (if negative then -n else n), cs)
  else
    let digits := fraction.getD []
    if Scalar.fitsDouble (natOfDigits (whole ++ digits)) (exponent.getD 0 - digits.length) then
      return (.float, cs)
    else none

/-! ## Tokens -/

/-- The first token of a text that does not start with white space. -/
def next? (cs : List Char) : Option (Token × List Char) :=
  match cs with
  | '[' :: rest => some (beginArray, rest)
  | ']' :: rest => some (endArray, rest)
  | '\x7b' :: rest => some (beginObject, rest)
  | '\x7d' :: rest => some (endObject, rest)
  | ',' :: rest => some (comma, rest)
  | ':' :: rest => some (colon, rest)
  | 'n' :: 'u' :: 'l' :: 'l' :: rest => some (scalar .null, rest)
  | 't' :: 'r' :: 'u' :: 'e' :: rest => some (scalar (.bool true), rest)
  | 'f' :: 'a' :: 'l' :: 's' :: 'e' :: rest => some (scalar (.bool false), rest)
  | '\x22' :: rest =>
    (string? (rest.length + 1) [] rest).map fun (s, rest) => (scalar (.str s), rest)
  | _ => (number? cs).map fun (d, rest) => (scalar d, rest)

def isSpace (c : Char) : Bool := c = ' ' || c = '\t' || c = '\n' || c = '\r'

/-- Cuts a text into its tokens; `fuel` bounds their number. -/
def scan? : Nat → List Char → Option (List Token)
  | 0, _ => none
  | fuel + 1, cs =>
    match cs.dropWhile isSpace with
    | [] => some []
    | cs => do
      let (t, rest) ← next? cs
      return t :: (← scan? fuel rest)

end Token

/-! ## Values -/

/-- Sets the value of a key, which keeps its place if the entry is there already. -/
def setEntry (k : String) (v : Doc) : List (Doc × Doc) → List (Doc × Doc)
  | [] => [(str k, v)]
  | (str k', w) :: rest =>
    if k = k' then (str k', v) :: rest else (str k', w) :: setEntry k v rest
  | e :: rest => e :: setEntry k v rest

mutual

/-- A value, which may nest so many levels. -/
def value? : Nat → Nat → List Token → Option (Doc × List Token)
  | 0, _, _ => none
  | _ + 1, _, .scalar d :: rest => some (d, rest)
  | _ + 1, depth + 1, .beginArray :: .endArray :: rest =>
    if depth = 0 then none else some (seq [], rest)
  | fuel + 1, depth + 1, .beginArray :: rest =>
    if depth = 0 then none else items? fuel depth [] rest
  | _ + 1, depth + 1, .beginObject :: .endObject :: rest =>
    if depth = 0 then none else some (map [], rest)
  | fuel + 1, depth + 1, .beginObject :: rest =>
    if depth = 0 then none else entries? fuel depth [] rest
  | _, _, _ => none

/-- The items of an array up to its end. -/
def items? : Nat → Nat → List Doc → List Token → Option (Doc × List Token)
  | 0, _, _, _ => none
  | fuel + 1, depth, done, ts =>
    match value? fuel depth ts with
    | some (d, .comma :: rest) => items? fuel depth (d :: done) rest
    | some (d, .endArray :: rest) => some (seq (d :: done).reverse, rest)
    | _ => none

/-- The entries of an object up to its end. -/
def entries? : Nat → Nat → List (Doc × Doc) → List Token → Option (Doc × List Token)
  | 0, _, _, _ => none
  | fuel + 1, depth, done, ts =>
    match ts with
    | .scalar (.str k) :: .colon :: ts =>
      match value? fuel depth ts with
      | some (d, .comma :: rest) => entries? fuel depth (setEntry k d done) rest
      | some (d, .endObject :: rest) => some (map (setEntry k d done), rest)
      | _ => none
    | _ => none

end

/-- How many levels of arrays and objects a text may have, and one more. -/
def depthLimit : Nat := 128

/-- Reads a JSON text. -/
def ofJson? (text : String) : Option Doc := do
  let ts ← Token.scan? (text.length + 1) text.toList
  match value? (ts.length + 1) depthLimit ts with
  | some (d, []) => some d
  | _ => none

/-! ## Writing -/

def hexLetter (n : Nat) : Char := "0123456789abcdef".toList.getD n '0'

def jsonChar (c : Char) : List Char :=
  match c with
  | '\x22' => ['\\', '\x22']
  | '\\' => ['\\', '\\']
  | '\n' => ['\\', 'n']
  | '\r' => ['\\', 'r']
  | '\t' => ['\\', 't']
  | c =>
    if c.toNat < 0x20 then
      ['\\', 'u', '0', '0', hexLetter (c.toNat / 16), hexLetter (c.toNat % 16)]
    else [c]

def jsonString (s : String) : String :=
  "\"" ++ String.ofList (s.toList.flatMap jsonChar) ++ "\""

mutual

/-- The JSON text of a document; scalars of open type are strings. -/
def toJson : Doc → String
  | null => "null"
  | bool b => if b then "true" else "false"
  | int n => toString n
  | float => "0.0"
  | str s => jsonString s
  | plain s => jsonString s
  | seq items => "[" ++ jsonItems items ++ "]"
  | map entries => "\x7b" ++ jsonEntries entries ++ "\x7d"
  | tagged _ d => toJson d
  | endless => "null"

def jsonItems : List Doc → String
  | [] => ""
  | [d] => toJson d
  | d :: rest => toJson d ++ "," ++ jsonItems rest

def jsonEntries : List (Doc × Doc) → String
  | [] => ""
  | [(k, v)] => toJson k ++ ":" ++ toJson v
  | (k, v) :: rest => toJson k ++ ":" ++ toJson v ++ "," ++ jsonEntries rest

end

end ScrapeJobs.Doc
