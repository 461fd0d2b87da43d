import ScrapeJobs.Doc.Scalar
import ScrapeJobs.Yaml.Place

/-!
# Tags and directives

A tag is a handle and a suffix, `!suffix`, `!!suffix` or `!handle!suffix`, or stands as a
whole between angle brackets. Directives tell the version of a text and what handles stand
for.
-/

namespace ScrapeJobs.Yaml

/-! ## Addresses -/

/-- Whether a character may occur in a suffix; `full` allows those that are marks of flow
collections. -/
def isAddress (full : Bool) (c : Char) : Bool :=
  isWord c || [';', '/', '?', ':', '@', '&', '=', '+', '$', '.', '%', '!', '~', '*', '\'', '(',
    ')'].contains c || full && [',', '[', ']'].contains c

/-- The bytes of an address. A percent sign comes before two hexadecimal digits. -/
def addressBytes? : List Char → Option (List UInt8)
  | [] => some []
  | '%' :: a :: b :: rest => do
    let a ← Scalar.digit? a
    let b ← Scalar.digit? b
    return UInt8.ofNat (a * 16 + b) :: (← addressBytes? rest)
  | c :: rest => if c = '%' then none else do return c.toUInt8 :: (← addressBytes? rest)

/-- An address, which may be empty. -/
def address? (full : Bool) (c : Cursor) : Option (String × Cursor) := do
  let (cs, c) := c.span (isAddress full)
  let s ← String.fromUTF8? ⟨(← addressBytes? cs).toArray⟩
  return (s, c)

/-! ## Tags -/

/-- A tag as it is written. -/
structure Tag where
  /-- Empty if the suffix is the whole tag. -/
  handle : String
  suffix : String

/-- What stands before an address at the start of a tag: an exclamation mark, letters and
perhaps another mark. -/
def handle? (c : Cursor) : Option (String × Cursor) :=
  match c.chars with
  | '!' :: _ =>
    let (word, c) := (c.skip 1).span isWord
    match c.chars with
    | '!' :: _ => some (String.ofList ('!' :: word ++ ['!']), c.skip 1)
    | _ => some (String.ofList ('!' :: word), c)
  | _ => none

/-- Whether the text of a handle ends with a mark of its own. -/
def isNamedHandle (s : String) : Bool := s ≠ "!" && s.endsWith "!"

/-- A tag, from its exclamation mark on. -/
def tag? (flow : Bool) (c : Cursor) : Option (Tag × Cursor) := do
  let (tag, c) ← match c.chars with
    | '!' :: '<' :: _ => do
      let (suffix, c) ← address? true (c.skip 2)
      if suffix ≠ "" ∧ c.chars.head? = some '>' then some (Tag.mk "" suffix, c.skip 1) else none
    | _ => do
      let (handle, c) ← handle? c
      let (suffix, c) ← address? false c
      if isNamedHandle handle then
        if suffix = "" then none else some (Tag.mk handle suffix, c)
      else
        let suffix := (handle.drop 1).toString ++ suffix
        some (if suffix = "" then Tag.mk "" "!" else Tag.mk "!" suffix, c)
  if blankNext c.chars ∨ flow ∧ c.chars.head? = some ',' then some (tag, c) else none

/-! ## Directives -/

inductive Directive where
  | version (major minor : Nat)
  | handle (handle stem : String)

/-- A number of at most nine digits. -/
def versionNumber? (c : Cursor) : Option (Nat × Cursor) := do
  let (ds, c) := c.span Char.isDigit
  if ds.length ≤ 9 then some (← Scalar.natOfDigits? 10 ds, c) else none

/-- What a directive says after its name. -/
def directiveValue? (name : String) (c : Cursor) : Option (Directive × Cursor) := do
  let c := c.skipWhile isBlank
  match name with
  | "YAML" =>
    let (major, c) ← versionNumber? c
    if c.chars.head? ≠ some '.' then none
    else
      let (minor, c) ← versionNumber? (c.skip 1)
      some (.version major minor, c)
  | "TAG" =>
    let (handle, c) ← handle? c
    if handle ≠ "!" ∧ !isNamedHandle handle then none
    else if !c.chars.head?.any isBlank then none
    else
      let (stem, c) ← address? true (c.skipWhile isBlank)
      if stem ≠ "" ∧ blankNext c.chars then some (.handle handle stem, c) else none
  | _ => none

/-- A directive, from its percent sign on, with the rest of its line. -/
def directive? (c : Cursor) : Option (Directive × Cursor) := do
  let (name, c) := (c.skip 1).span isWord
  if blankNext c.chars then
    let (d, c) ← directiveValue? (String.ofList name) c
    return (d, ← c.restOfLine?)
  else none

end ScrapeJobs.Yaml
