import ScrapeJobs.Unicode.Ages
import ScrapeJobs.Unicode.Breaks
import ScrapeJobs.Unicode.Categories
import ScrapeJobs.Unicode.Scripts
import ScrapeJobs.Unicode.Properties

/-!
# Unicode properties by name

Names are compared without case, blanks, hyphens, low lines and a leading `is`. A name
alone is a property, a general category or a script; a name with a value is a general
category, a script or a script with its extensions, an age, or a value for where text breaks.
-/

namespace ScrapeJobs.Unicode

/-- Drops case, blanks, hyphens, low lines, and what is not ASCII. -/
def squeeze (cs : List Char) : List Char :=
  (cs.filter fun c => c.toNat < 0x80 && c != ' ' && c != '_' && c != '-').map Char.toLower

/-- The form in which names are compared. -/
def normalName (name : List Char) : String :=
  match name with
  | i :: s :: rest =>
    if i.toLower = 'i' ∧ s.toLower = 's' then
      -- "isc" stands for the category "c" in no list
      if squeeze rest = ['c'] then "isc" else String.ofList (squeeze rest)
    else String.ofList (squeeze name)
  | _ => String.ofList (squeeze name)

def lookup (table : List (List String × String)) (name : String) : Option CharSet :=
  (table.find? fun e => e.1.contains name).map fun e => .ofGaps e.2

/-- A general category, or one of three sets that are counted among them. -/
def category? (name : String) : Option CharSet :=
  match name with
  | "any" => some .all
  | "assigned" => (lookup categories "cn").map CharSet.complement
  | "ascii" => some ⟨[(0, 0x7F)]⟩
  | _ => lookup categories name

/-- The characters that a version has, with those of the versions before it. -/
def age? (name : String) : Option CharSet :=
  (ages.findIdx? fun e => e.1.contains name).map fun i =>
    (ages.take (i + 1)).foldl (fun s e => s.union (.ofGaps e.2)) .empty

/-- The set that a name alone stands for. -/
def named? (name : List Char) : Option CharSet :=
  let n := normalName name
  -- three short names of properties are also those of categories, which win
  let property := if n = "cf" ∨ n = "sc" ∨ n = "lc" then none else lookup properties n
  property <|> category? n <|> lookup scripts n

/-- The set that a name and a value stand for. -/
def valued? (name value : List Char) : Option CharSet :=
  let v := normalName value
  match normalName name with
  | "gc" | "generalcategory" => category? v
  | "sc" | "script" => lookup scripts v
  | "scx" | "scriptextensions" => lookup scriptExtensions v
  | "age" => age? v
  | "gcb" | "graphemeclusterbreak" => lookup graphemeBreaks v
  | "wb" | "wordbreak" => lookup wordBreaks v
  | "sb" | "sentencebreak" => lookup sentenceBreaks v
  | _ => none

end ScrapeJobs.Unicode
