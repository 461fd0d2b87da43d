import ScrapeJobs.Regex.Reader
import ScrapeJobs.Regex.Search
import ScrapeJobs.Regex.Template

/-!
# Regular expressions

`Regex.ofPattern?` reads a pattern, `Regex.isMatch` and `Regex.captures?` look for its
leftmost match in a text, and `Regex.replaceAll` writes each match anew from a template.
Relabeling uses patterns that are tied to both ends of the text, `Regex.anchored?`.
-/

namespace ScrapeJobs

/-- A compiled pattern. -/
structure Regex where
  expr : Regex.Expr
  /-- The numbers of the named groups. -/
  names : List (String × Nat)

namespace Regex

def ofPattern? (pattern : String) : Option Regex :=
  (read? pattern.toList).map fun (expr, names) => ⟨expr, names⟩

/-- The text of a pattern between the start and the end of the text, with a dot for every
character. The pattern is pasted in as it is. -/
def anchoredText (pattern : List Char) : List Char :=
  "^(?s:".toList ++ pattern ++ ")$".toList

/-- Compiles a pattern that is to match the whole text. -/
def anchored? (pattern : String) : Option Regex :=
  ofPattern? (String.ofList (anchoredText pattern.toList))

/-- Whether a match stands somewhere in a text. -/
def isMatch (r : Regex) (text : String) : Bool := (r.expr.find? text.toList.toArray 0).isSome

/-- A match together with the text it was found in. -/
structure Captures where
  text : List Char
  names : List (String × Nat)
  found : Match

/-- The leftmost match in a text. -/
def captures? (r : Regex) (text : String) : Option Captures :=
  (r.expr.find? text.toList.toArray 0).map (⟨text.toList, r.names, ·⟩)

namespace Captures

/-- What a group matched; nothing if it took no part in the match. -/
def group (c : Captures) (number : Nat) : List Char :=
  match c.found.span? number with
  | some (i, j) => (c.text.drop i).take (j - i)
  | none => []

/-- What a reference in a template stands for; unknown groups are empty. -/
def value (c : Captures) (name : List Char) : List Char :=
  match groupNumber? name with
  | some n => c.group n
  | none =>
    match c.names.lookup (String.ofList name) with
    | some n => c.group n
    | none => []

def expand (c : Captures) (template : String) : String :=
  String.ofList (expandPieces c.value template.toList)

end Captures

/-- Writes every match of a text anew from a template. -/
def replaceAll (r : Regex) (text template : String) : String :=
  String.ofList (go text.toList (r.expr.findAll text.toList.toArray) 0)
where
  go (cs : List Char) : List Match → Nat → List Char
    | [], i => cs.drop i
    | m :: rest, i =>
      let c : Captures := ⟨cs, r.names, m⟩
      (cs.drop i).take (m.start - i) ++ expandPieces c.value template.toList ++
        go cs rest m.stop

end Regex

end ScrapeJobs
