import ScrapeJobs.Digest.Md5
import ScrapeJobs.Relabel

/-!
# Running relabel rules

`run` takes a label set through a list of rules. A rule with an unreadable regex is an
error, and nothing after it is looked at; a keep or drop rule may discard the label set.
A label that is set to the empty text is removed.
-/

namespace ScrapeJobs.Relabel

/-- The text that the regex of a rule is matched against. -/
def Rule.source (r : Rule) (ls : Labels) : String :=
  r.separator.intercalate (r.sourceLabels.map ls.value)

/-- A number made from a text and less than a modulus: the last eight bytes of its digest. -/
def shard (text : String) (modulus : UInt64) : Nat :=
  let tail := (Digest.md5 text.toUTF8.toList).drop 8
  tail.foldl (fun n b => n * 256 + b.toNat) 0 % max modulus.toNat 1

/-- The labels that a rule makes of a label set, if it keeps it. -/
def Rule.apply (r : Rule) (regex : Regex) (ls : Labels) : Option Labels :=
  match r.action with
  | .keep => if regex.isMatch (r.source ls) then some ls else none
  | .drop => if regex.isMatch (r.source ls) then none else some ls
  | .replace =>
    match regex.captures? (r.source ls) with
    | none => some ls
    | some c =>
      let target := c.expand r.targetLabel
      if Label.isName target then some (ls.set target (c.expand r.replacement)) else some ls
  | .hashMod => some (ls.set r.targetLabel (toString (shard (r.source ls) r.modulus)))
  | .labelMap =>
    let copies := (ls.entries.filter fun e => regex.isMatch e.1).map fun e =>
      (regex.replaceAll e.1 r.replacement, e.2)
    some (copies.foldl (fun ls e => ls.set e.1 e.2) ls)
  | .labelDrop => some (ls.filterKeys fun name => !regex.isMatch name)
  | .labelKeep => some (ls.filterKeys fun name => regex.isMatch name)

/-- Runs rules in order; no labels are left if one of them drops the label set. -/
def run (ls : Labels) : List Rule → Except Fault (Option Labels)
  | [] => .ok (some ls)
  | r :: rest =>
    match Regex.anchored? r.regex with
    | none => .error (.regex r.regex)
    | some regex =>
      match r.apply regex ls with
      | none => .ok none
      | some ls => run ls rest

end ScrapeJobs.Relabel
