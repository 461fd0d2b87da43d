import ScrapeJobs.Relabel

/-!
# Rules as resources write them

A draft of a rule leaves open what it does not need; `Draft.toRule` fills in the usual
values.
-/

namespace ScrapeJobs.Relabel

/-- A rule some of whose fields are open. -/
structure Draft where
  sourceLabels : List String := []
  separator : Option String := none
  targetLabel : Option String := none
  regex : Option String := none
  modulus : Option UInt64 := none
  replacement : Option String := none
  action : Option Action := none
  deriving DecidableEq

/-- The rule that a draft means. -/
def Draft.toRule (d : Draft) : Rule where
  sourceLabels := d.sourceLabels
  separator := d.separator.getD defaultSeparator
  regex := d.regex.getD defaultRegex
  modulus := d.modulus.getD 0
  targetLabel := d.targetLabel.getD ""
  replacement := d.replacement.getD defaultReplacement
  action := d.action.getD .replace

end ScrapeJobs.Relabel
