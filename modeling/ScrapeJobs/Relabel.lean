import ScrapeJobs.Label
import ScrapeJobs.Regex
import ScrapeJobs.Text.Quoted

/-!
# Relabel rules

A rule reads the values of some labels and, depending on its action, drops the label set,
writes a label or removes labels. This module has the rules, the ways to build them and
the check that a collector makes of one (`Rule.check`); what rules do to a label set is in
`ScrapeJobs.Relabel.Run`.
-/

namespace ScrapeJobs.Relabel

/-- What a rule does. -/
inductive Action where
  /-- Writes the replacement to the target label if the regex matches. -/
  | replace
  /-- Drops the label set unless the regex matches. -/
  | keep
  /-- Drops the label set if the regex matches. -/
  | drop
  /-- Writes a hash of the source values below the modulus to the target label. -/
  | hashMod
  /-- Copies each label whose name matches to a name made from the replacement. -/
  | labelMap
  /-- Removes the labels whose names match. -/
  | labelDrop
  /-- Removes the labels whose names do not match. -/
  | labelKeep
  deriving DecidableEq, Repr

namespace Action

def name : Action → String
  | replace => "replace"
  | keep => "keep"
  | drop => "drop"
  | hashMod => "hashmod"
  | labelMap => "labelmap"
  | labelDrop => "labeldrop"
  | labelKeep => "labelkeep"

def all : List Action := [replace, keep, drop, hashMod, labelMap, labelDrop, labelKeep]

def ofName? (s : String) : Option Action := all.find? (·.name = s)

end Action

def defaultSeparator : String := ";"
/-- Matches every text and remembers it. -/
def defaultRegex : String := "(.*)"
/-- What the first group of the regex matched. -/
def defaultReplacement : String := "$1"

/-- One step of relabeling. -/
structure Rule where
  /-- The labels whose values the regex is matched against. -/
  sourceLabels : List String := []
  /-- Stands between the values of the source labels. -/
  separator : String := defaultSeparator
  /-- A pattern for the whole of the joined values. -/
  regex : String := defaultRegex
  modulus : UInt64 := 0
  targetLabel : String := ""
  /-- A template with references to groups of the regex. -/
  replacement : String := defaultReplacement
  action : Action := .replace
  deriving DecidableEq

namespace Rule

/-- Sets a label to a template, whatever the other labels are. -/
def set (target value : String) : Rule := { targetLabel := target, replacement := value }

/-- Copies the joined source values. -/
def copy (sources : List String) (target : String) : Rule :=
  { sourceLabels := sources, targetLabel := target }

def keep (sources : List String) (regex : String) : Rule :=
  { sourceLabels := sources, regex, action := .keep }

def drop (sources : List String) (regex : String) : Rule :=
  { sourceLabels := sources, regex, action := .drop }

def labelDrop (regex : String) : Rule := { regex, action := .labelDrop }

end Rule

/-! ## Literals -/

/-- The characters with a meaning in patterns, outside of classes. -/
def isPatternChar (c : Char) : Bool := "\\.+*?()|[]\x7b\x7d^$".toList.contains c

/-- A pattern that matches exactly the given text. -/
def literal (s : String) : String :=
  String.ofList (s.toList.flatMap fun c => if isPatternChar c then ['\\', c] else [c])

/-! ## Label templates -/

/-- Whether a text goes on as a label template: word characters and references to groups,
where a digit stands only behind one of these. -/
def goesOn : List Char → Bool
  | [] => true
  | '$' :: '\x7b' :: rest =>
    if rest.takeWhile Label.isWordChar = [] then false
    else
      match _h : rest.dropWhile Label.isWordChar with
      | '\x7d' :: after => goesOn (after.dropWhile Label.isWordChar)
      | _ => false
  | '$' :: rest =>
    if rest.takeWhile Label.isWordChar = [] then false
    else goesOn (rest.dropWhile Label.isWordChar)
  | c :: rest =>
    if c.isAlpha || c = '_' then goesOn (rest.dropWhile Label.isWordChar) else false
termination_by cs => cs.length
decreasing_by
  · have hname := Regex.length_dropWhile_le Label.isWordChar rest
    have hafter := Regex.length_dropWhile_le Label.isWordChar after
    rw [_h] at hname
    simp only [List.length_cons] at hname ⊢
    omega
  · have hname := Regex.length_dropWhile_le Label.isWordChar rest
    simp only [List.length_cons]
    omega
  · have hname := Regex.length_dropWhile_le Label.isWordChar rest
    simp only [List.length_cons]
    omega

/-- Whether a text is a label name with references to groups of a regex in it. -/
def isLabelTemplate (s : String) : Bool := s ≠ "" && goesOn s.toList

/-! ## The check of a rule -/

/-- What is wrong with a rule. -/
inductive Fault where
  | regex (pattern : String)
  | sourceLabel (name : String)
  | zeroModulus
  | noTarget (action : Action)
  | target (name : String) (action : Action)
  | replacement (template : String) (action : Action)
  /-- An action on label names takes nothing but a regex. -/
  | otherFields (action : Action)
  deriving DecidableEq, Repr

open Text in
/-- What a message says of a fault. The reason why a pattern cannot be read is left open. -/
def Fault.message : Fault → String
  | regex p => "invalid regex " ++ quoted p ++ ": <regex>"
  | sourceLabel name => quoted name ++ " is not a valid label name"
  | zeroModulus => "relabel configuration for hashmod requires non-zero modulus"
  | noTarget a => "relabel configuration for " ++ a.name ++ " action requires 'target_label' value"
  | target name a => quoted name ++ " is invalid 'target_label' for " ++ a.name ++ " action"
  | replacement t a => quoted t ++ " is invalid 'replacement' for " ++ a.name ++ " action"
  | otherFields a => a.name ++ " action requires only 'regex', and no other fields"

/-- Whether the target of a replace rule is a label name or a template of one. -/
def isTarget (s : String) : Bool :=
  if s.toList.contains '$' then isLabelTemplate s else Label.isName s

/-- Whether a rule has nothing but a regex. -/
def Rule.hasRegexOnly (r : Rule) : Bool :=
  r.sourceLabels = [] && r.targetLabel = "" && r.modulus = 0 &&
    r.separator = defaultSeparator && r.replacement = defaultReplacement

/-- Checks the fields that an action needs. -/
def Rule.checkAction (r : Rule) : Except Fault Unit :=
  match r.action with
  | .keep | .drop => .ok ()
  | .replace =>
    if r.targetLabel = "" then .error (.noTarget r.action)
    else if isTarget r.targetLabel then .ok ()
    else .error (.target r.targetLabel r.action)
  | .hashMod =>
    if r.modulus = 0 then .error .zeroModulus
    else if r.targetLabel = "" then .error (.noTarget r.action)
    else if Label.isName r.targetLabel then .ok ()
    else .error (.target r.targetLabel r.action)
  | .labelMap =>
    if isLabelTemplate r.replacement then .ok () else .error (.replacement r.replacement r.action)
  | .labelDrop | .labelKeep =>
    if r.hasRegexOnly then .ok () else .error (.otherFields r.action)

/-- The check that a collector makes of a rule. -/
def Rule.check (r : Rule) : Except Fault Unit :=
  if (Regex.anchored? r.regex).isNone then .error (.regex r.regex)
  else
    match r.sourceLabels.find? (!Label.isName ·) with
    | some name => .error (.sourceLabel name)
    | none => r.checkAction

end ScrapeJobs.Relabel
