import ScrapeJobs.Dict
import ScrapeJobs.Yaml.Token

/-!
# Nodes of YAML

`Node.ofTokens?` makes one document out of tokens. Anchors are numbered: one with a name of
its own or a name that came before gets as its number how many names there were before it.
So two anchors may share a number, of which the later one counts, even for aliases between
them.
-/

namespace ScrapeJobs.Yaml

inductive Node where
  | scalar (isPlain : Bool) (text : String)
  | seq (items : List Node)
  | map (entries : List (Node × Node))
  | tagged (tag : String) (body : Node)
  | anchored (id : Nat) (body : Node)
  | reference (id : Nat)
  deriving Inhabited

namespace Node

/-- A node of which nothing is written. -/
def empty : Node := scalar true ""

/-! ## Reading -/

/-- Tokens that are being read. -/
structure Feed where
  tokens : List Token
  /-- The numbers of the anchors. -/
  anchors : Dict Nat := ∅
  /-- What the handles of tags stand for; the first entry for a handle counts. -/
  handles : List (String × String) := [("!", "!"), ("!!", "tag:yaml.org,2002:")]

abbrev Reader := StateT Feed Option

def peek : Reader (Option Token) := do return (← get).tokens.head?

def pass : Reader Unit := modify fun f => { f with tokens := f.tokens.tail }

/-- Passes an alias and finds its anchor. -/
def reference? (name : String) : Reader Node := do
  pass
  match (← get).anchors.get? name with
  | some id => return reference id
  | none => failure

/-- The number for an anchor. -/
def number (name : String) : Reader Nat := do
  let anchors := (← get).anchors
  modify fun f => { f with anchors := anchors.insert name anchors.size }
  return anchors.size

/-- The text that a tag stands for. -/
def expand (t : Tag) : Reader String := do
  if t.handle = "" then return t.suffix
  else
    match (← get).handles.lookup t.handle with
    | some stem => return stem ++ t.suffix
    | none => failure

/-- The anchor and the tag before a node, in either order. -/
def properties : Reader (Option String × Option Tag) := do
  match ← peek with
  | some (.anchor name) =>
    pass
    match ← peek with
    | some (.tag t) => pass; return (some name, some t)
    | _ => return (some name, none)
  | some (.tag t) =>
    pass
    match ← peek with
    | some (.anchor name) => pass; return (some name, some t)
    | _ => return (none, some t)
  | _ => return (none, none)

/-- A node with its tag. The tag of an exclamation mark alone does not count before
scalars. -/
def withTag (tag : Option String) (body : Node) : Node :=
  match tag, body with
  | none, _ => body
  | some "!", scalar _ _ => body
  | some t, _ => tagged t body

def withAnchor (id : Option Nat) (body : Node) : Node := id.elim body (anchored · body)

/-- Whether nothing is written for an item or an entry before this token. -/
def endsItem : Option Token → Bool
  | some .item | some .blockEnd => true
  | _ => false

def endsEntry : Option Token → Bool
  | some .key | some .value | some .blockEnd => true
  | _ => false

def endsPair : Option Token → Bool
  | some .value | some .comma | some .flowSeqEnd => true
  | _ => false

def endsFlowEntry : Option Token → Bool
  | some .value | some .comma | some .flowMapEnd => true
  | _ => false

/-- Passes the comma before an item that is not the first. -/
def separator (first : Bool) : Reader Unit := do
  if first then return
  match ← peek with
  | some .comma => pass
  | _ => failure

mutual

/-- A node. In block style it may be a sequence whose items stand in the column of the
key before it. Each call takes a token or leads to one that does. -/
def node : Nat → (inBlock afterKey : Bool) → Reader Node
  | 0, _, _ => failure
  | fuel + 1, inBlock, afterKey => do
    match ← peek with
    | some (.reference name) => reference? name
    | _ =>
      let (name, tag) ← properties
      let tag ← tag.mapM expand
      let id ← name.mapM number
      let next ← peek
      let body ← match next with
        | some (.scalar isPlain text) => do
          pass
          pure (withTag tag (scalar isPlain text))
        | some .flowSeq => do
          pass
          pure (withTag tag (seq (← flowItems fuel true)))
        | some .flowMap => do
          pass
          pure (withTag tag (map (← flowEntries fuel true)))
        | _ =>
          match next, inBlock, afterKey with
          | some .item, _, true => pure (withTag tag (seq (← flatItems fuel)))
          | some .blockSeq, true, _ => do
            pass
            pure (withTag tag (seq (← blockItems fuel)))
          | some .blockMap, true, _ => do
            pass
            pure (withTag tag (map (← blockEntries fuel)))
          | _, _, _ =>
            if name.isSome || tag.isSome then pure (tag.elim empty (tagged · empty)) else failure
      return withAnchor id body

/-- The items of a sequence with a column of its own. -/
def blockItems : Nat → Reader (List Node)
  | 0 => failure
  | fuel + 1 => do
    match ← peek with
    | some .item =>
      pass
      let d ← if endsItem (← peek) then pure empty else node fuel true false
      return d :: (← blockItems fuel)
    | some .blockEnd => pass; return []
    | _ => failure

/-- The items of a sequence in the column of a key. -/
def flatItems : Nat → Reader (List Node)
  | 0 => failure
  | fuel + 1 => do
    match ← peek with
    | some .item =>
      pass
      let next ← peek
      let d ← if endsItem next || endsEntry next then pure empty else node fuel true false
      return d :: (← flatItems fuel)
    | _ => return []

def blockEntries : Nat → Reader (List (Node × Node))
  | 0 => failure
  | fuel + 1 => do
    match ← peek with
    | some .key =>
      pass
      let k ← if endsEntry (← peek) then pure empty else node fuel true true
      let v ← match ← peek with
        | some .value => do
          pass
          if endsEntry (← peek) then pure empty else node fuel true true
        | _ => pure empty
      return (k, v) :: (← blockEntries fuel)
    | some .blockEnd => pass; return []
    | _ => failure

/-- The items of a sequence in flow style. A key makes a mapping of one entry. -/
def flowItems : Nat → (first : Bool) → Reader (List Node)
  | 0, _ => failure
  | fuel + 1, first => do
    match ← peek with
    | some .flowSeqEnd => pass; return []
    | _ =>
      separator first
      match ← peek with
      | some .flowSeqEnd => pass; return []
      | some .key =>
        pass
        let d ← flowPair fuel
        return d :: (← flowItems fuel false)
      | _ =>
        let d ← node fuel false false
        return d :: (← flowItems fuel false)

/-- The entry of a mapping in a sequence, after the mark of its key. Without a key, the
token after the mark does not count. -/
def flowPair : Nat → Reader Node
  | 0 => failure
  | fuel + 1 => do
    let k ← if endsPair (← peek) then do
        pass
        pure empty
      else node fuel false false
    let v ← match ← peek with
      | some .value => do
        pass
        match ← peek with
        | some .comma | some .flowSeqEnd => pure empty
        | _ => node fuel false false
      | _ => pure empty
    return map [(k, v)]

def flowEntries : Nat → (first : Bool) → Reader (List (Node × Node))
  | 0, _ => failure
  | fuel + 1, first => do
    match ← peek with
    | some .flowMapEnd => pass; return []
    | _ =>
      separator first
      match ← peek with
      | some .flowMapEnd => pass; return []
      | some .key =>
        pass
        let k ← if endsFlowEntry (← peek) then pure empty else node fuel false false
        let v ← match ← peek with
          | some .value => do
            pass
            match ← peek with
            | some .comma | some .flowMapEnd => pure empty
            | _ => node fuel false false
          | _ => pure empty
        return (k, v) :: (← flowEntries fuel false)
      | _ =>
        let k ← node fuel false false
        return (k, empty) :: (← flowEntries fuel false)

end

/-! ## Documents -/

def directive? : Token → Option Directive
  | .directive d => some d
  | _ => none

/-- What directives say of handles: each handle once, and one version at most, of YAML
1.1 or 1.2. -/
def handles? : List Directive → Bool → Option (List (String × String))
  | [], _ => some []
  | .version major minor :: rest, first =>
    if first ∧ major = 1 ∧ (minor = 1 ∨ minor = 2) then handles? rest false else none
  | .handle h stem :: rest, first => do
    let others ← handles? rest first
    if (others.lookup h).isSome then none else some ((h, stem) :: others)

/-- Passes the directives of a document. -/
def directives : Reader Unit := do
  let f ← get
  let ds := (f.tokens.map directive?).takeWhile Option.isSome |>.filterMap id
  match handles? ds true with
  | some handles =>
    set { f with tokens := f.tokens.drop ds.length, handles := handles ++ f.handles }
  | none => failure

/-- A document. -/
def document (fuel : Nat) : Reader Node := do
  match ← peek with
  | none => return empty
  | some (.directive _) | some .documentStart =>
    directives
    match ← peek with
    | some .documentStart =>
      pass
      match ← peek with
      | none | some (.directive _) | some .documentStart | some .documentEnd => return empty
      | _ => node fuel true false
    | _ => failure
  | _ => node fuel true false

def isDocumentEnd : Token → Bool
  | .documentEnd => true
  | _ => false

/-- The one document that tokens make. -/
def ofTokens? (ts : List Token) : Option Node := do
  let (d, rest) ← (document (3 * ts.length + 3)).run { tokens := ts }
  if rest.tokens.all isDocumentEnd then some d else none

end Node

end ScrapeJobs.Yaml
