import ScrapeJobs.Doc
import ScrapeJobs.Yaml.Node

/-!
# Documents from YAML

`Doc.ofYaml?` reads a document and puts in place of each alias what it refers to. A node
that contains itself, nests too deep or would grow out of proportion becomes `Doc.endless`:
that is no failure as long as nobody asks for it.
-/

namespace ScrapeJobs.Yaml.Node

/-! ## Aliases -/

mutual

/-- The number of steps in which a node is read. -/
def size : Node → Nat
  | scalar _ _ => 1
  | seq items => sizeItems items + 2
  | map entries => sizeEntries entries + 2
  | tagged _ d => size d
  | anchored _ d => size d
  | reference _ => 1

def sizeItems : List Node → Nat
  | [] => 0
  | d :: rest => size d + sizeItems rest

def sizeEntries : List (Node × Node) → Nat
  | [] => 0
  | (k, v) :: rest => size k + size v + sizeEntries rest

end

mutual

/-- The nodes with anchors, in the order in which they begin. -/
def anchors : Node → List (Nat × Node)
  | scalar _ _ => []
  | seq items => anchorsOfItems items
  | map entries => anchorsOfEntries entries
  | tagged _ d => anchors d
  | anchored id d => (id, d) :: anchors d
  | reference _ => []

def anchorsOfItems : List Node → List (Nat × Node)
  | [] => []
  | d :: rest => anchors d ++ anchorsOfItems rest

def anchorsOfEntries : List (Node × Node) → List (Nat × Node)
  | [] => []
  | (k, v) :: rest => anchors k ++ anchors v ++ anchorsOfEntries rest

end

/-- A document, and how many aliases were followed to make it. -/
structure Resolved where
  doc : Doc
  jumps : Nat

mutual

/-- The document of a node, given those of the anchors. -/
def resolve (known : Nat → Option Resolved) : Node → Resolved
  | scalar isPlain text => ⟨if isPlain then .plain text else .str text, 0⟩
  | seq items =>
    let (docs, jumps) := resolveItems known items
    ⟨.seq docs, jumps⟩
  | map entries =>
    let (docs, jumps) := resolveEntries known entries
    ⟨.map docs, jumps⟩
  | tagged tag d =>
    let r := resolve known d
    ⟨.tagged tag r.doc, r.jumps⟩
  | anchored _ d => resolve known d
  | reference id =>
    match known id with
    | some r => ⟨r.doc, r.jumps + 1⟩
    | none => ⟨.endless, 1⟩

def resolveItems (known : Nat → Option Resolved) : List Node → List Doc × Nat
  | [] => ([], 0)
  | d :: rest =>
    let r := resolve known d
    let (docs, jumps) := resolveItems known rest
    (r.doc :: docs, r.jumps + jumps)

def resolveEntries (known : Nat → Option Resolved) :
    List (Node × Node) → List (Doc × Doc) × Nat
  | [] => ([], 0)
  | (k, v) :: rest =>
    let k := resolve known k
    let v := resolve known v
    let (docs, jumps) := resolveEntries known rest
    ((k.doc, v.doc) :: docs, k.jumps + v.jumps + jumps)

end

/-- The documents of anchors as far as chains of at most `n` aliases lead to them, unless
one follows more than `limit` aliases. -/
def documents (limit : Nat) (nodes : List (Nat × Node)) : Nat → List (Nat × Option Resolved)
  | 0 => []
  | n + 1 =>
    let known := documents limit nodes n
    nodes.map fun (id, d) =>
      let r := d.resolve fun id => (List.lookup id known).join
      (id, if r.jumps ≤ limit then some r else none)

/-- The document of a node with its aliases followed. -/
def toDoc (d : Node) : Doc :=
  let nodes := d.anchors.reverse
  let known := documents (100 * d.size) nodes nodes.length
  (d.resolve fun id => (List.lookup id known).join).doc

end ScrapeJobs.Yaml.Node

namespace ScrapeJobs.Doc

/-! ## Depth -/

mutual

/-- Cuts off what nests deeper than so many levels. -/
def limitDepth : Nat → Doc → Doc
  | 0, seq _ => endless
  | 0, map _ => endless
  | n + 1, seq items => seq (limitItems n items)
  | n + 1, map entries => map (limitEntries n entries)
  | n, tagged tag d => tagged tag (limitDepth n d)
  | _, d => d

def limitItems : Nat → List Doc → List Doc
  | _, [] => []
  | n, d :: rest => limitDepth n d :: limitItems n rest

def limitEntries : Nat → List (Doc × Doc) → List (Doc × Doc)
  | _, [] => []
  | n, (k, v) :: rest => (limitDepth n k, limitDepth n v) :: limitEntries n rest

end

/-- Reads the characters of a text that is one document. -/
def ofYamlChars? (cs : List Char) : Option Doc := do
  let node ← Yaml.Node.ofTokens? (← Yaml.tokens? cs)
  return node.toDoc.limitDepth 128

/-- Reads a text that is one document. -/
def ofYaml? (text : String) : Option Doc := ofYamlChars? text.toList

end ScrapeJobs.Doc
