import ScrapeJobs.Lineage
import ScrapeJobs.Rejection

/-!
# Metadata labels

A resource of pods may ask for metadata of its pods as labels. The rules for them come in
a fixed order, whatever the order of the request.
-/

namespace ScrapeJobs

open Relabel

/-- A piece of metadata. -/
inductive MetadataLabel where
  | ofNamespace
  | pod
  | container
  | node
  | controllerName
  | controllerType
  deriving DecidableEq, Repr

namespace MetadataLabel

def name : MetadataLabel → String
  | ofNamespace => Label.namespaceName
  | pod => Label.pod
  | container => Label.container
  | node => Label.node
  | controllerName => Label.controllerName
  | controllerType => Label.controllerType

/-- All metadata, in the order of their rules. Resources of a cluster may ask for all. -/
def all : List MetadataLabel := [ofNamespace, pod, container, node, controllerName, controllerType]

/-- What a resource of a namespace may ask for. -/
def namespaced : List MetadataLabel := [pod, container, node, controllerName, controllerType]

/-- The metadata of a name among those that are allowed. -/
def find (allowed : List MetadataLabel) (s : String) : Except Cause MetadataLabel :=
  match allowed.find? (·.name = s) with
  | some l => .ok l
  | none => .error (.metadataLabel s (allowed.map name))

/-- A set of metadata in the order of their rules. -/
def sorted (ls : List MetadataLabel) : List MetadataLabel := all.filter (ls.contains ·)

/-- The metadata that a request asks for, or else the usual ones. -/
def resolve (requested : Option (List String)) (default allowed : List MetadataLabel) :
    Except Cause (List MetadataLabel) :=
  match requested with
  | none => .ok (sorted default)
  | some names => (names.mapM (find allowed)).map sorted

/-- The label that a piece of metadata is copied from. -/
def source? : MetadataLabel → Option String
  | ofNamespace => some Label.metaNamespace
  | pod => some Label.metaPodName
  | container => some Label.metaPodContainerName
  | node => some Label.metaPodNodeName
  | controllerName | controllerType => none

/-- The rules that write metadata. -/
def rules (ls : List MetadataLabel) : List Rule :=
  ls.filterMap (fun l => l.source?.map fun s => .copy [s] l.name) ++
    Lineage.rules (ls.contains controllerName) (ls.contains controllerType)

end MetadataLabel

end ScrapeJobs
