import ScrapeJobs.Dict

/-!
# Labels

Labels name the properties of targets and series. This module holds their grammar, the
way an arbitrary text becomes part of a label name, and the names with a meaning of their
own: what discovery provides and what series carry.
-/

namespace ScrapeJobs

/-- The labels of a target or a series. -/
abbrev Labels := Dict String

namespace Labels

/-- The value of a label; a label that is missing reads as the empty text. -/
def value (ls : Labels) (name : String) : String := (ls.get? name).getD ""

/-- Sets a label. An empty value removes it. -/
def set (ls : Labels) (name value : String) : Labels :=
  if value = "" then ls.erase name else ls.insert name value

end Labels

namespace Label

/-! ## Names -/

/-- ASCII letters, digits and the low line. -/
def isWordChar (c : Char) : Bool := c.isAlphanum || c = '_'

/-- Whether a text is a label name: word characters, of which the first is no digit. -/
def isName (s : String) : Bool :=
  match s.toList with
  | [] => false
  | c :: rest => (c.isAlpha || c = '_') && rest.all isWordChar

/-- Replaces every character that no label name has by a low line, as discovery does
with the keys of object labels. -/
def sanitize (s : String) : String :=
  String.ofList (s.toList.map fun c => if isWordChar c then c else '_')

/-! ## What discovery provides -/

def address : String := "__address__"
/-- Holds the instance name until the port is appended. -/
def tmpInstance : String := "__tmp_instance"
/-- The query parameter in which a prober expects its target. -/
def paramTarget : String := "__param_target"

def metaNamespace : String := "__meta_kubernetes_namespace"
def metaPodName : String := "__meta_kubernetes_pod_name"
def metaPodIp : String := "__meta_kubernetes_pod_ip"
def metaPodPhase : String := "__meta_kubernetes_pod_phase"
def metaPodNodeName : String := "__meta_kubernetes_pod_node_name"
def metaPodContainerName : String := "__meta_kubernetes_pod_container_name"
def metaPodContainerPortName : String := "__meta_kubernetes_pod_container_port_name"
def metaPodControllerKind : String := "__meta_kubernetes_pod_controller_kind"
def metaPodControllerName : String := "__meta_kubernetes_pod_controller_name"
def metaNodeName : String := "__meta_kubernetes_node_name"

/-! ## What series carry -/

def projectId : String := "project_id"
def location : String := "location"
def cluster : String := "cluster"
/-- The namespace of the scraped object. -/
def namespaceName : String := "namespace"
def job : String := "job"
def instanceName : String := "instance"
def pod : String := "pod"
def container : String := "container"
def node : String := "node"
def controllerName : String := "top_level_controller_name"
def controllerType : String := "top_level_controller_type"

/-! ## Labels of objects -/

/-- The kind of discovered object whose labels are asked for. -/
inductive Family where
  | pod
  | node
  deriving DecidableEq, Repr

/-- The label with the value of the object's label `key`. -/
def Family.valueOf (f : Family) (key : String) : String :=
  (match f with
    | pod => "__meta_kubernetes_pod_label_"
    | node => "__meta_kubernetes_node_label_") ++ sanitize key

/-- The label that is `true` when the object has the label `key`. -/
def Family.presenceOf (f : Family) (key : String) : String :=
  (match f with
    | pod => "__meta_kubernetes_pod_labelpresent_"
    | node => "__meta_kubernetes_node_labelpresent_") ++ sanitize key

end Label

end ScrapeJobs
