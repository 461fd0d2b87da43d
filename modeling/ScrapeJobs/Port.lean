import ScrapeJobs.Rejection
import ScrapeJobs.Resource

/-!
# Ports

Discovery offers a candidate for each port of a container. A named port keeps the
candidates with that port name. A number need not be declared by any container: each
candidate of a pod gets the same address and instance, and the collector takes them as
one.
-/

namespace ScrapeJobs

open Relabel

/-- The port of an endpoint. -/
inductive Port where
  | named (name : String)
  | numeric (n : UInt16)
  deriving DecidableEq, Repr

namespace Port

/-- The port that an endpoint refers to. An empty name and the number zero are unset. -/
def resolve : Option PortRef → Except Cause Port
  | some (.name s) => if s = "" then .error (.port .unset) else .ok (named s)
  | some (.number n) =>
    if n = 0 then .error (.port .unset)
    else if 0 < n.toInt ∧ n.toInt < UInt16.size then .ok (numeric (UInt16.ofNat n.toInt.toNat))
    else .error (.port (.outOfRange n))
  | none => .error (.port .unset)

/-- How a job is named after its port. -/
def suffix : Port → String
  | named s => s
  | numeric n => toString n.toNat

/-- The rules that pick candidates and write their instance, given the instance name in
its temporary label. -/
def rules : Port → List Rule
  | named s => [
      .keep [Label.metaPodContainerPortName] (literal s),
      { Rule.copy [Label.tmpInstance, Label.metaPodContainerPortName] Label.instanceName with
        regex := "(.+);(.+)", replacement := "$1:$2" }]
  | numeric n => [
      .labelDrop Label.container,
      { Rule.copy [Label.tmpInstance] Label.instanceName with
        replacement := "$1:" ++ toString n.toNat },
      { Rule.copy [Label.metaPodIp] Label.address with
        replacement := "$1:" ++ toString n.toNat }]

/-- The rules that name an instance after its pod, or after its node if it belongs to a
daemon set. -/
def instanceRules : List Rule := [
  .copy [Label.metaPodName] Label.tmpInstance,
  { Rule.copy [Label.metaPodControllerKind, Label.metaPodNodeName] Label.tmpInstance with
    regex := "DaemonSet;(.*)" }]

end Port

end ScrapeJobs
