/-
The machines of a cluster.

A cluster starts from one bootstrap machine, which stands up the first control plane and
goes away, and from a number of control-plane machines, which stay.  Their names are made
from the cluster's name, so that a machine is found again by asking for it.
-/
import ControlPlane.Template

namespace ControlPlane

/-- What a machine is for. -/
inductive MachineRole where
  /-- It stands up the initial control plane, and is deleted afterwards. -/
  | bootstrap
  /-- It belongs to the control plane. -/
  | master
deriving DecidableEq, Repr

def MachineRole.text : MachineRole → String
  | .bootstrap => "bootstrap"
  | .master => "master"

namespace Cluster

/-- The name of a cluster's bootstrap machine. -/
def bootstrapMachine (cluster : String) : String := cluster ++ "-bootstrap"

/-- The name of one of a cluster's control-plane machines, counted from zero. -/
def controlPlaneMachine (cluster : String) (index : Nat) : String :=
  cluster ++ "-master-" ++ String.ofList (Nat.toDigits 10 index)

/-- The secret that holds what the installer starts from; machines boot from it. -/
def inputsSecret (cluster : String) : String := cluster ++ "-installer-inputs"

/-- The config map in which the installer reports its progress. -/
def progressConfigMap (cluster : String) : String := cluster ++ "-bootstrap"

end Cluster

/-- The machines that a cluster is to have. -/
structure MachineSetRequest where
  ns : String
  cluster : String
  template : MachineTemplate
  /-- The number of control-plane machines. -/
  replicas : Nat
  /-- The secret that the machines boot from. -/
  bootSecret : String
deriving DecidableEq, Inhabited

namespace MachineSetRequest

/-- The machines with their names, the bootstrap machine first. -/
def machines (r : MachineSetRequest) : List (MachineRole × String) :=
  (.bootstrap, Cluster.bootstrapMachine r.cluster) ::
    (List.range r.replicas).map fun i => (.master, Cluster.controlPlaneMachine r.cluster i)

end MachineSetRequest

end ControlPlane
