/-
An installer kept in memory.

It keeps the inputs that it was handed last for every cluster.  Whether the bootstrap of
a cluster is done is set from outside.
-/
import ControlPlane.Call
import ControlPlane.ObjectKey

namespace ControlPlane.InMemory

structure Installer where
  inputs : Table ObjectKey InstallInputs
  /-- The clusters whose bootstrap is done. -/
  complete : KeySet
  latency : Option Duration
  generates : Nat

namespace Installer

def empty : Installer := ⟨.empty, .empty, none, 0⟩

instance : Inhabited Installer := ⟨empty⟩

def setComplete (i : Installer) (ns cluster : String) (complete : Bool) : Installer :=
  let key : ObjectKey := ⟨ns, cluster⟩
  { i with complete := if complete then i.complete.insert key () else i.complete.erase key }

/-- The inputs that were handed over last for a cluster. -/
def inputsOf (i : Installer) (ns cluster : String) : Option InstallInputs :=
  i.inputs.get? ⟨ns, cluster⟩

/-- Takes inputs, and answers with the secret that machines boot from. -/
def generate (i : Installer) (inputs : InstallInputs) : Except ClientError String × Installer :=
  if inputs.hasSource then
    (.ok (Cluster.inputsSecret inputs.cluster),
      { i with inputs := i.inputs.insert ⟨inputs.ns, inputs.cluster⟩ inputs })
  else (.error (.invalidRequest (InstallInputs.noSourceMessage inputs.cluster)), i)

/-- The bootstrap of the cluster is done. -/
def isComplete (i : Installer) (ns cluster : String) : Bool := i.complete.contains ⟨ns, cluster⟩

end Installer

end ControlPlane.InMemory
