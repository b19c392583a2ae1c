/-
A provider of machines kept in memory.

Machines are recorded with the request that made them.  Whether a control-plane machine
has joined is set from outside.  The bootstrap machine goes away as soon as its deletion
is asked for, unless deletions are held, and a bootstrap machine whose deletion was asked
for once is never made again.
-/
import ControlPlane.Call
import ControlPlane.ObjectKey

namespace ControlPlane.InMemory

structure Provider where
  machines : Table ObjectKey (MachineRole × MachineSetRequest)
  /-- The clusters that a control-plane machine has joined. -/
  joined : KeySet
  /-- The clusters whose bootstrap machine was to be deleted. -/
  deletionRequested : KeySet
  /-- Deletions wait until they are finished from outside. -/
  holdDeletion : Bool
  latency : Option Duration
  ensures : Nat
  /-- The number of machines ever made. -/
  created : Nat
  deletes : Nat

namespace Provider

def empty : Provider := ⟨.empty, .empty, .empty, false, none, 0, 0, 0⟩

instance : Inhabited Provider := ⟨empty⟩

def join (p : Provider) (ns cluster : String) (joined : Bool) : Provider :=
  let key : ObjectKey := ⟨ns, cluster⟩
  { p with joined := if joined then p.joined.insert key () else p.joined.erase key }

/-- Removes the bootstrap machine of a cluster. -/
def finishDeletion (p : Provider) (ns cluster : String) : Provider :=
  { p with machines := p.machines.erase ⟨ns, Cluster.bootstrapMachine cluster⟩ }

/-- The names of the machines of a namespace, sorted. -/
def machineNames (p : Provider) (ns : String) : List String :=
  (p.machines.keys.filter (·.ns = ns)).map (·.name)

/-- The request that a machine was made from. -/
def requestOf (p : Provider) (ns name : String) : Option MachineSetRequest :=
  (p.machines.get? ⟨ns, name⟩).map (·.2)

def deletionWasRequested (p : Provider) (ns cluster : String) : Bool :=
  p.deletionRequested.contains ⟨ns, cluster⟩

/-- Makes one machine of a request, unless it exists or must not come back. -/
def ensureOne (request : MachineSetRequest) (p : Provider) (machine : MachineRole × String) :
    Provider :=
  let (role, name) := machine
  let key : ObjectKey := ⟨request.ns, name⟩
  if role = .bootstrap && p.deletionWasRequested request.ns request.cluster then p
  else if p.machines.contains key then p
  else { p with machines := p.machines.insert key (role, request), created := p.created + 1 }

/-- Makes the machines of a request that do not exist. -/
def ensure (p : Provider) (request : MachineSetRequest) : Except ClientError Unit × Provider :=
  if request.bootSecret.isEmpty then
    (.error (.invalidRequest "boot configuration is required"), p)
  else (.ok (), request.machines.foldl (ensureOne request) p)

/-- A control-plane machine of the cluster has joined. -/
def hasJoined (p : Provider) (ns cluster : String) : Bool := p.joined.contains ⟨ns, cluster⟩

/-- Asks for the deletion of a cluster's bootstrap machine. -/
def delete (p : Provider) (ns cluster : String) : Provider :=
  let p := { p with deletionRequested := p.deletionRequested.insert ⟨ns, cluster⟩ () }
  if p.holdDeletion then p else p.finishDeletion ns cluster

/-- The bootstrap machine of the cluster does not exist. -/
def isDeleted (p : Provider) (ns cluster : String) : Bool :=
  !p.machines.contains ⟨ns, Cluster.bootstrapMachine cluster⟩

end Provider

end ControlPlane.InMemory
