/-
The collaborators of the controller behind the cluster API.

Secrets and machines are objects of the API.  The installer is handed its inputs in a
secret, and reports in a config map when the bootstrap is done.
-/
import ControlPlane.Controller
import ControlPlane.Kubernetes.Client
import ControlPlane.Kubernetes.Machines

namespace ControlPlane.Kubernetes

open Json

/-! ### Secrets -/

/-- The contents of a secret. -/
def getSecret (ns name : String) : Client (Option SecretData) := do
  let found ← Client.get? .secrets ns name decodeSecret
  return found.map (·.2)

/-- A secret of a list. -/
def namedSecret (secret : ObjectMeta × SecretData) : NamedSecret where
  name := secret.1.name.getD ""
  labels := secret.1.labels.getD .empty
  data := secret.2

def listSecrets (ns : String) (selector : Selector) : Client (List NamedSecret) := do
  let found ← Client.list .secrets ns selector.text decodeSecret
  return found.map namedSecret

/-! ### Machines -/

/-- Makes one machine of a request unless it exists. -/
def ensureMachine (r : MachineSetRequest) (machine : MachineRole × String) : Client Unit := do
  match ← Client.get? .machines r.ns machine.2 decodeObject with
  | some _ => return ()
  | none =>
    Client.apply .machines r.ns machine.2 (machineObject r machine.1 machine.2) decodeObject

/-- Makes the machines of a list, up to the first failure. -/
def ensureEach (r : MachineSetRequest) : List (MachineRole × String) → Client Unit
  | [] => return ()
  | machine :: rest => do
    ensureMachine r machine
    ensureEach r rest

/-- Makes the machines of a request that do not exist. -/
def ensureMachines (r : MachineSetRequest) : Client Unit := ensureEach r r.machines

/-- Some control-plane machine has become a node. -/
def controlPlaneJoined (ns cluster : String) : Client Bool := do
  let machines ← Client.list .machines ns (roleQuery cluster .master) decodeObject
  return machines.any hasNode

/-- Asks for the deletion of the bootstrap machine, if it exists. -/
def deleteBootstrapMachine (ns cluster : String) : Client Unit := do
  let name := Cluster.bootstrapMachine cluster
  match ← Client.get? .machines ns name decodeObject with
  | none => return ()
  | some _ => Client.delete .machines ns name

def bootstrapMachineDeleted (ns cluster : String) : Client Bool := do
  let found ← Client.get? .machines ns (Cluster.bootstrapMachine cluster) decodeObject
  return found.isNone

/-! ### The installer -/

/-- The secret with the inputs of the installer. -/
def inputsObject (i : InstallInputs) : Json :=
  objectOf [field "apiVersion" (.str "v1"),
    field "data" (.obj (i.secretData.entries.map fun e =>
      (e.1, .str (String.ofList (Base64.encode e.2))))),
    field "kind" (.str "Secret"),
    field "metadata" <| objectOf [
      field "labels" (objectOf [field clusterLabel (.str i.cluster)]),
      field "name" (.str (Cluster.inputsSecret i.cluster)), field "namespace" (.str i.ns)]]

/-- Hands over the inputs, and answers with the secret that holds them. -/
def generateBootConfig (i : InstallInputs) : Client String := do
  let name := Cluster.inputsSecret i.cluster
  Client.apply .secrets i.ns name (inputsObject i) decodeSecret
  return name

/-- The key under which the installer reports. -/
def progressKey : String := "status"

/-- The report of an installer that is done. -/
def progressDone : String := "complete"

def bootstrapComplete (ns cluster : String) : Client Bool := do
  let found ← Client.get? .configMaps ns (Cluster.progressConfigMap cluster) decodeConfigMap
  return found.any fun map => map.2.get? progressKey = some progressDone

/-! ### Calls -/

/-- A failure to talk to the API, as a failure of the collaborator behind it. -/
def asCollaborator (c : Client α) : Sending (Except ClientError α) :=
  c.run.bind fun r => .done (r.mapError .kube)

/-- The requests that carry out a call. -/
def perform : (c : Call) → Sending (Except ClientError c.Answer)
  | .getSecret ns name => asCollaborator (getSecret ns name)
  | .listSecrets ns selector => asCollaborator (listSecrets ns selector)
  | .generateBootConfig inputs =>
    if inputs.hasSource then asCollaborator (generateBootConfig inputs)
    else .done (.error (.invalidRequest (InstallInputs.noSourceMessage inputs.cluster)))
  | .ensureMachines request => asCollaborator (ensureMachines request)
  | .controlPlaneJoined ns cluster => asCollaborator (controlPlaneJoined ns cluster)
  | .bootstrapComplete ns cluster => asCollaborator (bootstrapComplete ns cluster)
  | .deleteBootstrapMachine ns cluster => asCollaborator (deleteBootstrapMachine ns cluster)
  | .bootstrapMachineDeleted ns cluster => asCollaborator (bootstrapMachineDeleted ns cluster)

/-- The change that stores a status. -/
def statusChange (s : Status) : Json := .obj [("status", s.encode)]

/-- The request that stores a status. -/
def writeStatus (ns name : String) (s : Status) : Sending (Except ControllerError Unit) :=
  (Client.mergeStatus .controlPlanes ns name (statusChange s) Resource.decode).run.bind fun r =>
    .done (r.mapError .kube)

end ControlPlane.Kubernetes
