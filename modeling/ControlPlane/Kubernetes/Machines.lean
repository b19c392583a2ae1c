/-
How machines are written down for the cluster API.

A machine carries the labels and annotations of its template, and three labels of its own
over them: its cluster, that it belongs to a control plane, and its role.  The
control-plane machines of a cluster are found again by the first and the last of them.
-/
import ControlPlane.Json
import ControlPlane.Machine

namespace ControlPlane.Kubernetes

open Json

/-- The label with the name of the cluster. -/
def clusterLabel : String := "cluster.x-k8s.io/cluster-name"

/-- The label of every machine that belongs to a control plane. -/
def controlPlaneLabel : String := "cluster.x-k8s.io/control-plane"

/-- The label with the role of a machine. -/
def roleLabel : String := "controlplane.openshift.io/machine-role"

/-- The labels of a machine. -/
def machineLabels (r : MachineSetRequest) (role : MachineRole) : Labels :=
  r.template.metadata.labels.insertMany
    [(clusterLabel, r.cluster), (controlPlaneLabel, ""), (roleLabel, role.text)]

/-- One machine of a request. -/
def machineObject (r : MachineSetRequest) (role : MachineRole) (name : String) : Json :=
  let t := r.template
  objectOf [field "apiVersion" (.str "cluster.x-k8s.io/v1beta1"), field "kind" (.str "Machine"),
    field "metadata" <| objectOf [field "annotations" (ofTexts t.metadata.annotations),
      field "labels" (ofTexts (machineLabels r role)), field "name" (.str name),
      field "namespace" (.str r.ns)],
    field "spec" <| objectOf [
      field "bootstrap" (objectOf [field "dataSecretName" (.str r.bootSecret)]),
      field "clusterName" (.str r.cluster),
      field "infrastructureRef" t.infrastructure.encode,
      fieldIfSet "nodeDeletionTimeout" .str t.nodeDeletionTimeout,
      fieldIfSet "nodeDrainTimeout" .str t.nodeDrainTimeout,
      fieldIfSet "nodeVolumeDetachTimeout" .str t.nodeVolumeDetachTimeout]]

/-- The query for the machines of a cluster that have a role. -/
def roleQuery (cluster : String) (role : MachineRole) : String :=
  clusterLabel ++ "=" ++ cluster ++ "," ++ roleLabel ++ "=" ++ role.text

/-- The machine has become a node. -/
def hasNode (machine : Json) : Bool :=
  match (machine.get? "status").bind (Json.get? "nodeRef") with
  | none | some .null => false
  | some _ => true

end ControlPlane.Kubernetes
