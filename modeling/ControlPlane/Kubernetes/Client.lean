/-
The verbs of the cluster API on objects of one type.
-/
import ControlPlane.Kubernetes.Reading
import ControlPlane.Kubernetes.Url

namespace ControlPlane.Kubernetes

open Json

/-- A type of objects that live in namespaces. -/
structure ObjectType where
  /-- The group and version as the path has them. -/
  root : String
  plural : String
deriving DecidableEq, Repr

namespace ObjectType

def secrets : ObjectType := ⟨"/api/v1", "secrets"⟩

def configMaps : ObjectType := ⟨"/api/v1", "configmaps"⟩

def machines : ObjectType := ⟨"/apis/cluster.x-k8s.io/v1beta1", "machines"⟩

def controlPlanes : ObjectType := ⟨"/apis/cluster.openshift.io/v1alpha1", "openshiftcontrolplanes"⟩

/-- The path of all objects of a namespace. -/
def path (t : ObjectType) (ns : String) : String :=
  t.root ++ "/namespaces/" ++ ns ++ "/" ++ t.plural

/-- The path of one object. -/
def objectPath (t : ObjectType) (ns name : String) : String := t.path ns ++ "/" ++ name

end ObjectType

namespace Client

/-- Sends a request and reads the reply.  Only a request for one object takes no
parameters. -/
def send (method : Method) (path : String) (query : Option (List (String × String)))
    (contentType : Option String) (body : Option Json) (decode : Source → Decoded α) : Client α :=
  match Target.ofUrl? (urlOf path query) with
  | none => throw .unsendable
  | some target => ExceptT.mk <|
    .ask ⟨method, target.path, target.query, contentType, body⟩ fun reply => .done (reply.read decode)

/-- Requests about one object need a name. -/
def named (name : String) (request : Client α) : Client α :=
  if name.isEmpty then throw .unsendable else request

/-- An object, if it exists. -/
def get? (t : ObjectType) (ns name : String) (decode : Source → Decoded α) : Client (Option α) :=
  named name <| ExceptT.mk <|
    (send .get (t.objectPath ns name) none none none decode).run.bind fun
      | .ok a => .done (.ok (some a))
      | .error fault => .done (if fault.isNotFound then .ok none else .error fault)

/-- The objects that a label query finds. -/
def list (t : ObjectType) (ns query : String) (decode : Source → Decoded α) : Client (List α) :=
  send .get (t.path ns) (some [("labelSelector", query)]) none none (decodeItems decode)

/-- The name under which this controller manages fields. -/
def fieldManager : String := "openshift-control-plane"

/-- Makes an object, or brings it into the given form. -/
def apply (t : ObjectType) (ns name : String) (object : Json) (decode : Source → Decoded α) :
    Client Unit := named name do
  let _ ← send .patch (t.objectPath ns name)
    (some [("force", "true"), ("fieldManager", fieldManager)]) (some "application/apply-patch+yaml")
    (some object) decode

/-- Asks for the deletion of an object; what depends on it follows later. -/
def delete (t : ObjectType) (ns name : String) : Client Unit := named name <|
  send .delete (t.objectPath ns name) (some []) (some "application/json")
    (some (.obj [("propagationPolicy", .str "Background")])) decodeDeletion

/-- Merges a change into the status of an object. -/
def mergeStatus (t : ObjectType) (ns name : String) (change : Json) (decode : Source → Decoded α) :
    Client Unit := named name do
  let _ ← send .patch (t.objectPath ns name ++ "/status") (some [])
    (some "application/merge-patch+json") (some change) decode

end Client

end ControlPlane.Kubernetes
