/-
The resource that describes a control plane: its metadata, what is asked for and what is
observed.

The metadata is that of every object of the cluster.  Of it the controller uses the
name, the namespace and the generation; the rest is carried along.
-/
import ControlPlane.Spec
import ControlPlane.Status

namespace ControlPlane

open Json

/-- The owner of an object. -/
structure OwnerReference where
  apiVersion : String
  blockOwnerDeletion : Option Bool
  controller : Option Bool
  kind : String
  name : String
  uid : String
deriving DecidableEq, Inhabited

namespace OwnerReference

def encode (o : OwnerReference) : Json :=
  objectOf [field "apiVersion" (.str o.apiVersion),
    fieldIfSet "blockOwnerDeletion" .bool o.blockOwnerDeletion,
    fieldIfSet "controller" .bool o.controller, field "kind" (.str o.kind),
    field "name" (.str o.name), field "uid" (.str o.uid)]

def decode (s : Source) : Decoded OwnerReference := do
  let r ← asObject s
  let apiVersion ← r.nullable 0 "apiVersion" "" asString
  let blockOwnerDeletion ← r.optional 1 "blockOwnerDeletion" asBool
  let controller ← r.optional 2 "controller" asBool
  let kind ← r.nullable 3 "kind" "" asString
  let name ← r.nullable 4 "name" "" asString
  let uid ← r.nullable 5 "uid" "" asString
  .ok { apiVersion, blockOwnerDeletion, controller, kind, name, uid }

end OwnerReference

/-- Who manages which fields of an object. -/
structure ManagedFields where
  apiVersion : Option String
  fieldsType : Option String
  fields : Option Json
  manager : Option String
  operation : Option String
  subresource : Option String
  time : Option Time
deriving Inhabited

namespace ManagedFields

def encode (m : ManagedFields) : Json :=
  objectOf [fieldIfSet "apiVersion" .str m.apiVersion, fieldIfSet "fieldsType" .str m.fieldsType,
    fieldIfSet "fieldsV1" id m.fields, fieldIfSet "manager" .str m.manager,
    fieldIfSet "operation" .str m.operation, fieldIfSet "subresource" .str m.subresource,
    fieldIfSet "time" (fun t => .str t.text) m.time]

def decode (s : Source) : Decoded ManagedFields := do
  let r ← asObject s
  let apiVersion ← r.optional 0 "apiVersion" asString
  let fieldsType ← r.optional 1 "fieldsType" asString
  let fields ← r.optional 2 "fieldsV1" asValue
  let manager ← r.optional 3 "manager" asString
  let operation ← r.optional 4 "operation" asString
  let subresource ← r.optional 5 "subresource" asString
  let time ← r.optional 6 "time" Condition.asTime
  .ok { apiVersion, fieldsType, fields, manager, operation, subresource, time }

end ManagedFields

/-- The metadata of an object of the cluster. -/
structure ObjectMeta where
  annotations : Option Labels := none
  creationTimestamp : Option Time := none
  deletionGracePeriodSeconds : Option Int := none
  deletionTimestamp : Option Time := none
  finalizers : Option (List String) := none
  generateName : Option String := none
  generation : Option Int := none
  labels : Option Labels := none
  managedFields : Option (List ManagedFields) := none
  name : Option String := none
  ns : Option String := none
  ownerReferences : Option (List OwnerReference) := none
  resourceVersion : Option String := none
  selfLink : Option String := none
  uid : Option String := none
deriving Inhabited

namespace ObjectMeta

def encode (m : ObjectMeta) : Json :=
  objectOf [fieldIfSet "annotations" ofTexts m.annotations,
    fieldIfSet "creationTimestamp" (fun t => .str t.text) m.creationTimestamp,
    fieldIfSet "deletionGracePeriodSeconds" .int m.deletionGracePeriodSeconds,
    fieldIfSet "deletionTimestamp" (fun t => .str t.text) m.deletionTimestamp,
    fieldIfSet "finalizers" ofTextList m.finalizers,
    fieldIfSet "generateName" .str m.generateName, fieldIfSet "generation" .int m.generation,
    fieldIfSet "labels" ofTexts m.labels,
    fieldIfSet "managedFields" (fun l => .arr (l.map ManagedFields.encode)) m.managedFields,
    fieldIfSet "name" .str m.name, fieldIfSet "namespace" .str m.ns,
    fieldIfSet "ownerReferences" (fun l => .arr (l.map OwnerReference.encode)) m.ownerReferences,
    fieldIfSet "resourceVersion" .str m.resourceVersion, fieldIfSet "selfLink" .str m.selfLink,
    fieldIfSet "uid" .str m.uid]

def decode (s : Source) : Decoded ObjectMeta := do
  let r ← asObject s
  let annotations ← r.optional 0 "annotations" (asTable asString)
  let creationTimestamp ← r.optional 1 "creationTimestamp" Condition.asTime
  let deletionGracePeriodSeconds ← r.optional 2 "deletionGracePeriodSeconds" asInt64
  let deletionTimestamp ← r.optional 3 "deletionTimestamp" Condition.asTime
  let finalizers ← r.optional 4 "finalizers" (asList asString)
  let generateName ← r.optional 5 "generateName" asString
  let generation ← r.optional 6 "generation" asInt64
  let labels ← r.optional 7 "labels" (asTable asString)
  let managedFields ← r.optional 8 "managedFields" (asList ManagedFields.decode)
  let name ← r.optional 9 "name" asString
  let ns ← r.optional 10 "namespace" asString
  let ownerReferences ← r.optional 11 "ownerReferences" (asList OwnerReference.decode)
  let resourceVersion ← r.optional 12 "resourceVersion" asString
  let selfLink ← r.optional 13 "selfLink" asString
  let uid ← r.optional 14 "uid" asString
  .ok { annotations, creationTimestamp, deletionGracePeriodSeconds, deletionTimestamp, finalizers,
        generateName, generation, labels, managedFields, name, ns, ownerReferences,
        resourceVersion, selfLink, uid }

end ObjectMeta

structure Resource where
  metadata : ObjectMeta
  spec : Spec
  status : Option Status
deriving Inhabited

namespace Resource

/-- The group and version of the resource's type. -/
def apiVersion : String := "cluster.openshift.io/v1alpha1"

/-- The name of the resource's type. -/
def kind : String := "OpenShiftControlPlane"

/-- The name of the resource, or the stem of a name that is yet to be made, or nothing. -/
def name (r : Resource) : String :=
  r.metadata.name.getD (r.metadata.generateName.getD "")

def generation (r : Resource) : Option Int := r.metadata.generation

/-- The template that updates are compared with: the bound one, if any. -/
def acceptedTemplate (r : Resource) : Option MachineTemplate :=
  r.status.bind (·.boundTemplate)

def encode (r : Resource) : Json :=
  objectOf [field "apiVersion" (.str apiVersion), field "kind" (.str kind),
    field "metadata" r.metadata.encode, field "spec" r.spec.encode,
    fieldIfSet "status" Status.encode r.status]

def decode (s : Source) : Decoded Resource := do
  let r ← asRecord 3 3 s
  let metadata ← r.required 0 "metadata" ObjectMeta.decode
  let spec ← r.required 1 "spec" Spec.decode
  let status ← r.optional 2 "status" Status.decode
  .ok { metadata, spec, status }

end Resource

end ControlPlane
