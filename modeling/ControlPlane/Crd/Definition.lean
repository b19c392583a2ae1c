/-
The published definition of the resource.

The definition names the type of the resource and carries the schemas of its spec and
its status, so that a cluster can check a resource before the controller sees it.
-/
import ControlPlane.Crd.Schema
import ControlPlane.Resource

namespace ControlPlane.Crd

open Json

/-- A text of which nothing is demanded. -/
def plainText (description : String) : Schema :=
  .text { description := some description } {}

/-! ### References -/

/-- A lower-case letter or a digit. -/
def nameEnd : List CharRange := [.range 'a' 'z', .range '0' '9']

/-- A character inside of a name. -/
def nameInside : List CharRange := .one '-' :: .one '.' :: nameEnd

/-- The names of secrets. -/
def secretNamePattern : Pattern :=
  .followedBy (.oneOf nameEnd) (.optional (.followedBy (.repeated nameInside 0 251) (.oneOf nameEnd)))

/-- The most characters that the name of a secret may have. -/
def secretNameMost : Nat := 253

def secretReference (notes : Notes) : Schema :=
  .record notes
    [("name", .text
      { description := some "Name of the secret.\n\nAt most 253 characters, a valid DNS subdomain: lowercase alphanumeric\ncharacters, '-' or '.', starting and ending with an alphanumeric character." }
      { most := some secretNameMost, pattern := some secretNamePattern })]
    ["name"]

def infrastructureReference (notes : Notes) : Schema :=
  .record notes
    [("apiVersion", plainText "API version of the referent (e.g., \"infrastructure.cluster.x-k8s.io/v1beta2\")"),
      ("kind", plainText "Kind of the referent (e.g., \"AWSMachineTemplate\")"),
      ("name", plainText "Name of the referent"),
      ("namespace", plainText "Namespace of the referent")]
    ["apiVersion", "kind", "name", "namespace"]

/-! ### The spec -/

/-- An object of texts. -/
def texts (notes : Notes) : Schema := .table notes (.text {} {})

def machineMetadata (notes : Notes) : Schema :=
  .record notes [("annotations", texts {}), ("labels", texts {})] []

/-- A timeout that may be unset. -/
def timeout (description : String) : Schema :=
  .text { description := some description, nullable := true } {}

def machineTemplate (notes : Notes) : Schema :=
  .record notes
    [("infrastructureRef", infrastructureReference
        { description := some "Infrastructure provider object used to create the machines" }),
      ("metadata", machineMetadata
        { description := some "Labels and annotations applied to every created machine"
          fallback := some (.obj []) }),
      ("nodeDeletionTimeout", timeout "Time the controller keeps retrying node deletion.\nUnset defers to the Machine default (10s)."),
      ("nodeDrainTimeout", timeout "Time the controller spends draining a node. Unset or zero means no limit."),
      ("nodeVolumeDetachTimeout", timeout "Time the controller waits for volumes to detach. Unset or zero means no limit.")]
    ["infrastructureRef"]

def requirement : Schema :=
  .record
    { description := some "A label selector requirement is a selector that contains values, a key, and an operator that relates the key and values." }
    [("key", plainText "key is the label key that the selector applies to."),
      ("operator", plainText "operator represents a key's relationship to a set of values. Valid operators are In, NotIn, Exists and DoesNotExist."),
      ("values", .list
        { description := some "values is an array of string values. If the operator is In or NotIn, the values array must be non-empty. If the operator is Exists or DoesNotExist, the values array must be empty. This array is replaced during a strategic merge patch." }
        (.text {} {}) [])]
    ["key", "operator"]

def labelSelector (notes : Notes) : Schema :=
  .record notes
    [("matchExpressions", .list
        { description := some "matchExpressions is a list of label selector requirements. The requirements are ANDed." }
        requirement []),
      ("matchLabels", texts
        { description := some "matchLabels is a map of \x7bkey,value\x7d pairs. A single \x7bkey,value\x7d in the matchLabels map is equivalent to an element of matchExpressions, whose key field is \"key\", the operator is \"In\", and the values array contains only \"value\". The requirements are ANDed." })]
    []

def spec : Schema :=
  .record {}
    [("installStateSecretRef", secretReference
        { description := some "Secret in the same namespace holding `install-config.yaml` and/or\n`.openshift_install_state.json`" }),
      ("machineTemplate", machineTemplate
        { description := some "Template for the bootstrap and control-plane machines.\n\nImmutable once accepted."
          rules := [("self == oldSelf", "machineTemplate is immutable")] }),
      ("manifestsSelector", labelSelector
        { description := some "Selects secrets whose keys (`manifests/...` or `openshift/...`) are\ninjected into the generated boot configuration.\n\nAbsent means installer defaults."
          nullable := true })]
    ["installStateSecretRef", "machineTemplate"]

/-! ### The status -/

def condition : Schema :=
  .record
    { description := some "Condition contains details for one aspect of the current state of this API Resource." }
    [("lastTransitionTime", .text
        { description := some "lastTransitionTime is the last time the condition transitioned from one status to another. This should be when the underlying condition changed.  If that is not known, then using the time when the API field changed is acceptable." }
        { format := some "date-time" }),
      ("message", plainText "message is a human readable message indicating details about the transition. This may be an empty string."),
      ("observedGeneration", .whole
        { description := some "observedGeneration represents the .metadata.generation that the condition was set based upon. For instance, if .metadata.generation is currently 12, but the .status.conditions[x].observedGeneration is 9, the condition is out of date with respect to the current state of the instance." }
        "int64"),
      ("reason", plainText "reason contains a programmatic identifier indicating the reason for the condition's last transition. Producers of specific condition types may define expected values and meanings for this field, and whether the values are considered a guaranteed API. The value should be a CamelCase string. This field may not be empty."),
      ("status", plainText "status of the condition, one of True, False, Unknown."),
      ("type", plainText "type of condition in CamelCase or in foo.example.com/CamelCase.")]
    ["lastTransitionTime", "message", "reason", "status", "type"]

/-- A flag that is only ever set. -/
def latch (description : String) : Schema :=
  .truth { description := some description, fallback := some (.bool false) }

def status : Schema :=
  .record { nullable := true }
    [("boundMachineTemplate", machineTemplate
        { description := some "Machine template accepted when the template was bound"
          nullable := true }),
      ("conditions", .list { description := some "Observations of the lifecycle, unique per type" }
        condition ["type"]),
      ("initialized", latch "True once the first control-plane machine joined the bootstrap cluster.\nNever reset."),
      ("ready", latch "True once bootstrap completed and the bootstrap machine was removed.\nNever reset.")]
    []

/-! ### The definition -/

def schema : Schema :=
  .record
    { title := some Resource.kind
      description := some "Auto-generated derived type for OpenShiftControlPlaneSpec via `CustomResource`" }
    [("spec", spec), ("status", status)] ["spec"]

/-- A column that lists of the resource show. -/
def column (name path type : String) : Json :=
  objectOf [field "jsonPath" (.str path), field "name" (.str name), field "type" (.str type)]

/-- The one version of the resource's type. -/
def version : Json :=
  objectOf [
    field "additionalPrinterColumns" (.arr [column "Initialized" ".status.initialized" "boolean",
      column "Ready" ".status.ready" "boolean"]),
    field "name" (.str "v1alpha1"),
    field "schema" (objectOf [field "openAPIV3Schema" schema.encode]),
    field "served" (.bool true), field "storage" (.bool true),
    field "subresources" (objectOf [field "status" (.obj [])])]

/-- The whole definition. -/
def definition : Json :=
  objectOf [field "apiVersion" (.str "apiextensions.k8s.io/v1"),
    field "kind" (.str "CustomResourceDefinition"),
    field "metadata" (objectOf [field "name" (.str "openshiftcontrolplanes.cluster.openshift.io")]),
    field "spec" <| objectOf [
      field "group" (.str "cluster.openshift.io"),
      field "names" <| objectOf [field "categories" (.arr []), field "kind" (.str Resource.kind),
        field "plural" (.str "openshiftcontrolplanes"),
        field "shortNames" (.arr [.str "ocp"]),
        field "singular" (.str "openshiftcontrolplane")],
      field "scope" (.str "Namespaced"), field "versions" (.arr [version])]]

end ControlPlane.Crd
