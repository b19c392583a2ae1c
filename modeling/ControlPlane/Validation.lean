/-
What a spec and the secrets it names must satisfy.

Every rule that is broken is reported, in a fixed order, and each report names the
field.  Only a timeout on which the reader breaks off is not reported: no check of the spec
goes on from there.  Secrets are checked when they are read: the install-state secret must hold
something to start from, and every key of a manifest secret must be a path that the
installer knows.
-/
import ControlPlane.Resource
import ControlPlane.Text.Base64

namespace ControlPlane

/-- A rule on the form of a name. -/
inductive NameRule where
  | characters
  | ends
deriving DecidableEq, Repr

def NameRule.message : NameRule → String
  | .characters => "must consist of lowercase alphanumeric characters, '-' or '.'"
  | .ends => "must start and end with an alphanumeric character"

/-- A field and the rule that it breaks. -/
inductive ValidationError where
  | required (field : String)
  | tooLong (field : String) (most actual : Nat)
  | invalidFormat (field : String) (rule : NameRule) (value : String)
  | namespaceMismatch (field expected actual : String)
  | invalidDuration (field value reason : String)
  | invalidSelector (field reason : String)
  /-- A secret holds nothing to install from. -/
  | missingInstallState (secret : String)
  /-- A key of a manifest secret is not a manifest path. -/
  | invalidManifestPath (secret key : String)
  | immutable (field : String)
deriving DecidableEq, Repr

namespace ValidationError

/-- The field that an error is about. -/
def field : ValidationError → String
  | .required field | .tooLong field _ _ | .invalidFormat field _ _ | .namespaceMismatch field _ _
  | .invalidDuration field _ _ | .invalidSelector field _ | .immutable field => field
  | .missingInstallState _ => "spec.installStateSecretRef"
  | .invalidManifestPath _ _ => "spec.manifestsSelector"

def message : ValidationError → String
  | .required field => field ++ " is required"
  | .tooLong field most actual => field ++ s!" must be at most {most} characters, got {actual}"
  | .invalidFormat field rule value => field ++ " " ++ rule.message ++ ": " ++ Text.quoted value
  | .namespaceMismatch field expected actual =>
    field ++ " must be in namespace " ++ expected ++ ", got " ++ actual
  | .invalidDuration field value reason =>
    field ++ " is not a valid duration " ++ Text.quoted value ++ ": " ++ reason
  | .invalidSelector field reason => field ++ " is not a valid label selector: " ++ reason
  | .missingInstallState secret =>
    "secret " ++ secret ++ " contains neither install-config.yaml nor .openshift_install_state.json"
  | .invalidManifestPath secret key =>
    "secret " ++ secret ++ " key " ++ Text.quoted key ++ " must start with manifests/ or openshift/"
  | .immutable field => field ++ " is immutable"

/-- The messages of several errors in one text. -/
def joined (errors : List ValidationError) : String := "; ".intercalate (errors.map message)

end ValidationError

/-! ### Names -/

/-- The most bytes that the name of a secret may have. -/
def secretNameLimit : Nat := 253

/-- A lower-case letter or a digit. -/
def isNameAlphanumeric (c : Char) : Bool := ('a' ≤ c && c ≤ 'z') || ('0' ≤ c && c ≤ '9')

/-- A character of a name. -/
def isNameCharacter (c : Char) : Bool := isNameAlphanumeric c || c == '-' || c == '.'

/-- The name of a secret is a DNS subdomain. -/
def checkSecretName (field name : String) : Except ValidationError Unit :=
  let cs := name.toList
  if cs.isEmpty then .error (.required field)
  else if secretNameLimit < Text.byteLength cs then
    .error (.tooLong field secretNameLimit (Text.byteLength cs))
  else if !cs.all isNameCharacter then .error (.invalidFormat field .characters name)
  else if cs.head?.all isNameAlphanumeric && cs.getLast?.all isNameAlphanumeric then .ok ()
  else .error (.invalidFormat field .ends name)

/-! ### The spec -/

/-- The error of a check, if it has one. -/
def errorOf (check : Except ε α) : List ε :=
  match check with
  | .ok _ => []
  | .error e => [e]

/-- A field that must not be empty. -/
def checkFilled (field value : String) : List ValidationError :=
  if value.isEmpty then [.required field] else []

/-- The referent must be in the resource's own namespace; an absent one is reported elsewhere. -/
def checkNamespace (field expected actual : String) : List ValidationError :=
  if actual.isEmpty || actual = expected then [] else [.namespaceMismatch field expected actual]

/-- A timeout that is set must be a duration; nothing comes of the check if its reading breaks
off. -/
def checkTimeout (field : String) : Option String → Option (List ValidationError)
  | none => some []
  | some value =>
    match Duration.parse value with
    | .ok _ => some []
    | .error e => some [.invalidDuration field value e.message]
    | .abort => none

/-- The rules on a machine template, unless one of its timeouts breaks off. -/
def checkTemplate (t : MachineTemplate) (ns : String) : Option (List ValidationError) := do
  let reference :=
    checkFilled "spec.machineTemplate.infrastructureRef.kind" t.infrastructure.kind ++
    checkFilled "spec.machineTemplate.infrastructureRef.name" t.infrastructure.name ++
    checkFilled "spec.machineTemplate.infrastructureRef.apiVersion" t.infrastructure.apiVersion ++
    checkFilled "spec.machineTemplate.infrastructureRef.namespace" t.infrastructure.ns ++
    checkNamespace "spec.machineTemplate.infrastructureRef.namespace" ns t.infrastructure.ns
  let drain ← checkTimeout "spec.machineTemplate.nodeDrainTimeout" t.nodeDrainTimeout
  let detach ← checkTimeout "spec.machineTemplate.nodeVolumeDetachTimeout" t.nodeVolumeDetachTimeout
  let deletion ← checkTimeout "spec.machineTemplate.nodeDeletionTimeout" t.nodeDeletionTimeout
  some (reference ++ drain ++ detach ++ deletion)

/-- The query for manifest secrets, or what is wrong with the selector. -/
def manifestsQuery (s : Spec) : Except ValidationError (Option Selector) :=
  match s.manifestsQuery with
  | .ok query => .ok query
  | .error e => .error (.invalidSelector "spec.manifestsSelector" e.message)

/-- Every rule that a spec breaks in a namespace, unless one of its timeouts breaks off. -/
def specErrors (s : Spec) (ns : String) : Option (List ValidationError) := do
  let template ← checkTemplate s.template ns
  some (errorOf (checkSecretName "spec.installStateSecretRef.name" s.installState.name) ++
    template ++ errorOf (manifestsQuery s))

theorem specErrors_eq_some_iff {s : Spec} {ns : String} {errors : List ValidationError} :
    specErrors s ns = some errors ↔ ∃ template, checkTemplate s.template ns = some template ∧
      errorOf (checkSecretName "spec.installStateSecretRef.name" s.installState.name) ++
        template ++ errorOf (manifestsQuery s) = errors := by
  simp [specErrors, Option.bind_eq_some_iff]

theorem specErrors_eq_nil_iff_parts {s : Spec} {ns : String} :
    specErrors s ns = some [] ↔
      errorOf (checkSecretName "spec.installStateSecretRef.name" s.installState.name) = [] ∧
      checkTemplate s.template ns = some [] ∧ errorOf (manifestsQuery s) = [] := by
  rw [specErrors_eq_some_iff]
  constructor
  · rintro ⟨template, htemplate, hnil⟩
    simp only [List.append_eq_nil_iff] at hnil
    obtain ⟨⟨hname, rfl⟩, hquery⟩ := hnil
    exact ⟨hname, htemplate, hquery⟩
  · rintro ⟨hname, htemplate, hquery⟩
    exact ⟨[], htemplate, by simp [hname, hquery]⟩

/-! ### Secrets -/

/-- The contents of a secret. -/
abbrev SecretData := Table String Bytes

/-- The key of the static install configuration. -/
def installConfigKey : String := "install-config.yaml"

/-- The key of the state of an earlier run of the installer. -/
def installStateKey : String := ".openshift_install_state.json"

/-- What the installer can start from: at least one of the two is there. -/
structure InstallState where
  config : Option Bytes
  state : Option Bytes
deriving DecidableEq, Repr

/-- Which of its two inputs the installer takes up. -/
inductive InstallSource where
  | installState
  | installConfig
deriving DecidableEq, Repr

namespace InstallState

/-- What a secret holds for the installer. -/
def ofSecret (secret : String) (data : SecretData) : Except ValidationError InstallState :=
  let found : InstallState := ⟨data.get? installConfigKey, data.get? installStateKey⟩
  if found.config.isNone && found.state.isNone then .error (.missingInstallState secret)
  else .ok found

/-- The state of an earlier run goes before the configuration. -/
def source (s : InstallState) : InstallSource :=
  if s.state.isSome then .installState else .installConfig

end InstallState

/-- The directories of manifests. -/
def manifestDirectories : List String := ["manifests/", "openshift/"]

/-- A path to something inside one of the directories of manifests. -/
def isManifestPath (key : String) : Bool :=
  manifestDirectories.any fun d =>
    d.toList.isPrefixOf key.toList && d.toList.length < key.toList.length

/-- The keys of a secret that are not manifest paths. -/
def manifestErrors (secret : String) (keys : List String) : List ValidationError :=
  (keys.filter fun key => !isManifestPath key).map (.invalidManifestPath secret)

/-! ### Updates -/

/-- The field that an update of the template is refused for. -/
def templateField : String := "machineTemplate"

/-- A template that was accepted may only be replaced by one that makes the same machines. -/
def checkTemplateUpdate (accepted : Option MachineTemplate) (proposed : MachineTemplate) :
    Fallible ValidationError Unit :=
  match accepted with
  | some accepted =>
    match accepted.equivalent proposed with
    | some true => .ok ()
    | some false => .error (.immutable templateField)
    | none => .abort
  | none => .ok ()

/-- The same for a whole spec. -/
def checkSpecUpdate (accepted : Option Spec) (proposed : Spec) : Fallible ValidationError Unit :=
  checkTemplateUpdate (accepted.map (·.template)) proposed.template

/-- Replaces the spec of a resource, unless that changes the bound template. -/
def Resource.updateSpec (r : Resource) (proposed : Spec) :
    Fallible ValidationError Unit × Resource :=
  match checkTemplateUpdate r.acceptedTemplate proposed.template with
  | .ok () => (.ok (), { r with spec := proposed })
  | refused => (refused, r)

end ControlPlane
