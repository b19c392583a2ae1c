/-
What the installer is given.

The installer starts from a configuration or from the state of an earlier run, and adds
the manifests to what it renders.  All of it is handed over in one secret.  The path of
a manifest holds a slash, which no key of a secret may hold, so the manifests are kept
together as one JSON object from path to the list of their bytes.
-/
import ControlPlane.Json.Compact
import ControlPlane.Machine
import ControlPlane.Validation

namespace ControlPlane

structure InstallInputs where
  ns : String
  cluster : String
  config : Option Bytes
  state : Option Bytes
  /-- The contents of every manifest by its path. -/
  manifests : Table String Bytes
deriving DecidableEq, Inhabited

namespace InstallInputs

/-- There is something to start from. -/
def hasSource (i : InstallInputs) : Bool := i.config.isSome || i.state.isSome

/-- The key of all manifests in the inputs secret. -/
def manifestsKey : String := "manifests.json"

/-- The bytes of a manifest as a list of numbers. -/
def bytesJson (b : Bytes) : Json := .arr (b.map fun x => .int x.toNat)

/-- All manifests as one object. -/
def manifestsJson (manifests : Table String Bytes) : Json :=
  .obj (manifests.entries.map fun e => (e.1, bytesJson e.2))

/-- The bytes of a text in UTF-8. -/
def utf8 (cs : List Char) : Bytes := cs.flatMap String.utf8EncodeChar

/-- The contents of the inputs secret. -/
def secretData (i : InstallInputs) : SecretData :=
  Table.ofList <|
    (i.config.map fun b => (installConfigKey, b)).toList ++
    (i.state.map fun b => (installStateKey, b)).toList ++
    [(manifestsKey, utf8 (manifestsJson i.manifests).compact)]

/-- What the installer answers when it has nothing to start from. -/
def noSourceMessage (cluster : String) : String :=
  "no install configuration or state for cluster " ++ cluster

end InstallInputs

/-- A secret that a query found. -/
structure NamedSecret where
  name : String
  labels : Labels
  data : SecretData
deriving DecidableEq, Inhabited

end ControlPlane
