/-
References to other objects of the cluster.
-/
import ControlPlane.Json.Decode

namespace ControlPlane

open Json

/-- The object of an infrastructure provider from which machines are made. -/
structure InfrastructureReference where
  kind : String
  ns : String
  name : String
  apiVersion : String
deriving DecidableEq, Repr, Inhabited

namespace InfrastructureReference

def encode (r : InfrastructureReference) : Json :=
  objectOf [field "apiVersion" (.str r.apiVersion), field "kind" (.str r.kind),
    field "name" (.str r.name), field "namespace" (.str r.ns)]

def decode (s : Source) : Decoded InfrastructureReference := do
  let r ← asRecord 4 4 s
  let kind ← r.required 0 "kind" asString
  let ns ← r.required 1 "namespace" asString
  let name ← r.required 2 "name" asString
  let apiVersion ← r.required 3 "apiVersion" asString
  .ok { kind, ns, name, apiVersion }

end InfrastructureReference

/-- A secret of the same namespace, by its name alone. -/
structure SecretReference where
  name : String
deriving DecidableEq, Repr, Inhabited

namespace SecretReference

def encode (r : SecretReference) : Json := objectOf [field "name" (.str r.name)]

def decode (s : Source) : Decoded SecretReference := do
  let r ← asRecord 1 1 s
  let name ← r.required 0 "name" asString
  .ok { name }

end SecretReference

end ControlPlane
