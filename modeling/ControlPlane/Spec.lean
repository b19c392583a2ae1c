/-
What the user asks for: the machines of a control plane, the secret with the
installer's input, and the manifests that go into the boot configuration.
-/
import ControlPlane.Template

namespace ControlPlane

open Json

structure Spec where
  template : MachineTemplate
  /-- The secret that holds the install configuration, or the state of an earlier run. -/
  installState : SecretReference
  /-- The secrets whose entries are manifests; unset means the installer's defaults. -/
  manifestsSelector : Option LabelSelector
deriving DecidableEq, Inhabited

namespace Spec

/-- The query for manifest secrets.  A selector that excludes nothing counts as unset. -/
def manifestsQuery (s : Spec) : Except SelectorError (Option Selector) :=
  match s.manifestsSelector with
  | none => .ok none
  | some written => do
    let selector ← written.selector
    .ok (if selector.selectsAll then none else some selector)

def encode (s : Spec) : Json :=
  objectOf [field "installStateSecretRef" s.installState.encode,
    field "machineTemplate" s.template.encode,
    fieldIfSet "manifestsSelector" LabelSelector.encode s.manifestsSelector]

def decode (s : Source) : Decoded Spec := do
  let r ← asRecord 2 3 s
  let template ← r.required 0 "machineTemplate" MachineTemplate.decode
  let installState ← r.required 1 "installStateSecretRef" SecretReference.decode
  let manifestsSelector ← r.optional 2 "manifestsSelector" LabelSelector.decode
  .ok { template, installState, manifestsSelector }

end Spec

end ControlPlane
