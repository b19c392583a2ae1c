/-
The template of a cluster's machines.

The bootstrap machine and the control-plane machines of a cluster are made from one
template.  It must not change once it has been accepted, but it may be spelled anew:
`equivalent` compares the timeouts of two templates by their meaning and all else by
its text.  The timeouts come last, so templates that differ elsewhere are told apart
without reading any.
-/
import ControlPlane.Duration.Timeout
import ControlPlane.Reference
import ControlPlane.Selector

namespace ControlPlane

open Json

/-- Labels and annotations that every machine carries. -/
structure MachineMetadata where
  labels : Labels
  annotations : Labels
deriving DecidableEq, Inhabited

namespace MachineMetadata

def empty : MachineMetadata := ⟨.empty, .empty⟩

/-- A table that is written only when it has entries. -/
def fieldIfFilled (name : String) (t : Labels) : Option (String × Json) :=
  if t.isEmpty then none else some (name, ofTexts t)

def encode (m : MachineMetadata) : Json :=
  objectOf [fieldIfFilled "annotations" m.annotations, fieldIfFilled "labels" m.labels]

def decode (s : Source) : Decoded MachineMetadata := do
  let r ← asRecord 0 2 s
  let labels ← r.orElse 0 "labels" .empty (asTable asString)
  let annotations ← r.orElse 1 "annotations" .empty (asTable asString)
  .ok { labels, annotations }

end MachineMetadata

structure MachineTemplate where
  metadata : MachineMetadata
  infrastructure : InfrastructureReference
  /-- How long the node is drained; zero and unset both set no limit. -/
  nodeDrainTimeout : Option String
  /-- How long volumes may take to detach; zero and unset both set no limit. -/
  nodeVolumeDetachTimeout : Option String
  /-- How long deletion of the node is tried; unset leaves it to the machine. -/
  nodeDeletionTimeout : Option String
deriving DecidableEq, Inhabited

namespace MachineTemplate

/-- The template in which nothing is set. -/
def blank : MachineTemplate := ⟨.empty, ⟨"", "", "", ""⟩, none, none, none⟩

/-- The two templates make the same machines.  Nothing comes of the comparison if it breaks
off at a timeout. -/
def equivalent (a b : MachineTemplate) : Option Bool :=
  if a.metadata = b.metadata ∧ a.infrastructure = b.infrastructure then
    Timeout.allAgree
      [Timeout.agree Timeout.ofDrain a.nodeDrainTimeout b.nodeDrainTimeout,
        Timeout.agree Timeout.ofDrain a.nodeVolumeDetachTimeout b.nodeVolumeDetachTimeout,
        Timeout.agree Timeout.ofDeletion a.nodeDeletionTimeout b.nodeDeletionTimeout]
  else some false

def encode (t : MachineTemplate) : Json :=
  objectOf [field "infrastructureRef" t.infrastructure.encode, field "metadata" t.metadata.encode,
    fieldIfSet "nodeDeletionTimeout" .str t.nodeDeletionTimeout,
    fieldIfSet "nodeDrainTimeout" .str t.nodeDrainTimeout,
    fieldIfSet "nodeVolumeDetachTimeout" .str t.nodeVolumeDetachTimeout]

def decode (s : Source) : Decoded MachineTemplate := do
  let r ← asRecord 2 5 s
  let metadata ← r.orElse 0 "metadata" .empty MachineMetadata.decode
  let infrastructure ← r.required 1 "infrastructureRef" InfrastructureReference.decode
  let nodeDrainTimeout ← r.optional 2 "nodeDrainTimeout" asString
  let nodeVolumeDetachTimeout ← r.optional 3 "nodeVolumeDetachTimeout" asString
  let nodeDeletionTimeout ← r.optional 4 "nodeDeletionTimeout" asString
  .ok { metadata, infrastructure, nodeDrainTimeout, nodeVolumeDetachTimeout, nodeDeletionTimeout }

end MachineTemplate

end ControlPlane
