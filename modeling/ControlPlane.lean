import ControlPlane.InMemory.World
import ControlPlane.Kubernetes.Scripted
import ControlPlane.Main
import ControlPlane.Probe
import ControlPlane.Proofs.Idempotence
import ControlPlane.Proofs.Recreation
import ControlPlane.Proofs.Replay
import ControlPlane.Proofs.TearDown
import ControlPlane.Proofs.Requeue
import ControlPlane.Proofs.Vetting
import ControlPlane.Proofs.Readiness
import ControlPlane.Proofs.OneTemplate
import ControlPlane.Proofs.Templates
import ControlPlane.Proofs.Backoff
import ControlPlane.Proofs.Retries
import ControlPlane.Proofs.Counts
import ControlPlane.Proofs.InMemory
import ControlPlane.Proofs.Reports
import ControlPlane.Proofs.Isolation
import ControlPlane.Proofs.Calendar
import ControlPlane.Proofs.Encodings
import ControlPlane.Proofs.Patches
import ControlPlane.Proofs.Signals
import ControlPlane.Proofs.Collection
import ControlPlane.Proofs.Readings
import ControlPlane.Proofs.NormalForm
import ControlPlane.Proofs.Stamps
import ControlPlane.Proofs.Bindings
import ControlPlane.Proofs.Conditions
import ControlPlane.Proofs.Listing
import ControlPlane.Proofs.SchemaNames
import ControlPlane.Proofs.WireText
import ControlPlane.Proofs.MachineTimeouts
import ControlPlane.Proofs.Overflow
import ControlPlane.Proofs.InstallerInputs
import ControlPlane.Proofs.Joining
