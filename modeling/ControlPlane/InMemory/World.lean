/-
All collaborators in memory, on one clock.

The clock stands still while anything is computed.  It moves when a call waits out the
latency of its collaborator.  A call counts at once, waits, and only then does its work;
one whose latency exceeds its budget is given up at the end of the budget and does
nothing.
-/
import ControlPlane.Controller
import ControlPlane.InMemory.Provider
import ControlPlane.InMemory.SecretStore
import ControlPlane.InMemory.Installer

namespace ControlPlane.InMemory

structure World where
  now : Time
  secrets : SecretStore
  provider : Provider
  installer : Installer
  /-- Writes of a status fail. -/
  writerFails : Bool
  /-- The statuses written so far, the last one first. -/
  written : List Status

namespace World

def start (now : Time) : World := ⟨now, .empty, .empty, .empty, false, []⟩

/-- Counts a call. -/
def count (w : World) : Call → World
  | .getSecret .. => { w with secrets := { w.secrets with gets := w.secrets.gets + 1 } }
  | .listSecrets .. => { w with secrets := { w.secrets with lists := w.secrets.lists + 1 } }
  | .generateBootConfig _ =>
    { w with installer := { w.installer with generates := w.installer.generates + 1 } }
  | .ensureMachines _ => { w with provider := { w.provider with ensures := w.provider.ensures + 1 } }
  | .deleteBootstrapMachine .. =>
    { w with provider := { w.provider with deletes := w.provider.deletes + 1 } }
  | _ => w

/-- How long a call takes. -/
def latency (w : World) : Call → Option Duration
  | .getSecret .. | .listSecrets .. => w.secrets.latency
  | .generateBootConfig _ | .bootstrapComplete .. => w.installer.latency
  | _ => w.provider.latency

/-- The work of a call. -/
def perform (w : World) : (c : Call) → Except ClientError c.Answer × World
  | .getSecret ns name => (w.secrets.get ns name, w)
  | .listSecrets ns selector => (w.secrets.list ns selector, w)
  | .generateBootConfig inputs =>
    let (answer, installer) := w.installer.generate inputs
    (answer, { w with installer })
  | .ensureMachines request =>
    let (answer, provider) := w.provider.ensure request
    (answer, { w with provider })
  | .controlPlaneJoined ns cluster => (.ok (w.provider.hasJoined ns cluster), w)
  | .bootstrapComplete ns cluster => (.ok (w.installer.isComplete ns cluster), w)
  | .deleteBootstrapMachine ns cluster =>
    (.ok (), { w with provider := w.provider.delete ns cluster })
  | .bootstrapMachineDeleted ns cluster => (.ok (w.provider.isDeleted ns cluster), w)

/-- Lets time pass. -/
def wait (w : World) (d : Duration) : World := { w with now := w.now.after d }

/-- A call without a budget. -/
def call (w : World) (c : Call) : Except ClientError c.Answer × World :=
  let w := w.count c
  ((w.latency c).elim w w.wait).perform c

/-- A call within a budget. -/
def callWithin (w : World) (c : Call) (budget : Duration) : c.Reply × World :=
  let counted := w.count c
  let delay := (counted.latency c).getD .zero
  if delay ≤ budget then
    let (answer, w) := (counted.wait delay).perform c
    match answer with
    | .ok a => (⟨.answered a, w.now⟩, w)
    | .error e => (⟨.failed e, w.now⟩, w)
  else
    let w := counted.wait budget
    (⟨.timedOut, w.now⟩, w)

/-- Writes a status. -/
def writeStatus (w : World) (s : Status) : WriteReply × World :=
  if w.writerFails then
    (⟨.error (.dependencyUnavailable "status write rejected"), w.now⟩, w)
  else (⟨.ok (), w.now⟩, { w with written := s :: w.written })

/-- Answers what a reconciliation asks for. -/
def answer : (e : Effect) → World → e.Reply × World
  | .call c budget, w => w.callWithin c budget
  | .writeStatus _ _ s, w => w.writeStatus s

end World

end ControlPlane.InMemory
