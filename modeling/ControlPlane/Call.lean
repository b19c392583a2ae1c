/-
What the controller asks of its collaborators.

There are three collaborators: the store of secrets, the provider of machines and the
installer.  Every call of one of them has a budget of time, and every way in which a
call fails to answer becomes an error of the pass that made it.
-/
import ControlPlane.Config
import ControlPlane.Installation

namespace ControlPlane

inductive Call where
  /-- The contents of a secret, if it exists. -/
  | getSecret (ns name : String)
  /-- The secrets whose labels a selector accepts. -/
  | listSecrets (ns : String) (selector : Selector)
  /-- Hands the inputs to the installer; answers with the secret that machines boot from. -/
  | generateBootConfig (inputs : InstallInputs)
  /-- Makes the machines that do not exist yet. -/
  | ensureMachines (request : MachineSetRequest)
  /-- Whether a control-plane machine has joined the bootstrap cluster. -/
  | controlPlaneJoined (ns cluster : String)
  /-- Whether the installer reports that the bootstrap is done. -/
  | bootstrapComplete (ns cluster : String)
  /-- Asks for the deletion of the bootstrap machine. -/
  | deleteBootstrapMachine (ns cluster : String)
  /-- Whether the bootstrap machine is gone. -/
  | bootstrapMachineDeleted (ns cluster : String)
deriving DecidableEq

/-- How a call ends. -/
inductive Outcome (α : Type) where
  | answered (a : α)
  | failed (e : ClientError)
  /-- The budget ran out first. -/
  | timedOut
deriving DecidableEq, Repr

namespace Call

/-- What a call is answered with. -/
abbrev Answer : Call → Type
  | .getSecret .. => Option SecretData
  | .listSecrets .. => List NamedSecret
  | .generateBootConfig _ => String
  | .ensureMachines _ => Unit
  | .controlPlaneJoined .. => Bool
  | .bootstrapComplete .. => Bool
  | .deleteBootstrapMachine .. => Unit
  | .bootstrapMachineDeleted .. => Bool

/-- The end of a call, and the moment of it. -/
structure Reply (c : Call) where
  outcome : Outcome c.Answer
  arrival : Time

/-- What a call is about. -/
def subject : Call → String
  | .getSecret ns name => "install-state secret " ++ ns ++ "/" ++ name
  | .listSecrets _ selector => "manifest secrets matching \"" ++ selector.text ++ "\""
  | .generateBootConfig _ => "installer boot configuration"
  | .ensureMachines _ => "machine creation"
  | .controlPlaneJoined .. => "control-plane join"
  | .bootstrapComplete .. => "installer bootstrap completion"
  | .deleteBootstrapMachine .. | .bootstrapMachineDeleted .. => "bootstrap machine deletion"

/-- How long a call may take. -/
def budget (config : Config) : Call → Duration
  | .getSecret .. | .listSecrets .. => config.secretLookupTimeout
  | .generateBootConfig _ | .bootstrapComplete .. => config.installerTimeout
  | _ => config.machinePollTimeout

/-- The call looks up what the resource refers to, and waits for nobody. -/
def isLookup : Call → Bool
  | .getSecret .. | .listSecrets .. => true
  | _ => false

/-- The error of a call that ran out of time. -/
def timeoutError (c : Call) (config : Config) : ControllerError :=
  let text := c.subject ++ " did not answer within " ++ (c.budget config).spoken
  if c.isLookup then .dependencyUnavailable text else .externalSignalTimeout text

/-- The answer of a call, or the error that it ends in. -/
def result (c : Call) (config : Config) : Outcome c.Answer → Except ControllerError c.Answer
  | .answered a => .ok a
  | .failed e => .error (.dependencyUnavailable (c.subject ++ ": " ++ e.message))
  | .timedOut => .error (c.timeoutError config)

end Call

end ControlPlane
