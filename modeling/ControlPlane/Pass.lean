/-
A pass over a resource.

The pass walks the bootstrap in order: it checks the spec, looks up what to install
from, collects the manifests, hands both to the installer, makes the machines, and then
looks for the signals that the control plane has joined, that the bootstrap is done and
that the bootstrap machine is gone.  It stops at the first step that fails or still
waits.  What it has reported up to there is its outcome.  Only a pass whose check of the
spec breaks off has none.
-/
import ControlPlane.Walk

namespace ControlPlane

/-- What a pass goes by: the settings, and a resource in a namespace. -/
structure Pass where
  config : Config
  resource : Resource
  ns : String

/-- What a pass leaves behind. -/
structure PassOutcome where
  status : Status
  requeue : Requeue
  error : Option ControllerError
  /-- The end of the pass. -/
  finish : Time

namespace Pass

/-- The cluster bears the name of the resource. -/
def cluster (p : Pass) : String := p.resource.name

def generation (p : Pass) : Option Int := p.resource.generation

/-- Writes a condition. -/
def report (p : Pass) (type : ConditionType) (status : ConditionStatus) (reason : Reason)
    (message : String) : Walk Unit :=
  .change fun s now => s.report type status reason message p.generation now

/-- Calls a collaborator; a failure stops the pass. -/
def call (p : Pass) (c : Call) (failure : ControllerError → Walk c.Answer) : Walk c.Answer := do
  match c.result p.config (← .ask c) with
  | .ok a => pure a
  | .error e => failure e

/-- Calls a collaborator; a failure is reported on a condition and tried again. -/
def callFor (p : Pass) (type : ConditionType) (c : Call) : Walk c.Answer :=
  p.call c fun e => .stop (.on type e .backoff)

/-- Applies a signal. -/
def receive (p : Pass) (signal : Signal) : Walk Unit := fun s =>
  match s.status.receive signal p.generation s.now with
  | .ok (_, status) => .done (some (.ok (), { s with status }))
  | .error violation => .done (some (.error ⟨.invariantViolation violation, none, .awaitChange⟩, s))

/-- A condition has to wait for something outside. -/
def waitFor (p : Pass) (type : ConditionType) (reason : Reason) (message : String) :
    Walk Requeue := do
  p.report type .fails reason message
  .change fun s now => s.reportWaiting reason message p.generation now
  pure .poll

/-- Nothing is left to do. -/
def conclude (p : Pass) : Walk Requeue := do
  p.report .progressing .fails .asExpected "control plane is ready"
  .change fun s now => s.clearDegraded p.generation now
  pure .awaitChange

/-! ### The steps -/

/-- Judges the spec over the template that is bound: it is accepted, or the pass has a reason to
stop, or the judgement breaks off. -/
def judge (p : Pass) (bound : Option MachineTemplate) : Fallible Stop Unit :=
  match specErrors p.resource.spec p.ns with
  | none => .abort
  | some [] =>
    match checkTemplateUpdate bound p.resource.spec.template with
    | .ok () => .ok ()
    | .error e => .error ⟨.validation [e], none, .awaitChange⟩
    | .abort => .abort
  | some errors =>
    let step := if bound.isNone then some (.templateBound, .validationFailed) else none
    .error ⟨.validation errors, step, .awaitChange⟩

/-- Refuses a spec that breaks rules or changes the bound template. -/
def checkSpec (p : Pass) : Walk Unit := do
  match p.judge (← .status).boundTemplate with
  | .ok () => pure ()
  | .error stop => .stop stop
  | .abort => .abort

/-- How the place is told from which the installer starts. -/
def sourceReport : InstallSource → Reason × String
  | .installState => (.installStateFound, "resuming from saved installer state")
  | .installConfig => (.installConfigFound, "starting from install config")

/-- Looks up what to install from, and binds the template. -/
def resolveInstallState (p : Pass) : Walk InstallState := do
  let secret := p.resource.spec.installState.name
  let lookup := Call.getSecret p.ns secret
  let some data ← p.callFor .templateBound lookup
    | .stop (.on .templateBound (.dependencyUnavailable (lookup.subject ++ " not found")) .backoff)
  match InstallState.ofSecret secret data with
  | .error e => .stop ⟨.validation [e], some (.templateBound, .installStateMissing), .poll⟩
  | .ok install =>
    .change fun s _ => s.bind p.resource.spec.template
    let (reason, message) := sourceReport install.source
    p.report .templateBound .holds reason message
    pure install

/-- The manifests of some secrets by their paths, or every key that is not a path.  Where
two secrets have the same path the later one decides. -/
def collectManifests (secrets : List NamedSecret) :
    Except (List ValidationError) (Table String Bytes) :=
  match secrets.flatMap fun s => manifestErrors s.name s.data.keys with
  | [] => .ok (secrets.foldl (fun found s => found.merge s.data) .empty)
  | errors => .error errors

/-- Collects the manifests from the secrets that the selector finds. -/
def resolveManifests (p : Pass) : Walk (Table String Bytes) := do
  match ControlPlane.manifestsQuery p.resource.spec with
  | .error e => .stop (.on .manifestsResolved (.validation [e]) .awaitChange)
  | .ok none =>
    p.report .manifestsResolved .holds .installerDefaults
      "no manifests selector, using installer defaults"
    pure .empty
  | .ok (some selector) =>
    let secrets ← p.callFor .manifestsResolved (.listSecrets p.ns selector)
    match collectManifests secrets with
    | .error errors =>
      .stop ⟨.validation errors, some (.manifestsResolved, .invalidManifests), .poll⟩
    | .ok manifests =>
      p.report .manifestsResolved .holds .manifestsFound
        s!"{manifests.size} manifests from {secrets.length} secrets"
      pure manifests

/-- Calls for something that leads to machines.  Once machines have been asked for, a
failure leaves their condition as it is. -/
def callForMachines (p : Pass) (c : Call) : Walk c.Answer :=
  p.call c fun e => do
    if (← .status).isTrue .machinesProvisioned then .stop ⟨e, none, .backoff⟩
    else .stop (.on .machinesProvisioned e .backoff)

/-- Hands the inputs to the installer. -/
def generateBootConfig (p : Pass) (install : InstallState) (manifests : Table String Bytes) :
    Walk String :=
  p.callForMachines <| .generateBootConfig
    { ns := p.ns, cluster := p.cluster, config := install.config, state := install.state, manifests }

/-- Asks for the machines of the cluster, made from the bound template. -/
def ensureMachines (p : Pass) (bootSecret : String) : Walk Unit := do
  let template := (← .status).boundTemplate.getD p.resource.spec.template
  let replicas := p.config.replicas
  p.callForMachines <| .ensureMachines { ns := p.ns, cluster := p.cluster, template, replicas, bootSecret }
  p.report .machinesProvisioned .holds .machinesRequested
    s!"bootstrap machine and {replicas} control-plane machines requested"

/-- Looks for a signal, and applies it if it is there. -/
def look (p : Pass) (type : ConditionType) (signal : Signal) (c : Call) (seen : c.Answer → Bool) :
    Walk Bool := do
  let answer ← p.callFor type c
  if seen answer then
    p.receive signal
    pure true
  else pure false

/-- Deletes the bootstrap machine, and concludes once it is gone. -/
def tearDown (p : Pass) : Walk Requeue := do
  p.callFor .ready (.deleteBootstrapMachine p.ns p.cluster)
  if ← p.look .ready .bootstrapMachineDeleted (.bootstrapMachineDeleted p.ns p.cluster) id then
    p.conclude
  else
    p.waitFor .ready .waitingForBootstrapDeletion "waiting for the bootstrap machine to be deleted"

/-- Goes on from a control plane that has joined. -/
def complete (p : Pass) : Walk Requeue := do
  if (← .status).isTrue .bootstrapComplete then p.tearDown
  else if ← p.look .bootstrapComplete .bootstrapCompleted (.bootstrapComplete p.ns p.cluster) id then
    p.tearDown
  else
    p.waitFor .bootstrapComplete .waitingForInstaller
      "waiting for the installer to report bootstrap complete"

/-- Makes the machines, and goes on once one of them has joined. -/
def provision (p : Pass) : Walk Requeue := do
  let install ← p.resolveInstallState
  let manifests ← p.resolveManifests
  let bootSecret ← p.generateBootConfig install manifests
  p.ensureMachines bootSecret
  if ← p.look .controlPlaneInitialized .controlPlaneJoined
      (.controlPlaneJoined p.ns p.cluster) id then
    p.complete
  else
    p.waitFor .controlPlaneInitialized .waitingForControlPlane
      "waiting for a control-plane machine to join the bootstrap cluster"

/-- The whole way. -/
def walk (p : Pass) : Walk Requeue := do
  p.checkSpec
  let s ← .status
  if s.ready then p.conclude
  else if s.initialized then p.complete
  else p.provision

/-- The outcome of a walk: an error that stopped it is reported. -/
def outcome (p : Pass) : Except Stop Requeue × Standing → PassOutcome
  | (.ok requeue, s) => ⟨s.status, requeue, none, s.now⟩
  | (.error stop, s) =>
    ⟨s.status.reportError stop.step stop.error p.generation s.now, stop.requeue, some stop.error,
      s.now⟩

/-- The pass from the moment of its start; it has no outcome if it breaks off. -/
def run (p : Pass) (start : Time) : Program Call Call.Reply (Option PassOutcome) :=
  (p.walk ⟨p.resource.status.getD .blank, start⟩).bind fun r => .done (r.map p.outcome)

end Pass

end ControlPlane
