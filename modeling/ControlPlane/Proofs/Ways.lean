/-
Every way of a pass from its start to its end.

A walk has some twenty ends.  Each of them is told here once: the calls that lead to it with
their answers, what the walk comes to there, and the standing that it leaves.  As the steps of
a walk go on from one another, so do the ways: `TearsDown` is the last part of `Completes`,
that of `Joins`, that of `Hands`, and that of `Provisions`.  What is proved of the end of a
pass, or of the order of its calls, goes by the cases of these relations, and opens no step.

Two exits of the steps are on no way.  A selector that cannot be read has been refused with
the spec, and a signal is looked for only in its turn.
-/
import ControlPlane.Proofs.Resolution

namespace ControlPlane

open Program (Runs)

namespace Pass

open Walk

/-- The bootstrap machine is deleted, and looked for until it is gone. -/
inductive TearsDown (p : Pass) (s : Status) : Calls → Except Stop Requeue → Standing → Prop where
  | unasked {reply : (Call.deleteBootstrapMachine p.ns p.cluster).Reply} {e : ControllerError}
      (he : (Call.deleteBootstrapMachine p.ns p.cluster).result p.config reply.outcome =
        .error e) :
      TearsDown p s [⟨.deleteBootstrapMachine p.ns p.cluster, reply⟩]
        (.error (.on .ready e .backoff)) ⟨s, reply.arrival⟩
  | unknown {asked : Time} {reply : (Call.bootstrapMachineDeleted p.ns p.cluster).Reply}
      {e : ControllerError}
      (he : (Call.bootstrapMachineDeleted p.ns p.cluster).result p.config reply.outcome =
        .error e) :
      TearsDown p s [⟨.deleteBootstrapMachine p.ns p.cluster, ⟨.answered (), asked⟩⟩,
        ⟨.bootstrapMachineDeleted p.ns p.cluster, reply⟩]
        (.error (.on .ready e .backoff)) ⟨s, reply.arrival⟩
  | remains {asked now : Time} {reason : Reason} {message : String} :
      TearsDown p s [⟨.deleteBootstrapMachine p.ns p.cluster, ⟨.answered (), asked⟩⟩,
        ⟨.bootstrapMachineDeleted p.ns p.cluster, ⟨.answered false, now⟩⟩]
        (.ok .poll) ⟨p.waiting .ready reason message s now, now⟩
  | gone {asked now : Time} :
      TearsDown p s [⟨.deleteBootstrapMachine p.ns p.cluster, ⟨.answered (), asked⟩⟩,
        ⟨.bootstrapMachineDeleted p.ns p.cluster, ⟨.answered true, now⟩⟩]
        (.ok .awaitChange)
        ⟨p.concluded (p.signalled .bootstrapMachineDeleted { s with ready := true } now) now, now⟩

/-- The end of the bootstrap is looked for, unless it is known. -/
inductive Completes (p : Pass) (s : Status) : Calls → Except Stop Requeue → Standing → Prop where
  | known {log : Calls} {r : Except Stop Requeue} {s' : Standing}
      (hcomplete : s.isTrue .bootstrapComplete = true) (h : p.TearsDown s log r s') :
      Completes p s log r s'
  | unknown {reply : (Call.bootstrapComplete p.ns p.cluster).Reply} {e : ControllerError}
      (he : (Call.bootstrapComplete p.ns p.cluster).result p.config reply.outcome = .error e) :
      Completes p s [⟨.bootstrapComplete p.ns p.cluster, reply⟩]
        (.error (.on .bootstrapComplete e .backoff)) ⟨s, reply.arrival⟩
  | unfinished {now : Time} {reason : Reason} {message : String} :
      Completes p s [⟨.bootstrapComplete p.ns p.cluster, ⟨.answered false, now⟩⟩]
        (.ok .poll) ⟨p.waiting .bootstrapComplete reason message s now, now⟩
  | finished {now : Time} {log : Calls} {r : Except Stop Requeue} {s' : Standing}
      (h : p.TearsDown (p.signalled .bootstrapCompleted s now) log r s') :
      Completes p s (⟨.bootstrapComplete p.ns p.cluster, ⟨.answered true, now⟩⟩ :: log) r s'

/-- A control-plane machine that has joined is looked for. -/
inductive Joins (p : Pass) (s : Status) : Calls → Except Stop Requeue → Standing → Prop where
  | unknown {reply : (Call.controlPlaneJoined p.ns p.cluster).Reply} {e : ControllerError}
      (he : (Call.controlPlaneJoined p.ns p.cluster).result p.config reply.outcome = .error e) :
      Joins p s [⟨.controlPlaneJoined p.ns p.cluster, reply⟩]
        (.error (.on .controlPlaneInitialized e .backoff)) ⟨s, reply.arrival⟩
  | absent {now : Time} {reason : Reason} {message : String} :
      Joins p s [⟨.controlPlaneJoined p.ns p.cluster, ⟨.answered false, now⟩⟩]
        (.ok .poll) ⟨p.waiting .controlPlaneInitialized reason message s now, now⟩
  | joined {now : Time} {log : Calls} {r : Except Stop Requeue} {s' : Standing}
      (h : p.Completes (p.signalled .controlPlaneJoined s.markInitialized now) log r s') :
      Joins p s (⟨.controlPlaneJoined p.ns p.cluster, ⟨.answered true, now⟩⟩ :: log) r s'

/-- The look-ups stop the pass. -/
inductive Stumbles (p : Pass) (s : Status) : Calls → Stop → Standing → Prop where
  | unanswered {reply : p.lookup.Reply} {e : ControllerError}
      (he : p.lookup.result p.config reply.outcome = .error e) :
      Stumbles p s [⟨p.lookup, reply⟩] (.on .templateBound e .backoff) ⟨s, reply.arrival⟩
  | absent {now : Time} :
      Stumbles p s [⟨p.lookup, ⟨.answered none, now⟩⟩]
        (.on .templateBound (.dependencyUnavailable (p.lookup.subject ++ " not found")) .backoff)
        ⟨s, now⟩
  | useless {data : SecretData} {e : ValidationError} {now : Time}
      (he : InstallState.ofSecret p.resource.spec.installState.name data = .error e) :
      Stumbles p s [⟨p.lookup, ⟨.answered (some data), now⟩⟩]
        ⟨.validation [e], some (.templateBound, .installStateMissing), .poll⟩ ⟨s, now⟩
  | unlisted {data : SecretData} {install : InstallState} {now : Time} {selector : Selector}
      {reply : (Call.listSecrets p.ns selector).Reply} {e : ControllerError}
      (hinstall : InstallState.ofSecret p.resource.spec.installState.name data = .ok install)
      (he : (Call.listSecrets p.ns selector).result p.config reply.outcome = .error e) :
      Stumbles p s
        [⟨p.lookup, ⟨.answered (some data), now⟩⟩, ⟨.listSecrets p.ns selector, reply⟩]
        (.on .manifestsResolved e .backoff) ⟨p.bound install s now, reply.arrival⟩
  | invalid {data : SecretData} {install : InstallState} {now now' : Time} {selector : Selector}
      {secrets : List NamedSecret} {errors : List ValidationError}
      (hinstall : InstallState.ofSecret p.resource.spec.installState.name data = .ok install)
      (herrors : collectManifests secrets = .error errors) :
      Stumbles p s [⟨p.lookup, ⟨.answered (some data), now⟩⟩,
        ⟨.listSecrets p.ns selector, ⟨.answered secrets, now'⟩⟩]
        ⟨.validation errors, some (.manifestsResolved, .invalidManifests), .poll⟩
        ⟨p.bound install s now, now'⟩

/-- The look-ups come to something to install from and to some manifests. -/
inductive Gathers (p : Pass) (s : Status) :
    Calls → InstallState → Table String Bytes → Status → Prop where
  | defaults {data : SecretData} {install : InstallState} {now : Time} {reason : Reason}
      {message : String}
      (hinstall : InstallState.ofSecret p.resource.spec.installState.name data = .ok install)
      (hquery : ControlPlane.manifestsQuery p.resource.spec = .ok none) :
      Gathers p s [⟨p.lookup, ⟨.answered (some data), now⟩⟩] install .empty
        (p.resolved reason message (p.bound install s now) now)
  | listed {data : SecretData} {install : InstallState} {now now' : Time} {selector : Selector}
      {secrets : List NamedSecret} {manifests : Table String Bytes} {reason : Reason}
      {message : String}
      (hinstall : InstallState.ofSecret p.resource.spec.installState.name data = .ok install)
      (hquery : ControlPlane.manifestsQuery p.resource.spec = .ok (some selector))
      (hmanifests : collectManifests secrets = .ok manifests) :
      Gathers p s [⟨p.lookup, ⟨.answered (some data), now⟩⟩,
        ⟨.listSecrets p.ns selector, ⟨.answered secrets, now'⟩⟩] install manifests
        (p.resolved reason message (p.bound install s now) now')

/-- The machines are made, and the first of them is looked for. -/
inductive Hands (p : Pass) (bootSecret : String) (s : Status) :
    Calls → Except Stop Requeue → Standing → Prop where
  | unmade {reply : (Call.ensureMachines (p.request bootSecret s)).Reply} {e : ControllerError}
      (he : (Call.ensureMachines (p.request bootSecret s)).result p.config reply.outcome =
        .error e) :
      Hands p bootSecret s [⟨.ensureMachines (p.request bootSecret s), reply⟩]
        (.error (provisioningStop s e)) ⟨s, reply.arrival⟩
  | made {now : Time} {log : Calls} {r : Except Stop Requeue} {s' : Standing}
      (h : p.Joins (p.requested s now) log r s') :
      Hands p bootSecret s
        (⟨.ensureMachines (p.request bootSecret s), ⟨.answered (), now⟩⟩ :: log) r s'

/-- What the look-ups come to is handed to the installer, and the machines are made. -/
inductive Provisions (p : Pass) (s : Status) : Calls → Except Stop Requeue → Standing → Prop where
  | stumbled {log : Calls} {why : Stop} {s' : Standing} (h : p.Stumbles s log why s') :
      Provisions p s log (.error why) s'
  | unconfigured {looks : Calls} {install : InstallState} {manifests : Table String Bytes}
      {status : Status} {reply : (Call.generateBootConfig (p.inputs install manifests)).Reply}
      {e : ControllerError} (h : p.Gathers s looks install manifests status)
      (he : (Call.generateBootConfig (p.inputs install manifests)).result p.config reply.outcome =
        .error e) :
      Provisions p s (looks ++ [⟨.generateBootConfig (p.inputs install manifests), reply⟩])
        (.error (provisioningStop status e)) ⟨status, reply.arrival⟩
  | configured {looks log : Calls} {install : InstallState} {manifests : Table String Bytes}
      {status : Status} {bootSecret : String} {now : Time} {r : Except Stop Requeue}
      {s' : Standing} (h : p.Gathers s looks install manifests status)
      (hrest : p.Hands bootSecret status log r s') :
      Provisions p s (looks ++ ⟨.generateBootConfig (p.inputs install manifests),
        ⟨.answered bootSecret, now⟩⟩ :: log) r s'

/-- A whole walk. -/
inductive Goes (p : Pass) (s : Standing) : Calls → Except Stop Requeue → Standing → Prop where
  | refused {why : Stop} (h : p.judge s.status.boundTemplate = .error why) :
      Goes p s [] (.error why) s
  | ready (hready : s.status.ready = true) :
      Goes p s [] (.ok .awaitChange) ⟨p.concluded s.status s.now, s.now⟩
  | initialized {log : Calls} {r : Except Stop Requeue} {s' : Standing}
      (hinit : s.status.initialized = true) (h : p.Completes s.status log r s') : Goes p s log r s'
  | fresh {log : Calls} {r : Except Stop Requeue} {s' : Standing}
      (haccepted : p.judge s.status.boundTemplate = .ok ())
      (hinit : s.status.initialized = false) (h : p.Provisions s.status log r s') :
      Goes p s log r s'

/-! ### A walk goes one of the ways -/

variable {p : Pass} {s : Standing}

theorem ends_tearDown (hinit : s.status.initialized = true)
    (hcomplete : s.status.isTrue .bootstrapComplete = true) :
    p.tearDown.Ends s fun log r s' => p.TearsDown s.status log r s' := by
  refine ends_bind.mpr (ends_callFor (fun _ asked => ?asked) fun _ _ he => .unasked he)
  case asked =>
    refine ends_bind.mpr (ends_look hcomplete (Status.latch_bootstrapMachineDeleted hinit)
      ?applied ?unseen ?failed)
    case applied =>
      intro seen now hseen
      obtain rfl : seen = true := hseen
      exact ends_conclude.mpr .gone
    case unseen =>
      intro seen now hseen
      obtain rfl : seen = false := hseen
      exact ends_waitFor.mpr .remains
    case failed =>
      intro reply e he
      exact .unknown he

theorem ends_complete (hinit : s.status.initialized = true) :
    p.complete.Ends s fun log r s' => p.Completes s.status log r s' := by
  refine ends_bind.mpr (ends_status.mpr ?_)
  dsimp only
  split
  · rename_i hcomplete
    exact (ends_tearDown hinit hcomplete).imp fun _ _ _ h => .known hcomplete h
  · refine ends_bind.mpr (ends_look hinit rfl ?applied ?unseen ?failed)
    case applied =>
      intro seen now hseen
      obtain rfl : seen = true := hseen
      exact (ends_tearDown (s := ⟨p.signalled .bootstrapCompleted s.status now, now⟩) hinit
        isTrue_signalled_condition).imp fun _ _ _ h => .finished h
    case unseen =>
      intro seen now hseen
      obtain rfl : seen = false := hseen
      exact ends_waitFor.mpr .unfinished
    case failed =>
      intro reply e he
      exact .unknown he

theorem ends_hand {bootSecret : String} :
    (p.hand bootSecret).Ends s fun log r s' => p.Hands bootSecret s.status log r s' := by
  refine ends_bind.mpr (ends_ensureMachines (fun made => ?made) fun _ _ he => .unmade he)
  case made =>
    refine ends_bind.mpr (ends_look rfl rfl ?applied ?unseen ?failed)
    case applied =>
      intro seen now hseen
      obtain rfl : seen = true := hseen
      let joined := p.signalled .controlPlaneJoined (p.requested s.status made).markInitialized now
      exact (ends_complete (s := ⟨joined, now⟩) rfl).imp fun _ _ _ h => .made (.joined h)
    case unseen =>
      intro seen now hseen
      obtain rfl : seen = false := hseen
      exact ends_waitFor.mpr (.made .absent)
    case failed =>
      intro reply e he
      exact .made (.unknown he)

theorem ends_handOver {before status : Status} {now : Time} {looks : Calls}
    {install : InstallState} {manifests : Table String Bytes}
    (h : p.Gathers before looks install manifests status) :
    (p.generateBootConfig install manifests >>= p.hand).Ends ⟨status, now⟩ fun rest r s' =>
      p.Provisions before (looks ++ rest) r s' := by
  refine ends_bind.mpr (ends_generateBootConfig (fun bootSecret now => ?handed)
    fun _ _ he => .unconfigured h he)
  case handed => exact ends_hand.imp fun _ _ _ hrest => .configured h hrest

/-- The selector of a spec that is accepted can be read. -/
theorem manifestsQuery_of_accepted {spec : Spec} {ns : String} (h : specErrors spec ns = some [])
    {e : ValidationError} : ControlPlane.manifestsQuery spec ≠ .error e := by
  intro hquery
  obtain ⟨-, -, hnone⟩ := specErrors_eq_nil_iff_parts.mp h
  rw [hquery] at hnone
  cases hnone

theorem ends_provision (haccepted : specErrors p.resource.spec p.ns = some []) :
    p.provision.Ends s fun log r s' => p.Provisions s.status log r s' := by
  refine ends_bind.mpr (ends_resolveInstallState ?found ?failed ?absent ?useless)
  case found =>
    intro data install now hinstall
    refine ends_bind.mpr (ends_resolveManifests ?defaults ?listed ?unreadable ?unlisted ?invalid)
    case defaults =>
      intro hquery
      exact ends_handOver (.defaults hinstall hquery)
    case listed =>
      intro selector secrets manifests now' hquery hmanifests
      exact ends_handOver (.listed hinstall hquery hmanifests)
    case unreadable =>
      intro e hquery
      exact absurd hquery (manifestsQuery_of_accepted haccepted)
    case unlisted =>
      intro selector reply e _ he
      exact .stumbled (.unlisted hinstall he)
    case invalid =>
      intro selector secrets errors now' _ herrors
      exact .stumbled (.invalid hinstall herrors)
  case failed =>
    intro reply e he
    exact .stumbled (.unanswered he)
  case absent =>
    intro now
    exact .stumbled .absent
  case useless =>
    intro data e now he
    exact .stumbled (.useless he)

/-- **Every walk goes one of the ways.** -/
theorem goes_walk : p.walk.Ends s fun log r s' => p.Goes s log r s' := by
  refine ends_walk ?refused ?ready ?initialized ?fresh
  case refused =>
    intro why hwhy
    exact .refused hwhy
  case ready =>
    intro hready
    exact ends_conclude.mpr (.ready hready)
  case initialized =>
    intro _ hinit
    exact (ends_complete hinit).imp fun _ _ _ h => .initialized hinit h
  case fresh =>
    intro haccepted _ hinit
    exact (ends_provision (judge_eq_ok_iff.mp haccepted).1).imp fun _ _ _ h =>
      .fresh haccepted hinit h

/-! ### A whole pass -/

/-- A pass goes on past its check if its resource breaks no rule and keeps to the template that
was accepted. -/
theorem accepted_iff : p.judge (p.resource.status.getD .blank).boundTemplate = .ok () ↔
    specErrors p.resource.spec p.ns = some [] ∧
      checkTemplateUpdate p.resource.acceptedTemplate p.resource.spec.template = .ok () := by
  rw [judge_eq_ok_iff, Resource.acceptedTemplate, Status.boundTemplate_getD]

@[simp] theorem boundTemplate_outcome {r : Except Stop Requeue} :
    (p.outcome (r, s)).status.boundTemplate = s.status.boundTemplate := by
  cases r with
  | ok requeue => rfl
  | error why => exact Status.reportError_boundTemplate

end Pass

end ControlPlane
