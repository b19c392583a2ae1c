/-
Every way in which a step of a pass can end.

Each step has one lemma, whose premises are its exits.  A premise gives the calls of the
step with their answers, what the step came to, and the standing it left.  Whatever is
proved of a pass goes through these lemmas, so that a change to a step is a change to
its lemma and to nothing else that unfolds the step.

The steps of `walk` go on from one another: `tearDown` is the end of `complete`, and that
the end of `provision`.
-/
import ControlPlane.Proofs.Status
import ControlPlane.Proofs.Walk

namespace ControlPlane

namespace Pass

open Program (Runs)
open Walk

variable {p : Pass} {s : Standing}

@[simp] theorem ends_report {type : ConditionType} {status : ConditionStatus} {reason : Reason}
    {message : String} {Q : Calls → Except Stop Unit → Standing → Prop} :
    (p.report type status reason message).Ends s Q ↔
      Q [] (.ok ()) ⟨s.status.report type status reason message p.generation s.now, s.now⟩ :=
  ends_change

/-! ### Calls -/

theorem ends_call {c : Call} {failure : ControllerError → Walk c.Answer}
    {Q : Calls → Except Stop c.Answer → Standing → Prop}
    (answered : ∀ a now, Q [⟨c, ⟨.answered a, now⟩⟩] (.ok a) ⟨s.status, now⟩)
    (failed : ∀ reply e, c.result p.config reply.outcome = .error e →
      (failure e).Ends ⟨s.status, reply.arrival⟩ fun rest => Q (⟨c, reply⟩ :: rest)) :
    (p.call c failure).Ends s Q := by
  unfold call
  simp only [ends_bind, ends_ask, List.singleton_append]
  rintro ⟨outcome, now⟩
  cases outcome with
  | answered a => exact ends_pure.mpr (answered a now)
  | failed fault => exact failed ⟨.failed fault, now⟩ _ rfl
  | timedOut => exact failed ⟨.timedOut, now⟩ _ rfl

theorem ends_callFor {type : ConditionType} {c : Call}
    {Q : Calls → Except Stop c.Answer → Standing → Prop}
    (answered : ∀ a now, Q [⟨c, ⟨.answered a, now⟩⟩] (.ok a) ⟨s.status, now⟩)
    (failed : ∀ reply e, c.result p.config reply.outcome = .error e →
      Q [⟨c, reply⟩] (.error (.on type e .backoff)) ⟨s.status, reply.arrival⟩) :
    (p.callFor type c).Ends s Q :=
  ends_call answered fun reply e he => ends_stop.mpr (failed reply e he)

/-- How a failure on the way to machines stops a pass: it is reported on their condition as
long as none have been asked for. -/
def provisioningStop (s : Status) (e : ControllerError) : Stop :=
  if s.isTrue .machinesProvisioned then ⟨e, none, .backoff⟩
  else .on .machinesProvisioned e .backoff

theorem ends_callForMachines {c : Call} {Q : Calls → Except Stop c.Answer → Standing → Prop}
    (answered : ∀ a now, Q [⟨c, ⟨.answered a, now⟩⟩] (.ok a) ⟨s.status, now⟩)
    (failed : ∀ reply e, c.result p.config reply.outcome = .error e →
      Q [⟨c, reply⟩] (.error (provisioningStop s.status e)) ⟨s.status, reply.arrival⟩) :
    (p.callForMachines c).Ends s Q := by
  refine ends_call answered ?_
  intro reply e he
  have hQ := failed reply e he
  unfold provisioningStop at hQ
  simp only [ends_bind, ends_status, List.nil_append]
  split
  · rename_i htrue
    rw [if_pos htrue] at hQ
    exact ends_stop.mpr hQ
  · rename_i htrue
    rw [if_neg htrue] at hQ
    exact ends_stop.mpr hQ

/-! ### Ends of a walk -/

/-- The status of a pass that has nothing left to do. -/
def concluded (p : Pass) (s : Status) (now : Time) : Status :=
  (s.report .progressing .fails .asExpected "control plane is ready" p.generation now).clearDegraded
    p.generation now

@[simp] theorem ends_conclude {Q : Calls → Except Stop Requeue → Standing → Prop} :
    p.conclude.Ends s Q ↔ Q [] (.ok .awaitChange) ⟨p.concluded s.status s.now, s.now⟩ := by
  unfold conclude
  simp only [ends_bind, ends_report, ends_change, ends_pure, List.nil_append]
  rfl

theorem isTrue_concluded {status : Status} {now : Time} {type : ConditionType}
    (hprogressing : type ≠ .progressing) (hdegraded : type ≠ .degraded) :
    (p.concluded status now).isTrue type = status.isTrue type := by
  unfold concluded Status.clearDegraded
  rw [Status.isTrue_report, if_neg hdegraded, Status.isTrue_report, if_neg hprogressing]

/-- The status of a pass that waits with a condition. -/
def waiting (p : Pass) (type : ConditionType) (reason : Reason) (message : String) (s : Status)
    (now : Time) : Status :=
  (s.report type .fails reason message p.generation now).reportWaiting reason message
    p.generation now

@[simp] theorem ends_waitFor {type : ConditionType} {reason : Reason} {message : String}
    {Q : Calls → Except Stop Requeue → Standing → Prop} :
    (p.waitFor type reason message).Ends s Q ↔
      Q [] (.ok .poll) ⟨p.waiting type reason message s.status s.now, s.now⟩ := by
  unfold waitFor
  simp only [ends_bind, ends_report, ends_change, ends_pure, List.nil_append]
  rfl

/-- A wait makes its own condition false and leaves the others, two apart. -/
theorem isTrue_waiting {status : Status} {now : Time} {waited type : ConditionType} {reason : Reason}
    {message : String} (hprogressing : type ≠ .progressing) (hdegraded : type ≠ .degraded) :
    (p.waiting waited reason message status now).isTrue type =
      if type = waited then false else status.isTrue type := by
  unfold waiting Status.reportWaiting Status.clearDegraded
  rw [Status.isTrue_report, if_neg hdegraded, Status.isTrue_report, if_neg hprogressing,
    Status.isTrue_report]
  rfl

/-! ### Steps -/

/-- A spec is accepted if it breaks no rule and keeps to the bound template. -/
theorem judge_eq_ok_iff {bound : Option MachineTemplate} :
    p.judge bound = .ok () ↔ specErrors p.resource.spec p.ns = some [] ∧
      checkTemplateUpdate bound p.resource.spec.template = .ok () := by
  unfold judge
  split
  · rename_i herrors
    simp [herrors]
  · rename_i herrors
    cases checkTemplateUpdate bound p.resource.spec.template <;> simp [herrors]
  · rename_i hne herrors
    simp only [reduceCtorEq, false_iff, not_and, herrors, Option.some.injEq]
    exact fun hnone => absurd hnone hne

/-- A judgement breaks off in the check of the spec, or else in its comparison with the bound
template. -/
theorem judge_eq_abort_iff {bound : Option MachineTemplate} :
    p.judge bound = .abort ↔ specErrors p.resource.spec p.ns = none ∨
      specErrors p.resource.spec p.ns = some [] ∧
        checkTemplateUpdate bound p.resource.spec.template = .abort := by
  unfold judge
  split
  · rename_i herrors
    simp [herrors]
  · rename_i herrors
    cases checkTemplateUpdate bound p.resource.spec.template <;> simp [herrors]
  · rename_i hne herrors
    simp only [reduceCtorEq, false_iff, herrors, Option.some.injEq, false_or, not_and]
    exact fun hnone => absurd hnone hne

/-- A refusal tells of the rules that are broken and waits for a change.  It is blamed on the
template at most, and that only while none is bound. -/
theorem refusal_cases {bound : Option MachineTemplate} {why : Stop}
    (h : p.judge bound = .error why) :
    ∃ errors step, why = ⟨.validation errors, step, .awaitChange⟩ ∧
      ∀ blame, step = some blame → blame.1 = .templateBound ∧ bound = none := by
  unfold judge at h
  split at h
  · cases h
  · split at h
    · cases h
    · cases h
      exact ⟨_, none, rfl, nofun⟩
    · cases h
  · cases h
    refine ⟨_, _, rfl, fun blame hblame => ?_⟩
    split at hblame
    · rename_i hnone
      cases hblame
      exact ⟨rfl, Option.isNone_iff_eq_none.mp hnone⟩
    · cases hblame

theorem refusal_waits {bound : Option MachineTemplate} {why : Stop}
    (h : p.judge bound = .error why) :
    why.requeue = .awaitChange ∧ why.error.errorClass = .failure := by
  obtain ⟨errors, step, rfl, -⟩ := refusal_cases h
  exact ⟨rfl, rfl⟩

theorem unbound_of_refusal {bound : Option MachineTemplate} {why : Stop}
    {blame : ConditionType × Reason} (h : p.judge bound = .error why)
    (hstep : why.step = some blame) : blame.1 = .templateBound ∧ bound = none := by
  obtain ⟨errors, step, rfl, hblamed⟩ := refusal_cases h
  exact hblamed blame hstep

theorem ends_checkSpec {Q : Calls → Except Stop Unit → Standing → Prop}
    (accepted : p.judge s.status.boundTemplate = .ok () → Q [] (.ok ()) s)
    (refused : ∀ why, p.judge s.status.boundTemplate = .error why → Q [] (.error why) s) :
    p.checkSpec.Ends s Q := by
  unfold checkSpec
  simp only [ends_bind, ends_status, List.nil_append]
  split
  · rename_i h
    exact ends_pure.mpr (accepted h)
  · rename_i why h
    exact ends_stop.mpr (refused why h)
  · exact ends_abort

/-- The look-up of what to install from. -/
def lookup (p : Pass) : Call := .getSecret p.ns p.resource.spec.installState.name

/-- The status once the template is bound. -/
def bound (p : Pass) (install : InstallState) (s : Status) (now : Time) : Status :=
  (s.bind p.resource.spec.template).report .templateBound .holds (sourceReport install.source).1
    (sourceReport install.source).2 p.generation now

theorem ends_resolveInstallState {Q : Calls → Except Stop InstallState → Standing → Prop}
    (found : ∀ data install now, InstallState.ofSecret p.resource.spec.installState.name data =
        .ok install →
      Q [⟨p.lookup, ⟨.answered (some data), now⟩⟩] (.ok install)
        ⟨p.bound install s.status now, now⟩)
    (failed : ∀ reply e, p.lookup.result p.config reply.outcome = .error e →
      Q [⟨p.lookup, reply⟩] (.error (.on .templateBound e .backoff)) ⟨s.status, reply.arrival⟩)
    (absent : ∀ now, Q [⟨p.lookup, ⟨.answered none, now⟩⟩]
      (.error (.on .templateBound (.dependencyUnavailable (p.lookup.subject ++ " not found"))
        .backoff)) ⟨s.status, now⟩)
    (useless : ∀ data e now, InstallState.ofSecret p.resource.spec.installState.name data =
        .error e →
      Q [⟨p.lookup, ⟨.answered (some data), now⟩⟩]
        (.error ⟨.validation [e], some (.templateBound, .installStateMissing), .poll⟩)
        ⟨s.status, now⟩) :
    p.resolveInstallState.Ends s Q := by
  unfold resolveInstallState
  refine ends_bind.mpr (ends_callFor (fun answer now => ?_) failed)
  cases answer with
  | none => exact ends_stop.mpr (absent now)
  | some data =>
    dsimp only
    split
    · rename_i e he
      exact ends_stop.mpr (useless data e now he)
    · rename_i install hinstall
      simp only [ends_bind, ends_change, ends_report, ends_pure]
      exact found data install now hinstall

/-- The status once the manifests are known. -/
def resolved (p : Pass) (reason : Reason) (message : String) (s : Status) (now : Time) : Status :=
  s.report .manifestsResolved .holds reason message p.generation now

/-- What is told of manifests that were found. -/
def manifestsMessage (secrets : List NamedSecret) (manifests : Table String Bytes) : String :=
  s!"{manifests.size} manifests from {secrets.length} secrets"

theorem ends_resolveManifests {Q : Calls → Except Stop (Table String Bytes) → Standing → Prop}
    (defaults : ControlPlane.manifestsQuery p.resource.spec = .ok none →
      Q [] (.ok .empty) ⟨p.resolved .installerDefaults
        "no manifests selector, using installer defaults" s.status s.now, s.now⟩)
    (found : ∀ selector secrets manifests now,
      ControlPlane.manifestsQuery p.resource.spec = .ok (some selector) →
      collectManifests secrets = .ok manifests →
      Q [⟨.listSecrets p.ns selector, ⟨.answered secrets, now⟩⟩] (.ok manifests)
        ⟨p.resolved .manifestsFound (manifestsMessage secrets manifests) s.status now, now⟩)
    (unreadable : ∀ e, ControlPlane.manifestsQuery p.resource.spec = .error e →
      Q [] (.error (.on .manifestsResolved (.validation [e]) .awaitChange)) s)
    (failed : ∀ selector reply e,
      ControlPlane.manifestsQuery p.resource.spec = .ok (some selector) →
      (Call.listSecrets p.ns selector).result p.config reply.outcome = .error e →
      Q [⟨.listSecrets p.ns selector, reply⟩] (.error (.on .manifestsResolved e .backoff))
        ⟨s.status, reply.arrival⟩)
    (invalid : ∀ selector secrets errors now,
      ControlPlane.manifestsQuery p.resource.spec = .ok (some selector) →
      collectManifests secrets = .error errors →
      Q [⟨.listSecrets p.ns selector, ⟨.answered secrets, now⟩⟩]
        (.error ⟨.validation errors, some (.manifestsResolved, .invalidManifests), .poll⟩)
        ⟨s.status, now⟩) :
    p.resolveManifests.Ends s Q := by
  unfold resolveManifests
  split
  · rename_i e he
    exact ends_stop.mpr (unreadable e he)
  · rename_i hq
    simp only [ends_bind, ends_report, ends_pure, List.nil_append]
    exact defaults hq
  · rename_i selector hq
    refine ends_bind.mpr (ends_callFor (fun secrets now => ?_)
      fun reply e he => failed selector reply e hq he)
    dsimp only
    split
    · rename_i errors herrors
      exact ends_stop.mpr (invalid selector secrets errors now hq herrors)
    · rename_i manifests hmanifests
      simp only [ends_bind, ends_report, ends_pure, List.append_nil]
      exact found selector secrets manifests now hq hmanifests

/-- What the installer is handed. -/
def inputs (p : Pass) (install : InstallState) (manifests : Table String Bytes) : InstallInputs :=
  { ns := p.ns, cluster := p.cluster, config := install.config, state := install.state, manifests }

theorem ends_generateBootConfig {install : InstallState} {manifests : Table String Bytes}
    {Q : Calls → Except Stop String → Standing → Prop}
    (handed : ∀ bootSecret now,
      Q [⟨.generateBootConfig (p.inputs install manifests), ⟨.answered bootSecret, now⟩⟩]
        (.ok bootSecret) ⟨s.status, now⟩)
    (failed : ∀ reply e,
      (Call.generateBootConfig (p.inputs install manifests)).result p.config reply.outcome =
        .error e →
      Q [⟨.generateBootConfig (p.inputs install manifests), reply⟩]
        (.error (provisioningStop s.status e)) ⟨s.status, reply.arrival⟩) :
    (p.generateBootConfig install manifests).Ends s Q :=
  ends_callForMachines handed failed

/-- The machines that are asked for. -/
def request (p : Pass) (bootSecret : String) (s : Status) : MachineSetRequest :=
  { ns := p.ns, cluster := p.cluster, template := s.boundTemplate.getD p.resource.spec.template,
    replicas := p.config.replicas, bootSecret }

/-- The status once the machines are asked for. -/
def requested (p : Pass) (s : Status) (now : Time) : Status :=
  s.report .machinesProvisioned .holds .machinesRequested
    s!"bootstrap machine and {p.config.replicas} control-plane machines requested" p.generation now

theorem ends_ensureMachines {bootSecret : String}
    {Q : Calls → Except Stop Unit → Standing → Prop}
    (made : ∀ now,
      Q [⟨.ensureMachines (p.request bootSecret s.status), ⟨.answered (), now⟩⟩] (.ok ())
        ⟨p.requested s.status now, now⟩)
    (failed : ∀ reply e,
      (Call.ensureMachines (p.request bootSecret s.status)).result p.config reply.outcome =
        .error e →
      Q [⟨.ensureMachines (p.request bootSecret s.status), reply⟩]
        (.error (provisioningStop s.status e)) ⟨s.status, reply.arrival⟩) :
    (p.ensureMachines bootSecret).Ends s Q := by
  unfold ensureMachines
  simp only [ends_bind, ends_status, List.nil_append]
  refine ends_callForMachines (fun _ now => ?_) failed
  simp only [ends_report, List.append_nil]
  exact made now

/-- The status once a signal is applied to the one with its latch set. -/
def signalled (p : Pass) (signal : Signal) (latched : Status) (now : Time) : Status :=
  latched.report signal.condition .holds signal.reason signal.message p.generation now

section Signalled

variable {signal : Signal} {latched : Status} {now : Time}

@[simp] theorem signalled_initialized :
    (p.signalled signal latched now).initialized = latched.initialized := rfl

@[simp] theorem signalled_ready : (p.signalled signal latched now).ready = latched.ready := rfl

@[simp] theorem signalled_boundTemplate :
    (p.signalled signal latched now).boundTemplate = latched.boundTemplate := rfl

/-- A signal makes its own condition true and leaves the others, whatever its latch. -/
theorem isTrue_signalled {status : Status} {type : ConditionType}
    (h : latched.conditions = status.conditions) :
    (p.signalled signal latched now).isTrue type =
      if type = signal.condition then true else status.isTrue type := by
  have hsame : latched.isTrue type = status.isTrue type := by
    unfold Status.isTrue
    rw [h]
  rw [signalled, Status.isTrue_report, decide_eq_true rfl, hsame]

theorem isTrue_signalled_condition :
    (p.signalled signal latched now).isTrue signal.condition = true := by
  rw [signalled, Status.isTrue_report, if_pos rfl]
  rfl

end Signalled

/-- A signal is looked for only in its turn, so what is seen always counts. -/
theorem ends_look {type : ConditionType} {signal : Signal} {c : Call} {seen : c.Answer → Bool}
    {latched : Status} {Q : Calls → Except Stop Bool → Standing → Prop}
    (hexpects : s.status.expects signal = true) (hlatch : s.status.latch signal = .ok latched)
    (applied : ∀ a now, seen a = true →
      Q [⟨c, ⟨.answered a, now⟩⟩] (.ok true) ⟨p.signalled signal latched now, now⟩)
    (unseen : ∀ a now, seen a = false →
      Q [⟨c, ⟨.answered a, now⟩⟩] (.ok false) ⟨s.status, now⟩)
    (failed : ∀ reply e, c.result p.config reply.outcome = .error e →
      Q [⟨c, reply⟩] (.error (.on type e .backoff)) ⟨s.status, reply.arrival⟩) :
    (p.look type signal c seen).Ends s Q := by
  unfold look
  refine ends_bind.mpr (ends_callFor (fun a now => ?_) failed)
  dsimp only
  split
  · rename_i hseen
    have hreceived : ∃ changed, s.status.receive signal p.generation now =
        .ok (changed, p.signalled signal latched now) := Status.receive_of_expects hexpects hlatch
    obtain ⟨changed, hreceive⟩ := hreceived
    refine ends_bind.mpr ((ends_done (by unfold receive; rw [hreceive])).mpr ?_)
    simp only [ends_pure, List.append_nil]
    exact applied a now hseen
  · rename_i hseen
    exact ends_pure.mpr (unseen a now (by simpa using hseen))

/-- A walk goes on from where the bootstrap stands, unless the spec is refused. -/
theorem ends_walk {Q : Calls → Except Stop Requeue → Standing → Prop}
    (refused : ∀ why, p.judge s.status.boundTemplate = .error why → Q [] (.error why) s)
    (ready : s.status.ready = true → p.conclude.Ends s Q)
    (initialized : s.status.ready = false → s.status.initialized = true → p.complete.Ends s Q)
    (waiting : p.judge s.status.boundTemplate = .ok () → s.status.ready = false →
      s.status.initialized = false → p.provision.Ends s Q) : p.walk.Ends s Q := by
  refine ends_bind.mpr (ends_checkSpec (fun haccepted => ?_) refused)
  refine ends_bind.mpr (ends_status.mpr ?_)
  dsimp only
  split
  · rename_i hready
    exact ready hready
  split
  · rename_i hready hinit
    exact initialized (by simpa using hready) hinit
  · rename_i hready hinit
    exact waiting haccepted (by simpa using hready) (by simpa using hinit)

/-! ### What a step leaves

A walk that stops leaves one more report behind, that of the error.  Wherever the first
step of a sequence stops, the sequence leaves what that step has left. -/

/-- The status that a step leaves: the reason of a stop is told in it. -/
def left {α : Type} (p : Pass) (r : Except Stop α) (s : Standing) : Status :=
  match r with
  | .ok _ => s.status
  | .error why => s.status.reportError why.step why.error p.generation s.now

@[simp] theorem left_ok {α : Type} {a : α} : p.left (.ok a) s = s.status := rfl

@[simp] theorem left_error {α : Type} {why : Stop} : p.left (.error why : Except Stop α) s =
    s.status.reportError why.step why.error p.generation s.now := rfl

/-! ### A whole pass -/

/-- A pass is a walk and the report of its end. -/
theorem runs_iff {log : Calls} {start : Time} {ended : Option PassOutcome} :
    Runs (p.run start) log ended ↔ ∃ walked,
      Runs (p.walk ⟨p.resource.status.getD .blank, start⟩) log walked ∧
        ended = walked.map p.outcome := by
  constructor
  · intro h
    obtain ⟨walk, walked, rest, rfl, hwalk, hrest⟩ := Program.runs_bind_iff.mp h
    cases hrest
    rw [List.append_nil]
    exact ⟨walked, hwalk, rfl⟩
  · rintro ⟨walked, hwalk, rfl⟩
    exact Program.runs_bind_iff.mpr ⟨log, walked, [], (List.append_nil log).symm, hwalk, .done _⟩

theorem exists_walked {log : Calls} {start : Time} {o : PassOutcome}
    (h : Runs (p.run start) log (some o)) :
    ∃ r s', Runs (p.walk ⟨p.resource.status.getD .blank, start⟩) log (some (r, s')) ∧
      o = p.outcome (r, s') := by
  obtain ⟨walked, hwalk, hended⟩ := runs_iff.mp h
  obtain ⟨⟨r, s'⟩, rfl, rfl⟩ := Option.map_eq_some_iff.mp hended.symm
  exact ⟨r, s', hwalk, rfl⟩

theorem runs_of_walked {log : Calls} {start : Time} {walked : Except Stop Requeue × Standing}
    (h : Runs (p.walk ⟨p.resource.status.getD .blank, start⟩) log (some walked)) :
    Runs (p.run start) log (some (p.outcome walked)) :=
  runs_iff.mpr ⟨_, h, rfl⟩

theorem status_outcome {walked : Except Stop Requeue × Standing} :
    (p.outcome walked).status = p.left walked.1 walked.2 := by
  obtain ⟨r, s'⟩ := walked
  cases r <;> rfl

/-- The statuses before a step and after it are related over its calls, the report of a
stop included. -/
def Carries {α : Type} (p : Pass) (R : Status → Calls → Status → Prop) (w : Walk α)
    (s : Standing) : Prop :=
  w.Ends s fun log r s' => R s.status log (p.left r s')

/-- What the first step comes to may be what the second one needs. -/
theorem carries_bind_of {α β : Type} {R : Status → Calls → Status → Prop}
    (htrans : ∀ {a l b m c}, R a l b → R b m c → R a (l ++ m) c) {w : Walk α} {f : α → Walk β}
    {P : α → Standing → Prop}
    (hw : w.Ends s fun log r s' => R s.status log (p.left r s') ∧ ∀ a, r = .ok a → P a s')
    (hf : ∀ a s', P a s' → p.Carries R (f a) s') : p.Carries R (w >>= f) s := by
  refine ends_bind.mpr (hw.imp fun log r s' h => ?_)
  obtain ⟨hR, hP⟩ := h
  cases r with
  | ok a =>
    have hrest : p.Carries R (f a) s' := hf a s' (hP a rfl)
    exact hrest.imp fun _ _ _ hR' => htrans hR hR'
  | error why => exact hR

end Pass

end ControlPlane
