/-
What a pass does to a status, move by move.

A walk is a sequence of moves: it prepares the bootstrap, and from the machines on it looks
for one signal after the other, asks for the deletion of the bootstrap machine, and waits,
fails or concludes.  `Move` has a constructor for each, with all that the pass knows when it
makes it.  Whatever relation of the status before, the calls and the status after holds of
every move and is closed under sequence holds of a whole walk by `carries_walk`, and no
proof of such a relation has to go through the steps again.
-/
import ControlPlane.Proofs.Latches

namespace ControlPlane

namespace Call

/-- The call prepares the bootstrap, and asks for nothing that has come of it. -/
def isPreparation : Call → Bool
  | .getSecret .. | .listSecrets .. | .generateBootConfig _ | .ensureMachines _ => true
  | _ => false

end Call

/-! ### Preparations

A pass looks up what to install from, collects the manifests, hands both to the installer
and asks for the machines.  None of these steps learns how far the bootstrap has come, so
they leave the latches alone and take no condition back that tells of it. -/

namespace Status

/-- A condition that a preparation may blame for a failure, if any. -/
def MayBlame (s : Status) : Option (ConditionType × Reason) → Prop
  | none | some (.templateBound, _) | some (.manifestsResolved, _) => True
  | some (.machinesProvisioned, _) => s.isTrue .machinesProvisioned = false
  | _ => False

/-- What a preparation does to a status over some calls: the latches and the conditions
that the signals report stay, and so does a true condition of the machines. -/
structure Prepares (before : Status) (log : Calls) (after : Status) : Prop where
  calls : log.all (·.1.isPreparation) = true
  initialized : after.initialized = before.initialized
  ready : after.ready = before.ready
  complete : after.isTrue .bootstrapComplete = before.isTrue .bootstrapComplete
  provisioned : before.isTrue .machinesProvisioned = true →
    after.isTrue .machinesProvisioned = true

namespace Prepares

variable {a b c s : Status} {l m : Calls}

theorem trans (hab : a.Prepares l b) (hbc : b.Prepares m c) : a.Prepares (l ++ m) c where
  calls := by simp only [List.all_append, hab.calls, hbc.calls, Bool.and_true]
  initialized := hbc.initialized.trans hab.initialized
  ready := hbc.ready.trans hab.ready
  complete := hbc.complete.trans hab.complete
  provisioned h := hbc.provisioned (hab.provisioned h)

/-- A preparation may report the end of the bootstrap in no way, and of the machines only
that they are asked for. -/
theorem report {type : ConditionType} {status : ConditionStatus} {reason : Reason}
    {message : String} {generation : Option Int} {now : Time}
    (hcalls : l.all (·.1.isPreparation) = true) (htype : type ≠ .bootstrapComplete)
    (hmachines : type = .machinesProvisioned → status = .holds) :
    s.Prepares l (s.report type status reason message generation now) where
  calls := hcalls
  initialized := report_initialized
  ready := report_ready
  complete := by rw [isTrue_report, if_neg (Ne.symm htype)]
  provisioned h := by
    rw [isTrue_report]
    split
    · rename_i hsame
      simp [hmachines hsame.symm]
    · exact h

/-- A preparation that fails may blame what is its own. -/
theorem reportError {step : Option (ConditionType × Reason)} {error : ControllerError}
    {generation : Option Int} {now : Time} (hcalls : l.all (·.1.isPreparation) = true)
    (hblame : s.MayBlame step) : s.Prepares l (s.reportError step error generation now) where
  calls := hcalls
  initialized := reportError_initialized
  ready := reportError_ready
  complete := by
    refine isTrue_reportError (fun reason hstep => ?_) (by decide) (by decide)
    rw [hstep] at hblame
    exact hblame
  provisioned h := by
    refine (isTrue_reportError (fun reason hstep => ?_) (by decide) (by decide)).trans h
    rw [hstep] at hblame
    have hfree : s.isTrue .machinesProvisioned = false := hblame
    rw [h] at hfree
    cases hfree

end Prepares

end Status

namespace Pass

open Walk Status

variable {α : Type} {p : Pass} {s : Standing}

/-- What a preparation leaves where it stops. -/
theorem prepares_stop {why : Stop} {log : Calls} {now : Time}
    (hcalls : log.all (·.1.isPreparation) = true) (hblame : s.status.MayBlame why.step) :
    s.status.Prepares log (p.left (.error why : Except Stop α) ⟨s.status, now⟩) :=
  .reportError hcalls hblame

theorem prepares_resolveInstallState : p.Carries Prepares p.resolveInstallState s := by
  refine ends_resolveInstallState ?found ?failed ?absent ?useless
  case found =>
    intro data install now _
    have hbind : s.status.Prepares [] (s.status.bind p.resource.spec.template) := by
      constructor <;> simp
    have hreport : (s.status.bind p.resource.spec.template).Prepares
        [⟨p.lookup, ⟨.answered (some data), now⟩⟩] (p.bound install s.status now) :=
      .report rfl (by decide) nofun
    exact hbind.trans hreport
  case failed =>
    intro reply e _
    exact prepares_stop rfl trivial
  case absent =>
    intro now
    exact prepares_stop rfl trivial
  case useless =>
    intro data e now _
    exact prepares_stop rfl trivial

theorem prepares_resolveManifests : p.Carries Prepares p.resolveManifests s := by
  refine ends_resolveManifests ?defaults ?found ?unreadable ?failed ?invalid
  case defaults =>
    intro _
    exact .report rfl (by decide) nofun
  case found =>
    intro selector secrets manifests now _ _
    exact .report rfl (by decide) nofun
  case unreadable =>
    intro e _
    exact prepares_stop rfl trivial
  case failed =>
    intro selector reply e _ _
    exact prepares_stop rfl trivial
  case invalid =>
    intro selector secrets errors now _ _
    exact prepares_stop rfl trivial

/-- A failure on the way to machines is blamed on them only before they are asked for. -/
theorem mayBlame_provisioningStop {status : Status} {e : ControllerError} :
    status.MayBlame (provisioningStop status e).step := by
  unfold provisioningStop
  split
  · trivial
  · rename_i hnot
    have hfree : status.isTrue .machinesProvisioned = false := by simpa using hnot
    exact hfree

theorem prepares_generateBootConfig {install : InstallState} {manifests : Table String Bytes} :
    p.Carries Prepares (p.generateBootConfig install manifests) s := by
  refine ends_generateBootConfig ?handed ?failed
  case handed =>
    intro bootSecret now
    exact ⟨rfl, rfl, rfl, rfl, id⟩
  case failed =>
    intro reply e _
    exact prepares_stop rfl mayBlame_provisioningStop

theorem prepares_ensureMachines {bootSecret : String} :
    p.Carries Prepares (p.ensureMachines bootSecret) s := by
  refine ends_ensureMachines ?made ?failed
  case made =>
    intro now
    exact .report rfl (by decide) fun _ => rfl
  case failed =>
    intro reply e _
    exact prepares_stop rfl mayBlame_provisioningStop

end Pass

/-! ### Moves -/

/-- The call that a signal comes from. -/
def Signal.call : Signal → String → String → Call
  | .controlPlaneJoined => .controlPlaneJoined
  | .bootstrapCompleted => .bootstrapComplete
  | .bootstrapMachineDeleted => .bootstrapMachineDeleted

/-- A signal's latch is no condition. -/
theorem Status.conditions_of_latch {s latched : Status} {signal : Signal}
    (h : s.latch signal = .ok latched) : latched.conditions = s.conditions := by
  rw [latch_eq h]

/-- A latch that is set stays set. -/
theorem Status.initialized_of_latch {s latched : Status} {signal : Signal}
    (h : s.latch signal = .ok latched) (hinit : s.initialized = true) :
    latched.initialized = true := by
  rw [latch_eq h, hinit]
  rfl

/-- A pass over the status looks for the signal. -/
def Status.Awaits (s : Status) : Signal → Prop
  | .controlPlaneJoined => s.initialized = false
  | .bootstrapCompleted => s.initialized = true ∧ s.isTrue .bootstrapComplete = false
  | .bootstrapMachineDeleted => s.initialized = true ∧ s.isTrue .bootstrapComplete = true

namespace Pass

/-- One move of a pass. -/
inductive Move (p : Pass) : Status → Calls → Status → Prop where
  | prepared {before after : Status} {log : Calls} (hinit : before.initialized = false)
      (h : before.Prepares log after) : Move p before log after
  | refused {s : Status} {why : Stop} {now : Time} (h : p.judge s.boundTemplate = .error why) :
      Move p s [] (s.reportError why.step why.error p.generation now)
  /-- A signal is seen. -/
  | seen {s latched : Status} (signal : Signal) (reply : (signal.call p.ns p.cluster).Reply)
      (hawaits : s.Awaits signal) (hlatch : s.latch signal = .ok latched)
      (htold : signal.toldBy (signal.call p.ns p.cluster) reply.outcome = true) :
      Move p s [⟨signal.call p.ns p.cluster, reply⟩] (p.signalled signal latched reply.arrival)
  /-- A signal is not there yet. -/
  | unseen {s : Status} (signal : Signal) {reply : (signal.call p.ns p.cluster).Reply}
      {reason : Reason} {message : String} (hawaits : s.Awaits signal)
      (htold : signal.toldBy (signal.call p.ns p.cluster) reply.outcome = false) :
      Move p s [⟨signal.call p.ns p.cluster, reply⟩]
        (p.waiting signal.condition reason message s reply.arrival)
  /-- It cannot be told whether a signal is there. -/
  | failed {s : Status} (signal : Signal) {reply : (signal.call p.ns p.cluster).Reply}
      {e : ControllerError} (hawaits : s.Awaits signal)
      (he : (signal.call p.ns p.cluster).result p.config reply.outcome = .error e) :
      Move p s [⟨signal.call p.ns p.cluster, reply⟩]
        (s.reportError (some (signal.condition, .ofError e)) e p.generation reply.arrival)
  /-- The deletion of the bootstrap machine is asked for. -/
  | asked {s : Status} {reply : (Call.deleteBootstrapMachine p.ns p.cluster).Reply}
      (hawaits : s.Awaits .bootstrapMachineDeleted) :
      Move p s [⟨.deleteBootstrapMachine p.ns p.cluster, reply⟩] s
  | refusedDeletion {s : Status} {reply : (Call.deleteBootstrapMachine p.ns p.cluster).Reply}
      {e : ControllerError} (hawaits : s.Awaits .bootstrapMachineDeleted) :
      Move p s [⟨.deleteBootstrapMachine p.ns p.cluster, reply⟩]
        (s.reportError (some (.ready, .ofError e)) e p.generation reply.arrival)
  | concluded {s : Status} {now : Time} : Move p s [] (p.concluded s now)

open Walk Status

variable {p : Pass} {s : Standing} {R : Status → Calls → Status → Prop}

/-! ### The whole way

What holds of every move holds of each end of a walk, and so of all of it. -/

theorem carries_tearDown (htrans : ∀ {a l b m c}, R a l b → R b m c → R a (l ++ m) c)
    (hmove : ∀ {a l b}, p.Move a l b → R a l b) (hinit : s.status.initialized = true)
    (hcomplete : s.status.isTrue .bootstrapComplete = true) : p.Carries R p.tearDown s := by
  have hdelete : (p.callFor .ready (.deleteBootstrapMachine p.ns p.cluster)).Ends s
      fun log r s' => R s.status log (p.left r s') ∧ ∀ a, r = .ok a → s'.status = s.status := by
    refine ends_callFor ?_ ?_
    · intro _ now
      exact ⟨hmove (.asked ⟨hinit, hcomplete⟩), fun _ _ => rfl⟩
    · intro reply e _
      exact ⟨hmove (.refusedDeletion ⟨hinit, hcomplete⟩), by simp⟩
  refine carries_bind_of htrans hdelete fun _ s' hs => ?_
  rw [← hs] at hinit hcomplete
  have hlatch := latch_bootstrapMachineDeleted hinit
  refine ends_bind.mpr (ends_look hcomplete hlatch ?applied ?unseen ?failed)
  case applied =>
    intro seen now hseen
    exact ends_conclude.mpr (htrans (hmove (.seen .bootstrapMachineDeleted ⟨.answered seen, now⟩
      ⟨hinit, hcomplete⟩ hlatch hseen)) (hmove .concluded))
  case unseen =>
    intro seen now hseen
    exact ends_waitFor.mpr (hmove (.unseen .bootstrapMachineDeleted ⟨hinit, hcomplete⟩ hseen))
  case failed =>
    intro reply e he
    exact hmove (.failed .bootstrapMachineDeleted ⟨hinit, hcomplete⟩ he)

theorem carries_complete (htrans : ∀ {a l b m c}, R a l b → R b m c → R a (l ++ m) c)
    (hmove : ∀ {a l b}, p.Move a l b → R a l b) (hinit : s.status.initialized = true) :
    p.Carries R p.complete s := by
  unfold complete
  refine ends_bind.mpr (ends_status.mpr ?_)
  dsimp only
  split
  · rename_i hcomplete
    exact carries_tearDown htrans hmove hinit hcomplete
  · rename_i hcomplete
    have hawaits : s.status.Awaits .bootstrapCompleted := ⟨hinit, by simpa using hcomplete⟩
    refine ends_bind.mpr (ends_look hinit rfl ?applied ?unseen ?failed)
    case applied =>
      intro seen now hseen
      have hmoved := hmove (.seen .bootstrapCompleted ⟨.answered seen, now⟩ hawaits rfl hseen)
      have hcomplete : (p.signalled .bootstrapCompleted s.status now).isTrue .bootstrapComplete =
          true := isTrue_signalled_condition
      have hrest : p.Carries R p.tearDown ⟨p.signalled .bootstrapCompleted s.status now, now⟩ :=
        carries_tearDown htrans hmove hinit hcomplete
      refine hrest.imp fun log r s' h => ?_
      have hboth := htrans hmoved h
      exact hboth
    case unseen =>
      intro seen now hseen
      exact ends_waitFor.mpr (hmove (.unseen .bootstrapCompleted hawaits hseen))
    case failed =>
      intro reply e he
      exact hmove (.failed .bootstrapCompleted hawaits he)

/-- The steps to the machines prepare, and nothing has joined after them. -/
theorem carries_preparation {α : Type} (hmove : ∀ {a l b}, p.Move a l b → R a l b) {w : Walk α}
    (hw : p.Carries Prepares w s) (hinit : s.status.initialized = false) :
    w.Ends s fun log r s' =>
      R s.status log (p.left r s') ∧ ∀ a, r = .ok a → s'.status.initialized = false := by
  refine hw.imp fun log r s' h => ⟨hmove (.prepared hinit h), fun a ha => ?_⟩
  rw [ha] at h
  exact h.initialized.trans hinit

theorem carries_provision (htrans : ∀ {a l b m c}, R a l b → R b m c → R a (l ++ m) c)
    (hmove : ∀ {a l b}, p.Move a l b → R a l b) (hinit : s.status.initialized = false) :
    p.Carries R p.provision s := by
  refine carries_bind_of htrans (carries_preparation hmove prepares_resolveInstallState hinit)
    fun install s₁ hinit => ?_
  refine carries_bind_of htrans (carries_preparation hmove prepares_resolveManifests hinit)
    fun manifests s₂ hinit => ?_
  refine carries_bind_of htrans (carries_preparation hmove prepares_generateBootConfig hinit)
    fun bootSecret s₃ hinit => ?_
  refine carries_bind_of htrans (carries_preparation hmove prepares_ensureMachines hinit)
    fun _ s₄ hinit => ?_
  refine ends_bind.mpr (ends_look rfl rfl ?applied ?unseen ?failed)
  case applied =>
    intro seen now hseen
    have hmoved := hmove (.seen (s := s₄.status) .controlPlaneJoined ⟨.answered seen, now⟩ hinit
      rfl hseen)
    have hrest : p.Carries R p.complete
        ⟨p.signalled .controlPlaneJoined s₄.status.markInitialized now, now⟩ :=
      carries_complete htrans hmove rfl
    exact hrest.imp fun _ _ _ h => htrans hmoved h
  case unseen =>
    intro seen now hseen
    exact ends_waitFor.mpr (hmove (.unseen .controlPlaneJoined hinit hseen))
  case failed =>
    intro reply e he
    exact hmove (.failed .controlPlaneJoined hinit he)

/-- What holds of every move, and of a sequence if it holds of its parts, holds of a walk. -/
theorem carries_walk (htrans : ∀ {a l b m c}, R a l b → R b m c → R a (l ++ m) c)
    (hmove : ∀ {a l b}, p.Move a l b → R a l b) : p.Carries R p.walk s := by
  refine ends_walk ?refused ?ready ?initialized ?waiting
  case refused =>
    intro why hwhy
    exact hmove (.refused hwhy)
  case ready =>
    intro _
    exact ends_conclude.mpr (hmove .concluded)
  case initialized =>
    intro _ hinit
    exact carries_complete htrans hmove hinit
  case waiting =>
    intro _ _ hinit
    exact carries_provision htrans hmove hinit

/-- What holds of every move holds of a pass from the status that it was handed to the one
that it has to say. -/
theorem carries_outcome (htrans : ∀ {a l b m c}, R a l b → R b m c → R a (l ++ m) c)
    (hmove : ∀ {a l b}, p.Move a l b → R a l b) {log : Calls}
    {walked : Except Stop Requeue × Standing} (hwalk : Program.Runs (p.walk s) log (some walked)) :
    R s.status log (p.outcome walked).status := by
  have hwalked : p.Carries R p.walk s := carries_walk htrans hmove
  rw [status_outcome]
  exact hwalked log walked.1 walked.2 hwalk

end Pass

end ControlPlane
