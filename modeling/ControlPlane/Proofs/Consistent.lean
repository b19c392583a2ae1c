/-
What the parts of a status have to do with one another.

A status tells how far the bootstrap has come three times over: by its latches, by its
conditions and by the bound template.  `Consistent` says that the three agree.  A report
keeps this as long as what it says of its condition `Fits` the latches and the template,
and the signals keep it because each moves a latch together with its condition.

A pass that starts from a consistent status ends in one, wherever it stops.  `Sound` is
what every step has to leave for that: a consistent status, and if it stops, a condition
to blame that may be false.
-/
import ControlPlane.Proofs.Pass

namespace ControlPlane

namespace Status

/-- The latches, the conditions and the bound template tell the same. -/
structure Consistent (ns : String) (s : Status) : Prop where
  initialized_of_ready : s.ready = true → s.initialized = true
  ready_iff : s.isTrue .ready = s.ready
  initialized_iff : s.isTrue .controlPlaneInitialized = s.initialized
  complete_of_ready : s.ready = true → s.isTrue .bootstrapComplete = true
  initialized_of_complete : s.isTrue .bootstrapComplete = true → s.initialized = true
  provisioned_of_initialized : s.initialized = true → s.isTrue .machinesProvisioned = true
  bound_of_provisioned : s.isTrue .machinesProvisioned = true → s.boundTemplate.isSome = true
  bound_of_templateBound : s.isTrue .templateBound = true → s.boundTemplate.isSome = true
  /-- The bound template is one that was accepted. -/
  checked : ∀ t, s.boundTemplate = some t → checkTemplate t ns = some []

/-- The condition may be said to be true or not, as the latches and the template are. -/
def Fits (s : Status) (type : ConditionType) (holds : Bool) : Prop :=
  match type with
  | .templateBound => holds = true → s.boundTemplate.isSome = true
  | .machinesProvisioned =>
    (holds = true → s.boundTemplate.isSome = true) ∧ (s.initialized = true → holds = true)
  | .controlPlaneInitialized => holds = s.initialized
  | .bootstrapComplete =>
    (holds = true → s.initialized = true) ∧ (s.ready = true → holds = true)
  | .ready => holds = s.ready
  | .manifestsResolved | .progressing | .degraded => True

variable {ns : String} {s : Status} {type : ConditionType} {status : ConditionStatus}
  {reason : Reason} {message : String} {generation : Option Int} {now : Time}

theorem consistent_blank : blank.Consistent ns where
  initialized_of_ready h := h
  ready_iff := rfl
  initialized_iff := rfl
  complete_of_ready := nofun
  initialized_of_complete := nofun
  provisioned_of_initialized := nofun
  bound_of_provisioned := nofun
  bound_of_templateBound := nofun
  checked := nofun

namespace Consistent

/-- A report that fits leaves a status consistent.  Only the facts about its own condition
have to be looked at. -/
theorem report (h : s.Consistent ns) (hfits : s.Fits type (decide (status = .holds))) :
    (s.report type status reason message generation now).Consistent ns where
  initialized_of_ready := h.initialized_of_ready
  ready_iff := by
    rw [isTrue_report]
    split
    · rename_i htype
      subst htype
      exact hfits
    · exact h.ready_iff
  initialized_iff := by
    rw [isTrue_report]
    split
    · rename_i htype
      subst htype
      exact hfits
    · exact h.initialized_iff
  complete_of_ready hready := by
    rw [isTrue_report]
    split
    · rename_i htype
      subst htype
      exact hfits.2 hready
    · exact h.complete_of_ready hready
  initialized_of_complete hcomplete := by
    rw [isTrue_report] at hcomplete
    split at hcomplete
    · rename_i htype
      subst htype
      exact hfits.1 hcomplete
    · exact h.initialized_of_complete hcomplete
  provisioned_of_initialized hinit := by
    rw [isTrue_report]
    split
    · rename_i htype
      subst htype
      exact hfits.2 hinit
    · exact h.provisioned_of_initialized hinit
  bound_of_provisioned hprovisioned := by
    rw [isTrue_report] at hprovisioned
    split at hprovisioned
    · rename_i htype
      subst htype
      exact hfits.1 hprovisioned
    · exact h.bound_of_provisioned hprovisioned
  bound_of_templateBound hbound := by
    rw [isTrue_report] at hbound
    split at hbound
    · rename_i htype
      subst htype
      exact hfits hbound
    · exact h.bound_of_templateBound hbound
  checked := h.checked

theorem clearDegraded (h : s.Consistent ns) : (s.clearDegraded generation now).Consistent ns :=
  h.report trivial

theorem reportWaiting (h : s.Consistent ns) :
    (s.reportWaiting reason message generation now).Consistent ns :=
  Consistent.clearDegraded (h.report trivial)

theorem reportError_none {error : ControllerError} (h : s.Consistent ns) :
    (s.reportError none error generation now).Consistent ns := by
  unfold Status.reportError
  cases error.errorClass with
  | failure =>
    refine h.report ?_
    trivial
  | transient =>
    refine Consistent.clearDegraded (h.report ?_)
    trivial

/-- An error may be reported if the condition that is blamed may be false. -/
theorem reportError {step : Option (ConditionType × Reason)} {error : ControllerError}
    (h : s.Consistent ns)
    (hstep : ∀ type reason, step = some (type, reason) → s.Fits type false) :
    (s.reportError step error generation now).Consistent ns := by
  cases step with
  | none => exact h.reportError_none
  | some blame =>
    rw [Status.reportError_some]
    exact (h.report (hstep blame.1 blame.2 rfl)).reportError_none

theorem bind {t : MachineTemplate} (h : s.Consistent ns) (ht : checkTemplate t ns = some []) :
    (s.bind t).Consistent ns := by
  cases hbound : s.boundTemplate with
  | some bound =>
    have hsame : s.bind t = s := by
      unfold Status.bind
      rw [hbound]
    rw [hsame]
    exact h
  | none =>
    exact {
      initialized_of_ready := by simpa using h.initialized_of_ready
      ready_iff := by simpa using h.ready_iff
      initialized_iff := by simpa using h.initialized_iff
      complete_of_ready := by simpa using h.complete_of_ready
      initialized_of_complete := by simpa using h.initialized_of_complete
      provisioned_of_initialized := by simpa using h.provisioned_of_initialized
      bound_of_provisioned := by simp
      bound_of_templateBound := by simp
      checked := by simpa [hbound] using ht }

theorem withTimes {f : Time → Time} (h : s.Consistent ns) : (s.withTimes f).Consistent ns where
  initialized_of_ready := h.initialized_of_ready
  ready_iff := by simpa using h.ready_iff
  initialized_iff := by simpa using h.initialized_iff
  complete_of_ready := by simpa using h.complete_of_ready
  initialized_of_complete := by simpa using h.initialized_of_complete
  provisioned_of_initialized := by simpa using h.provisioned_of_initialized
  bound_of_provisioned := by simpa using h.bound_of_provisioned
  bound_of_templateBound := by simpa using h.bound_of_templateBound
  checked := h.checked

end Consistent

end Status

namespace Pass

open Walk Status

variable {α β : Type} {p : Pass} {s : Standing}

/-! ### The signals -/

/-- The machines were asked for before the first of them joined. -/
theorem consistent_joined {status : Status} {now : Time} (h : status.Consistent p.ns)
    (hprovisioned : status.isTrue .machinesProvisioned = true) :
    (p.signalled .controlPlaneJoined status.markInitialized now).Consistent p.ns := by
  have htrue : ∀ type, (p.signalled .controlPlaneJoined status.markInitialized now).isTrue type =
      if type = .controlPlaneInitialized then true else status.isTrue type :=
    fun _ => isTrue_signalled rfl
  constructor <;> simp only [signalled_initialized, signalled_ready, signalled_boundTemplate]
  case initialized_of_ready => exact fun _ => rfl
  case ready_iff =>
    rw [htrue, if_neg (by decide)]
    exact h.ready_iff
  case initialized_iff =>
    rw [htrue, if_pos rfl]
    rfl
  case complete_of_ready =>
    rw [htrue, if_neg (by decide)]
    exact h.complete_of_ready
  case initialized_of_complete => exact fun _ => rfl
  case provisioned_of_initialized =>
    rw [htrue, if_neg (by decide)]
    exact fun _ => hprovisioned
  case bound_of_provisioned => exact fun _ => h.bound_of_provisioned hprovisioned
  case bound_of_templateBound =>
    rw [htrue, if_neg (by decide)]
    exact h.bound_of_templateBound
  case checked => exact h.checked

theorem consistent_completed {status : Status} {now : Time} (h : status.Consistent p.ns)
    (hinit : status.initialized = true) :
    (p.signalled .bootstrapCompleted status now).Consistent p.ns := by
  unfold signalled
  refine h.report ⟨fun _ => hinit, fun _ => ?_⟩
  decide

/-- The bootstrap was complete before its machine went. -/
theorem consistent_removed {status : Status} {now : Time} (h : status.Consistent p.ns)
    (hcomplete : status.isTrue .bootstrapComplete = true) :
    (p.signalled .bootstrapMachineDeleted { status with ready := true } now).Consistent p.ns := by
  have hinit : status.initialized = true := h.initialized_of_complete hcomplete
  have htrue : ∀ type,
      (p.signalled .bootstrapMachineDeleted { status with ready := true } now).isTrue type =
        if type = .ready then true else status.isTrue type :=
    fun _ => isTrue_signalled rfl
  constructor <;> simp only [signalled_initialized, signalled_ready, signalled_boundTemplate]
  case initialized_of_ready => exact fun _ => hinit
  case ready_iff => rw [htrue, if_pos rfl]
  case initialized_iff =>
    rw [htrue, if_neg (by decide)]
    exact h.initialized_iff
  case complete_of_ready =>
    rw [htrue, if_neg (by decide)]
    exact fun _ => hcomplete
  case initialized_of_complete => exact fun _ => hinit
  case provisioned_of_initialized =>
    rw [htrue, if_neg (by decide)]
    exact h.provisioned_of_initialized
  case bound_of_provisioned =>
    rw [htrue, if_neg (by decide)]
    exact h.bound_of_provisioned
  case bound_of_templateBound =>
    rw [htrue, if_neg (by decide)]
    exact h.bound_of_templateBound
  case checked => exact h.checked

/-! ### The steps -/

/-- A step ends in a consistent status, and blames only a condition that may be false. -/
def Sound (p : Pass) (r : Except Stop α) (s : Standing) : Prop :=
  s.status.Consistent p.ns ∧ ∀ why, r = .error why →
    ∀ type reason, why.step = some (type, reason) → s.status.Fits type false

theorem sound_ok {a : α} (h : s.status.Consistent p.ns) : p.Sound (.ok a : Except Stop α) s := by
  refine ⟨h, fun why hwhy => ?_⟩
  cases hwhy

theorem sound_stop {why : Stop} (h : s.status.Consistent p.ns)
    (hfits : ∀ type reason, why.step = some (type, reason) → s.status.Fits type false) :
    p.Sound (.error why : Except Stop α) s := by
  refine ⟨h, fun why' hwhy => ?_⟩
  cases hwhy
  exact hfits

theorem sound_blame {why : Stop} {type : ConditionType} {reason : Reason}
    (h : s.status.Consistent p.ns) (hstep : why.step = some (type, reason))
    (hfits : s.status.Fits type false) : p.Sound (.error why : Except Stop α) s := by
  refine sound_stop h ?_
  intro type' reason' hstep'
  rw [hstep] at hstep'
  cases hstep'
  exact hfits

/-- Nothing goes on from a step that has stopped. -/
theorem Sound.stopped {why : Stop} {P : α → Prop}
    (h : p.Sound (.error why : Except Stop α) s) :
    p.Sound (.error why : Except Stop α) s ∧
      ∀ a, (.error why : Except Stop α) = .ok a → P a := by
  refine ⟨h, fun a ha => ?_⟩
  cases ha

/-- A sequence is sound when the second step is from all that the first one comes to. -/
theorem sound_bind {w : Walk α} {f : α → Walk β} {P : α → Standing → Prop}
    (hw : w.Ends s fun _ r s' => p.Sound r s' ∧ ∀ a, r = .ok a → P a s')
    (hf : ∀ a s', s'.status.Consistent p.ns → P a s' → (f a).Ends s' fun _ r s'' => p.Sound r s'') :
    (w >>= f).Ends s fun _ r s' => p.Sound r s' := by
  refine ends_bind.mpr (hw.imp fun log r s' h => ?_)
  obtain ⟨hsound, hP⟩ := h
  cases r with
  | ok a => exact hf a s' hsound.1 (hP a rfl)
  | error why => exact sound_stop hsound.1 (hsound.2 why rfl)

theorem sound_conclude (h : s.status.Consistent p.ns) :
    p.conclude.Ends s fun _ r s' => p.Sound r s' := by
  refine ends_conclude.mpr (sound_ok ?_)
  unfold concluded
  refine Consistent.clearDegraded (h.report ?_)
  trivial

theorem sound_waitFor {type : ConditionType} {reason : Reason} {message : String}
    (h : s.status.Consistent p.ns) (hfits : s.status.Fits type false) :
    (p.waitFor type reason message).Ends s fun _ r s' => p.Sound r s' := by
  refine ends_waitFor.mpr (sound_ok ?_)
  unfold waiting
  exact Consistent.reportWaiting (h.report hfits)

/-- A spec that is refused is blamed on the template at most, and only while none is bound. -/
theorem fits_of_refusal {status : Status} {why : Stop}
    (h : p.judge status.boundTemplate = .error why) {type : ConditionType} {reason : Reason}
    (hstep : why.step = some (type, reason)) :
    status.Fits type false := by
  obtain ⟨rfl, -⟩ := unbound_of_refusal h hstep
  exact nofun

/-- While nothing has joined, a failure on the way to machines may be blamed on them. -/
theorem sound_provisioningStop {e : ControllerError} (h : s.status.Consistent p.ns)
    (hinit : s.status.initialized = false) :
    p.Sound (.error (provisioningStop s.status e) : Except Stop α) s := by
  unfold provisioningStop
  split
  · refine sound_stop h ?_
    intro type reason hstep
    cases hstep
  · exact sound_blame h rfl ⟨nofun, fun hset => by rw [hinit] at hset; cases hset⟩

/-! ### The whole way -/

theorem sound_tearDown (h : s.status.Consistent p.ns) (hready : s.status.ready = false)
    (hcomplete : s.status.isTrue .bootstrapComplete = true) :
    p.tearDown.Ends s fun _ r s' => p.Sound r s' := by
  have hfits : s.status.Fits .ready false := hready.symm
  have hlatch : s.status.latch .bootstrapMachineDeleted = .ok { s.status with ready := true } :=
    if_pos (h.initialized_of_complete hcomplete)
  refine ends_bind.mpr (ends_callFor (fun _ now => ?_) fun _ _ _ => sound_blame h rfl hfits)
  refine ends_bind.mpr (ends_look hcomplete hlatch ?applied ?unseen ?failed)
  case applied =>
    intro _ now _
    exact sound_conclude (consistent_removed h hcomplete)
  case unseen =>
    intro _ now _
    exact sound_waitFor h hfits
  case failed =>
    intro reply e _
    exact sound_blame h rfl hfits

theorem sound_complete (h : s.status.Consistent p.ns) (hready : s.status.ready = false)
    (hinit : s.status.initialized = true) : p.complete.Ends s fun _ r s' => p.Sound r s' := by
  unfold complete
  refine ends_bind.mpr (ends_status.mpr ?_)
  dsimp only
  split
  · rename_i hcomplete
    exact sound_tearDown h hready hcomplete
  · have hfits : s.status.Fits .bootstrapComplete false :=
      ⟨nofun, fun hset => by rw [hready] at hset; cases hset⟩
    refine ends_bind.mpr (ends_look hinit rfl ?applied ?unseen ?failed)
    case applied =>
      intro _ now _
      refine sound_tearDown (consistent_completed h hinit) hready ?_
      rw [isTrue_signalled rfl]
      exact if_pos rfl
    case unseen =>
      intro _ now _
      exact sound_waitFor h hfits
    case failed =>
      intro reply e _
      exact sound_blame h rfl hfits

/-- Where a walk to machines stands: a template is bound, and nothing has joined. -/
structure Provisioning (p : Pass) (s : Status) : Prop where
  consistent : s.Consistent p.ns
  initialized : s.initialized = false
  bound : s.boundTemplate.isSome = true

/-- The template that is bound has been checked. -/
theorem sound_resolveInstallState (h : s.status.Consistent p.ns)
    (hinit : s.status.initialized = false)
    (htemplate : checkTemplate p.resource.spec.template p.ns = some []) :
    p.resolveInstallState.Ends s fun _ r s' =>
      p.Sound r s' ∧ ∀ install, r = .ok install → p.Provisioning s'.status := by
  have hfits : s.status.Fits .templateBound false := nofun
  refine ends_resolveInstallState ?found ?failed ?absent ?useless
  case found =>
    intro data install now _
    have hbound : (p.bound install s.status now).Consistent p.ns :=
      (h.bind htemplate).report fun _ => by simp
    exact ⟨sound_ok hbound, fun _ _ => ⟨hbound, by simpa [bound] using hinit, by simp [bound]⟩⟩
  case failed =>
    intro reply e _
    exact (sound_blame h rfl hfits).stopped
  case absent =>
    intro now
    exact (sound_blame h rfl hfits).stopped
  case useless =>
    intro data e now _
    exact (sound_blame h rfl hfits).stopped

theorem sound_resolveManifests (h : p.Provisioning s.status) :
    p.resolveManifests.Ends s fun _ r s' =>
      p.Sound r s' ∧ ∀ manifests, r = .ok manifests → p.Provisioning s'.status := by
  have hresolved : ∀ reason message now, p.Provisioning (p.resolved reason message s.status now) :=
    fun reason message now => ⟨h.consistent.report trivial, h.initialized, h.bound⟩
  have hfits : s.status.Fits .manifestsResolved false := trivial
  refine ends_resolveManifests ?defaults ?found ?unreadable ?failed ?invalid
  case defaults =>
    intro _
    exact ⟨sound_ok (hresolved _ _ _).consistent, fun _ _ => hresolved _ _ _⟩
  case found =>
    intro selector secrets manifests now _ _
    exact ⟨sound_ok (hresolved _ _ _).consistent, fun _ _ => hresolved _ _ _⟩
  case unreadable =>
    intro e _
    exact (sound_blame h.consistent rfl hfits).stopped
  case failed =>
    intro selector reply e _ _
    exact (sound_blame h.consistent rfl hfits).stopped
  case invalid =>
    intro selector secrets errors now _ _
    exact (sound_blame h.consistent rfl hfits).stopped

theorem sound_generateBootConfig {install : InstallState} {manifests : Table String Bytes}
    (h : p.Provisioning s.status) :
    (p.generateBootConfig install manifests).Ends s fun _ r s' =>
      p.Sound r s' ∧ ∀ bootSecret, r = .ok bootSecret → p.Provisioning s'.status := by
  refine ends_generateBootConfig ?handed ?failed
  case handed =>
    intro bootSecret now
    exact ⟨sound_ok h.consistent, fun _ _ => h⟩
  case failed =>
    intro reply e _
    exact (sound_provisioningStop h.consistent h.initialized).stopped

theorem sound_ensureMachines {bootSecret : String} (h : p.Provisioning s.status) :
    (p.ensureMachines bootSecret).Ends s fun _ r s' =>
      p.Sound r s' ∧ ∀ u, r = .ok u →
        p.Provisioning s'.status ∧ s'.status.isTrue .machinesProvisioned = true := by
  refine ends_ensureMachines ?made ?failed
  case made =>
    intro now
    have hrequested : (p.requested s.status now).Consistent p.ns :=
      h.consistent.report ⟨fun _ => h.bound, fun _ => by simp⟩
    refine ⟨sound_ok hrequested, fun _ _ => ⟨⟨hrequested, h.initialized, h.bound⟩, ?_⟩⟩
    unfold requested
    rw [isTrue_report, if_pos rfl]
    rfl
  case failed =>
    intro reply e _
    exact (sound_provisioningStop h.consistent h.initialized).stopped

theorem sound_provision (h : s.status.Consistent p.ns) (hinit : s.status.initialized = false)
    (htemplate : checkTemplate p.resource.spec.template p.ns = some []) :
    p.provision.Ends s fun _ r s' => p.Sound r s' := by
  refine sound_bind (sound_resolveInstallState h hinit htemplate) fun install _ _ hs₁ => ?_
  refine sound_bind (sound_resolveManifests hs₁) fun manifests _ _ hs₂ => ?_
  refine sound_bind (sound_generateBootConfig hs₂) fun bootSecret _ _ hs₃ => ?_
  refine sound_bind (sound_ensureMachines hs₃) fun _ s₄ hconsistent hs₄ => ?_
  obtain ⟨⟨-, hinit₄, -⟩, hprovisioned⟩ := hs₄
  have hfits : s₄.status.Fits .controlPlaneInitialized false := hinit₄.symm
  have hready : s₄.status.ready = false := by
    cases hready : s₄.status.ready with
    | false => rfl
    | true =>
      rw [hconsistent.initialized_of_ready hready] at hinit₄
      cases hinit₄
  refine ends_bind.mpr (ends_look rfl rfl ?applied ?unseen ?failed)
  case applied =>
    intro _ now _
    exact sound_complete (consistent_joined hconsistent hprovisioned) hready rfl
  case unseen =>
    intro _ now _
    exact sound_waitFor hconsistent hfits
  case failed =>
    intro reply e _
    exact sound_blame hconsistent rfl hfits

/-- A walk from a consistent status ends in one, wherever it stops. -/
theorem sound_walk (h : s.status.Consistent p.ns) : p.walk.Ends s fun _ r s' => p.Sound r s' := by
  refine ends_walk ?refused ?ready ?initialized ?waiting
  case refused =>
    intro why hwhy
    exact sound_stop h fun type reason hstep => fits_of_refusal hwhy hstep
  case ready =>
    intro _
    exact sound_conclude h
  case initialized =>
    intro hready hinit
    exact sound_complete h hready hinit
  case waiting =>
    intro haccepted _ hinit
    obtain ⟨herrors, -⟩ := judge_eq_ok_iff.mp haccepted
    exact sound_provision h hinit (specErrors_eq_nil_iff_parts.mp herrors).2.1

/-- What a pass over a consistent status has to say is consistent. -/
theorem consistent_outcome {log : Calls} {walked : Except Stop Requeue × Standing}
    (h : s.status.Consistent p.ns) (hwalk : Program.Runs (p.walk s) log (some walked)) :
    (p.outcome walked).status.Consistent p.ns := by
  obtain ⟨r, s'⟩ := walked
  have hsound : p.Sound r s' := sound_walk h log r s' hwalk
  cases r with
  | ok requeue => exact hsound.1
  | error why => exact hsound.1.reportError (hsound.2 why rfl)

end Pass

end ControlPlane
