/-
What a report changes of a status, and what it leaves.

A report writes one condition.  The latches and the bound template are out of its reach,
and so is every condition of another type.  `isTrue_report` says the latter for a single
report, and the lemmas after it say it for the reports that write several: a wait, a
conclusion and the report of an error.

The store may keep the times of a status less exactly than the status had them.
`withTimes` is a status after such a change, and nothing but its times shows it.
-/
import ControlPlane.Report
import ControlPlane.Lifecycle

namespace ControlPlane

theorem ConditionType.text_injective {a b : ConditionType} (h : a.text = b.text) : a = b := by
  revert h
  cases a <;> cases b <;> decide

theorem ConditionStatus.text_injective {a b : ConditionStatus} (h : a.text = b.text) : a = b := by
  revert h
  cases a <;> cases b <;> decide

theorem ConditionStatus.text_eq_holds_iff {c : ConditionStatus} :
    c.text = ConditionStatus.text .holds ↔ c = .holds := by
  cases c <;> decide

theorem ConditionSet.hasStatus_set {c : ConditionSet} {type type' reason message : String}
    {status status' : ConditionStatus} {generation : Option Int} {now : Time} :
    (c.set type status reason message generation now).hasStatus type' status' =
      if type' = type then decide (status.text = status'.text) else c.hasStatus type' status' := by
  unfold ConditionSet.hasStatus
  rw [ConditionSet.get?_set]
  by_cases h : type' = type
  · simp [h, ConditionSet.refreshed]
  · simp [h]

namespace Status

variable {s : Status} {type type' : ConditionType} {status : ConditionStatus} {reason : Reason}
  {message : String} {generation : Option Int} {now : Time}

/-! ### One report -/

@[simp] theorem report_initialized :
    (s.report type status reason message generation now).initialized = s.initialized := rfl

@[simp] theorem report_ready :
    (s.report type status reason message generation now).ready = s.ready := rfl

@[simp] theorem report_boundTemplate :
    (s.report type status reason message generation now).boundTemplate = s.boundTemplate := rfl

/-- A report decides on its own condition and on no other. -/
theorem isTrue_report :
    (s.report type status reason message generation now).isTrue type' =
      if type' = type then decide (status = .holds) else s.isTrue type' := by
  unfold report isTrue ConditionSet.isTrue
  dsimp only
  rw [ConditionSet.hasStatus_set]
  by_cases h : type' = type
  · simp [h, ConditionStatus.text_eq_holds_iff]
  · rw [if_neg (fun ht => h (ConditionType.text_injective ht)), if_neg h]

/-! ### Reports that write several conditions -/

@[simp] theorem clearDegraded_initialized :
    (s.clearDegraded generation now).initialized = s.initialized := rfl

@[simp] theorem clearDegraded_ready : (s.clearDegraded generation now).ready = s.ready := rfl

@[simp] theorem clearDegraded_boundTemplate :
    (s.clearDegraded generation now).boundTemplate = s.boundTemplate := rfl

@[simp] theorem reportWaiting_initialized :
    (s.reportWaiting reason message generation now).initialized = s.initialized := rfl

@[simp] theorem reportWaiting_ready :
    (s.reportWaiting reason message generation now).ready = s.ready := rfl

@[simp] theorem reportWaiting_boundTemplate :
    (s.reportWaiting reason message generation now).boundTemplate = s.boundTemplate := rfl

section Errors

variable {step : Option (ConditionType × Reason)} {error : ControllerError}

@[simp] theorem reportError_initialized :
    (s.reportError step error generation now).initialized = s.initialized := by
  unfold reportError
  cases step <;> cases error.errorClass <;> rfl

@[simp] theorem reportError_ready :
    (s.reportError step error generation now).ready = s.ready := by
  unfold reportError
  cases step <;> cases error.errorClass <;> rfl

@[simp] theorem reportError_boundTemplate :
    (s.reportError step error generation now).boundTemplate = s.boundTemplate := by
  unfold reportError
  cases step <;> cases error.errorClass <;> rfl

/-- A step that is blamed is told of first, and then the error is told as if none was. -/
theorem reportError_some {blamed : ConditionType} {reason : Reason} :
    s.reportError (some (blamed, reason)) error generation now =
      (s.report blamed .fails reason error.message generation now).reportError none error
        generation now := rfl

theorem isTrue_reportError_none (hprogressing : type ≠ .progressing) (hdegraded : type ≠ .degraded) :
    (s.reportError none error generation now).isTrue type = s.isTrue type := by
  unfold reportError
  cases error.errorClass with
  | failure =>
    dsimp only
    rw [isTrue_report, if_neg hdegraded]
  | transient =>
    dsimp only
    rw [clearDegraded, isTrue_report, if_neg hdegraded, isTrue_report, if_neg hprogressing]

/-- An error is told in the condition that is blamed and in two more, and in no other. -/
theorem isTrue_reportError (hblame : ∀ reason, step ≠ some (type, reason))
    (hprogressing : type ≠ .progressing) (hdegraded : type ≠ .degraded) :
    (s.reportError step error generation now).isTrue type = s.isTrue type := by
  cases step with
  | none => exact isTrue_reportError_none hprogressing hdegraded
  | some blame =>
    have hother : type ≠ blame.1 := by
      intro htype
      rw [htype] at hblame
      exact hblame blame.2 rfl
    rw [reportError_some, isTrue_reportError_none hprogressing hdegraded, isTrue_report,
      if_neg hother]

/-- The report of an error makes nothing true but what tells of the error itself. -/
theorem isTrue_of_isTrue_reportError (hprogressing : type ≠ .progressing)
    (hdegraded : type ≠ .degraded)
    (h : (s.reportError step error generation now).isTrue type = true) : s.isTrue type = true := by
  cases step with
  | none =>
    rw [isTrue_reportError_none hprogressing hdegraded] at h
    exact h
  | some blame =>
    rw [reportError_some, isTrue_reportError_none hprogressing hdegraded, isTrue_report] at h
    split at h
    · cases h
    · exact h

end Errors

/-! ### Bindings -/

variable {template : MachineTemplate}

@[simp] theorem bind_initialized : (s.bind template).initialized = s.initialized := by
  unfold bind
  cases s.boundTemplate <;> rfl

@[simp] theorem bind_ready : (s.bind template).ready = s.ready := by
  unfold bind
  cases s.boundTemplate <;> rfl

@[simp] theorem isTrue_bind : (s.bind template).isTrue type = s.isTrue type := by
  unfold bind
  cases s.boundTemplate <;> rfl

/-- A template that is bound stays, and else the given one is bound. -/
@[simp] theorem bind_boundTemplate :
    (s.bind template).boundTemplate = some (s.boundTemplate.getD template) := by
  unfold bind
  cases h : s.boundTemplate with
  | none => rfl
  | some t => exact h

/-- Where no status is stored, no template is bound. -/
theorem boundTemplate_getD {stored : Option Status} :
    (stored.getD .blank).boundTemplate = stored.bind (·.boundTemplate) := by
  cases stored <;> rfl

theorem bind_of_bound {t : MachineTemplate} (h : s.boundTemplate = some t) :
    s.bind template = s := by
  unfold bind
  rw [h]

/-! ### Signals -/

/-- A signal that comes in its turn sets its latch and reports its condition. -/
theorem receive_of_expects {signal : Signal} {latched : Status}
    (hexpects : s.expects signal = true) (hlatch : s.latch signal = .ok latched) :
    ∃ changed, s.receive signal generation now = .ok (changed,
      latched.report signal.condition .holds signal.reason signal.message generation now) := by
  unfold receive
  rw [if_pos hexpects, hlatch]
  exact ⟨_, rfl⟩

/-- A signal sets its own latch and changes nothing else. -/
theorem latch_eq {signal : Signal} {latched : Status} (h : s.latch signal = .ok latched) :
    latched = { s with
      initialized := s.initialized || decide (signal = .controlPlaneJoined)
      ready := s.ready || decide (signal = .bootstrapMachineDeleted) } := by
  cases signal with
  | controlPlaneJoined =>
    cases h
    simp [markInitialized]
  | bootstrapCompleted =>
    cases h
    simp
  | bootstrapMachineDeleted =>
    have h : s.markReady = .ok latched := h
    unfold markReady at h
    split at h
    · cases h
      simp
    · cases h

theorem latch_bootstrapMachineDeleted (hinit : s.initialized = true) :
    s.latch .bootstrapMachineDeleted = .ok { s with ready := true } :=
  if_pos hinit

/-! ### Times -/

/-- The status with other times. -/
def withTimes (s : Status) (f : Time → Time) : Status :=
  { s with conditions := ⟨s.conditions.byType.map fun _ o => { o with since := f o.since }⟩ }

@[simp] theorem withTimes_initialized {f : Time → Time} :
    (s.withTimes f).initialized = s.initialized := rfl

@[simp] theorem withTimes_ready {f : Time → Time} : (s.withTimes f).ready = s.ready := rfl

@[simp] theorem withTimes_boundTemplate {f : Time → Time} :
    (s.withTimes f).boundTemplate = s.boundTemplate := rfl

@[simp] theorem isTrue_withTimes {f : Time → Time} : (s.withTimes f).isTrue type = s.isTrue type := by
  unfold isTrue ConditionSet.isTrue ConditionSet.hasStatus ConditionSet.get? withTimes
  dsimp only
  rw [Table.get?_map]
  cases s.conditions.byType.get? type.text <;> rfl

end Status

end ControlPlane
