/-
When a pass is looked at again.

A pass that is looked at again too seldom leaves its cluster stuck, and one that is looked at
too often keeps everybody busy.  Past the check of the spec a pass has three ends: it waits
for something outside and polls, it has nothing left to do, or it failed, and then the class
of the error decides.  `Attended` is these three, and each of the ways of a pass comes to one
of them.

Only a spec that is refused is an error that nothing but a change of the resource can help.
Nobody has been called then, so nothing outside could have made a difference.
-/
import ControlPlane.Proofs.Reconcile
import ControlPlane.Proofs.Told
import ControlPlane.Proofs.Ways

namespace ControlPlane

open Program (Runs)

/-- A pass over the example resource with the name of some secret in its spec. -/
def Demo.pass (secret : String) : Pass :=
  let resource := resource none
  ⟨.standard, { resource with spec := { resource.spec with installState := ⟨secret⟩ } }, "clusters"⟩

/-- When a pass is looked at again that met an error of this class. -/
def ErrorClass.requeue : ErrorClass → Requeue
  | .failure => .poll
  | .transient => .backoff

theorem ErrorClass.requeue_eq_backoff_iff {c : ErrorClass} :
    c.requeue = .backoff ↔ c = .transient := by
  cases c <;> decide

theorem ErrorClass.requeue_ne_awaitChange {c : ErrorClass} : c.requeue ≠ .awaitChange := by
  cases c <;> decide

/-- A call that fails to answer is tried again. -/
theorem Call.errorClass_of_result {c : Call} {config : Config} {outcome : Outcome c.Answer}
    {e : ControllerError} (h : c.result config outcome = .error e) : e.errorClass = .transient := by
  cases outcome with
  | answered a => cases h
  | failed fault =>
    cases h
    rfl
  | timedOut =>
    cases h
    unfold Call.timeoutError
    dsimp only
    split <;> rfl

/-! ### What is told of the degradation -/

namespace Status

variable {s a b : Status} {step : Option (ConditionType × Reason)} {error : ControllerError}
  {generation : Option Int} {now now' : Time}

/-- A condition that is told is there, and its status is the one that is told. -/
theorem isSome_of_told {type : ConditionType} {saying : String × String × String × Option Int}
    (h : s.told type = some saying) : (s.conditions.get? type.text).isSome = true := by
  obtain ⟨o, hget, -⟩ := Option.map_eq_some_iff.mp h
  rw [hget]
  rfl

theorem hasStatus_iff_of_told {type : ConditionType} {status : ConditionStatus}
    {saying : String × String × String × Option Int} (h : s.told type = some saying) :
    s.conditions.hasStatus type.text status = true ↔ saying.1 = status.text := by
  obtain ⟨o, hget, rfl⟩ := Option.map_eq_some_iff.mp h
  unfold ConditionSet.hasStatus
  simp [hget]

/-- Nothing is wrong, and that is told. -/
def Calm (s : Status) (generation : Option Int) : Prop :=
  s.told .degraded = some (ConditionStatus.text .fails, Reason.text .asExpected, "", generation)

theorem calm_clearDegraded : (s.clearDegraded generation now).Calm generation := by
  unfold Calm clearDegraded
  rw [told_report, if_pos rfl]

/-- That nothing is wrong is told of no degradation. -/
theorem Calm.isTrue_iff {degraded : Prop} (h : s.Calm generation) (hnot : ¬degraded) :
    (s.conditions.get? (ConditionType.text .degraded)).isSome = true ∧
      (s.isTrue .degraded = true ↔ degraded) := by
  refine ⟨isSome_of_told h, (hasStatus_iff_of_told h).trans (iff_of_false ?_ hnot)⟩
  exact (by decide : ConditionStatus.text .fails ≠ ConditionStatus.text .holds)

/-- An error that waits for the operator is told as a degradation. -/
theorem told_reportError (h : error.errorClass = .failure) :
    (s.reportError step error generation now).told .degraded = some
      (ConditionStatus.text .holds, Reason.text (.ofError error), error.message, generation) := by
  unfold reportError
  rw [h]
  dsimp only
  rw [told_report, if_pos rfl]

theorem calm_reportError (h : error.errorClass = .transient) :
    (s.reportError step error generation now).Calm generation := by
  unfold reportError
  rw [h]
  exact calm_clearDegraded

/-- The same reports make the same of statuses that are the same, whenever they are made. -/
theorem same_tell {l : List Report} (h : a.Same b) :
    (a.tell l generation now).Same (b.tell l generation now') := by
  induction l generalizing a b with
  | nil => exact h
  | cons r l ih =>
    refine ih ⟨h.initialized, h.ready, h.boundTemplate, fun type => ?_⟩
    rw [told_report, told_report, h.told type]

end Status

namespace Pass

open Walk

variable {p : Pass} {s : Status} {log : Calls} {r : Except Stop Requeue} {s' : Standing}

/-! ### The ends of a pass -/

/-- How a pass ends past its check: it waits for something outside, it has nothing left to do,
or it fails and is looked at again as the class of the error asks for. -/
inductive Attended (p : Pass) : Except Stop Requeue → Status → Prop where
  | waits {s : Status} (hcalm : s.Calm p.generation) : Attended p (.ok .poll) s
  | done {s : Status} (hcalm : s.Calm p.generation) (hready : s.ready = true) :
      Attended p (.ok .awaitChange) s
  | failed {why : Stop} {s : Status} (h : why.requeue = why.error.errorClass.requeue) :
      Attended p (.error why) s

theorem attended_on {c : Call} {outcome : Outcome c.Answer} {type : ConditionType}
    {e : ControllerError} (he : c.result p.config outcome = .error e) :
    p.Attended (.error (.on type e .backoff)) s := by
  refine .failed ?_
  rw [Stop.on, Call.errorClass_of_result he]
  rfl

theorem attended_provisioningStop {c : Call} {outcome : Outcome c.Answer} {status : Status}
    {e : ControllerError} (he : c.result p.config outcome = .error e) :
    p.Attended (.error (provisioningStop status e)) s := by
  unfold provisioningStop
  split
  · refine .failed ?_
    rw [Call.errorClass_of_result he]
    rfl
  · exact attended_on he

theorem attended_of_tearsDown (h : p.TearsDown s log r s') : p.Attended r s'.status := by
  cases h with
  | unasked he => exact attended_on he
  | unknown he => exact attended_on he
  | remains => exact .waits Status.calm_clearDegraded
  | gone => exact .done Status.calm_clearDegraded rfl

theorem attended_of_completes (h : p.Completes s log r s') : p.Attended r s'.status := by
  cases h with
  | known _ hrest => exact attended_of_tearsDown hrest
  | unknown he => exact attended_on he
  | unfinished => exact .waits Status.calm_clearDegraded
  | finished hrest => exact attended_of_tearsDown hrest

theorem attended_of_joins (h : p.Joins s log r s') : p.Attended r s'.status := by
  cases h with
  | unknown he => exact attended_on he
  | absent => exact .waits Status.calm_clearDegraded
  | joined hrest => exact attended_of_completes hrest

theorem attended_of_hands {bootSecret : String} (h : p.Hands bootSecret s log r s') :
    p.Attended r s'.status := by
  cases h with
  | unmade he => exact attended_provisioningStop he
  | made hrest => exact attended_of_joins hrest

theorem attended_of_stumbles {why : Stop} (h : p.Stumbles s log why s') :
    p.Attended (.error why) s'.status := by
  cases h with
  | unanswered he => exact attended_on he
  | absent => exact .failed rfl
  | useless => exact .failed rfl
  | unlisted _ he => exact attended_on he
  | invalid => exact .failed rfl

theorem attended_of_provisions (h : p.Provisions s log r s') : p.Attended r s'.status := by
  cases h with
  | stumbled h => exact attended_of_stumbles h
  | unconfigured _ he => exact attended_provisioningStop he
  | configured _ hrest => exact attended_of_hands hrest

/-- A spec that is refused ends the pass at once, and else it is attended to. -/
theorem attended_of_goes {before : Standing} (h : p.Goes before log r s') :
    (∃ why, p.judge before.status.boundTemplate = .error why ∧ log = [] ∧ r = .error why ∧
      s' = before) ∨ p.Attended r s'.status := by
  cases h with
  | refused hwhy => exact .inl ⟨_, hwhy, rfl, rfl, rfl⟩
  | ready hready => exact .inr (.done Status.calm_clearDegraded hready)
  | initialized _ hrest => exact .inr (attended_of_completes hrest)
  | fresh _ _ hrest => exact .inr (attended_of_provisions hrest)

/-! ### A spec that is refused -/

theorem ends_walk_of_refusal {before : Standing} {why : Stop}
    (h : p.judge before.status.boundTemplate = .error why) :
    p.walk.Ends before fun log r s' => log = [] ∧ r = .error why ∧ s' = before := by
  refine ends_bind.mpr (ends_checkSpec ?accepted ?refused)
  case accepted =>
    intro haccepted
    rw [h] at haccepted
    cases haccepted
  case refused =>
    intro why' hwhy
    rw [h] at hwhy
    cases hwhy
    exact ⟨rfl, rfl, rfl⟩

/-! ### A whole pass -/

variable {start : Time} {o : PassOutcome}

/-- Over a spec that is refused every pass comes to the same, whatever its settings and
whatever is outside. -/
theorem outcome_of_refusal {why : Stop}
    (h : p.judge (p.resource.status.getD .blank).boundTemplate = .error why) {config : Config}
    (hrun : Runs (Pass.run { p with config } start) log (some o)) :
    log = [] ∧ o = p.outcome (.error why, ⟨p.resource.status.getD .blank, start⟩) := by
  obtain ⟨r, s', hwalk, rfl⟩ := exists_walked hrun
  have hwhy : ({ p with config } : Pass).judge (p.resource.status.getD .blank).boundTemplate =
      .error why := h
  obtain ⟨rfl, rfl, rfl⟩ := ends_walk_of_refusal hwhy log r s' hwalk
  exact ⟨rfl, rfl⟩

/-- A pass backs off over a transient error and over nothing else. -/
theorem backs_off_iff {before : Standing} (h : p.Goes before log r s') :
    (p.outcome (r, s')).requeue = .backoff ↔
      ∃ e, (p.outcome (r, s')).error = some e ∧ e.errorClass = .transient := by
  obtain ⟨why, hwhy, rfl, rfl, rfl⟩ | hattended := attended_of_goes h
  · obtain ⟨hrequeue, hclass⟩ := refusal_waits hwhy
    simp [outcome, hrequeue, hclass]
  · cases hattended with
    | waits => simp [outcome]
    | done => simp [outcome]
    | failed hclass => simp [outcome, hclass, ErrorClass.requeue_eq_backoff_iff]

/-- What an outcome tells of the degradation goes by its error. -/
theorem degraded_outcome {before : Standing} (h : p.Goes before log r s') :
    ((p.outcome (r, s')).status.conditions.get? (ConditionType.text .degraded)).isSome = true ∧
      ((p.outcome (r, s')).status.isTrue .degraded = true ↔
        ∃ e, (p.outcome (r, s')).error = some e ∧ e.errorClass = .failure) := by
  have hcalm : ∀ requeue, r = .ok requeue → s'.status.Calm p.generation := by
    rintro requeue rfl
    obtain ⟨_, -, -, hstopped, -⟩ | hattended := attended_of_goes h
    · cases hstopped
    · cases hattended <;> assumption
  cases r with
  | ok requeue => exact (hcalm requeue rfl).isTrue_iff (by simp [outcome])
  | error why =>
    cases hclass : why.error.errorClass with
    | transient =>
      have hcalm : (p.outcome (.error why, s')).status.Calm p.generation :=
        Status.calm_reportError hclass
      exact hcalm.isTrue_iff (by simp [outcome, hclass])
    | failure =>
      have htold : (p.outcome (.error why, s')).status.told .degraded = _ :=
        Status.told_reportError hclass
      exact ⟨Status.isSome_of_told htold, fun _ => ⟨why.error, rfl, hclass⟩,
        fun _ => (Status.hasStatus_iff_of_told htold).mpr rfl⟩

/-- **No wake-up is lost, and what is told agrees with it.**  Whatever status is stored and
however the collaborators answer, a pass backs off over a transient error and over nothing
else.  It tells of the degradation, which is there with an error that waits for the operator
and with no other.  A pass without an error that is not ready polls.  And where only a change
of the resource is awaited, the control plane is ready, or nobody was called and every other
pass over the resource comes to the same end. -/
theorem looked_at_again (hrun : Runs (p.run start) log (some o)) :
    (o.requeue = .backoff ↔ ∃ e, o.error = some e ∧ e.errorClass = .transient) ∧
    (o.status.conditions.get? (ConditionType.text .degraded)).isSome = true ∧
    (o.status.isTrue .degraded = true ↔ ∃ e, o.error = some e ∧ e.errorClass = .failure) ∧
    (o.error = none → o.status.ready = false → o.requeue = .poll) ∧
    (o.requeue = .awaitChange → (o.status.ready = true ∧ o.error = none) ∨
      (log = [] ∧ ∀ config start' log' o', Runs (Pass.run { p with config } start') log' (some o') →
        log' = [] ∧ o'.requeue = o.requeue ∧ o'.error = o.error ∧ o.status.Same o'.status ∧
          (start' = start → o' = o))) := by
  obtain ⟨r, s', hwalk, rfl⟩ := exists_walked hrun
  have hgoes := goes_walk log r s' hwalk
  have hends := attended_of_goes hgoes
  obtain ⟨hpresent, hdegraded⟩ := degraded_outcome hgoes
  refine ⟨backs_off_iff hgoes, hpresent, hdegraded, ?_⟩
  obtain ⟨why, hwhy, rfl, rfl, rfl⟩ | hattended := hends
  · obtain ⟨hrequeue, -⟩ := refusal_waits hwhy
    refine ⟨fun hnone => (by cases hnone), fun _ => .inr ⟨rfl, fun config start' log' o' hrun' => ?_⟩⟩
    obtain ⟨rfl, rfl⟩ := outcome_of_refusal hwhy hrun'
    refine ⟨rfl, rfl, rfl, ?_, fun hstart => by rw [hstart]⟩
    dsimp only [outcome]
    rw [Status.reportError_eq_tell, Status.reportError_eq_tell]
    exact Status.same_tell .refl
  · cases hattended with
    | waits => exact ⟨fun _ _ => rfl, fun hawait => by cases hawait⟩
    | done _ hready =>
      refine ⟨fun _ hunready => ?_, fun _ => .inl ⟨hready, rfl⟩⟩
      exact absurd (hready.symm.trans hunready) (by decide)
    | @failed why _ hclass =>
      refine ⟨fun hnone => (by cases hnone), fun hawait => ?_⟩
      have hrequeue : why.error.errorClass.requeue = .awaitChange := hclass ▸ hawait
      exact absurd hrequeue ErrorClass.requeue_ne_awaitChange

/-- One pass finds no secret and backs off.  The other one has a spec without the name of a
secret: it calls nobody, waits for a change, and with other settings it fails in the same way. -/
theorem looked_at_again_demo :
    (∃ log o, Runs ((Demo.pass "demo-install").run ⟨0, 0⟩) log (some o) ∧ log ≠ [] ∧
      o.requeue = .backoff ∧ o.status.isTrue .degraded = false ∧
      ∃ e, o.error = some e ∧ e.errorClass = .transient) ∧
    ∃ log o, Runs ((Demo.pass "").run ⟨0, 0⟩) log (some o) ∧ o.requeue = .awaitChange ∧
      (∃ e, o.error = some e ∧ e.errorClass = .failure) ∧ log = [] ∧
      ∀ config start log' o', Runs (Pass.run { Demo.pass "" with config } start) log' (some o') →
        log' = [] ∧ o'.error = o.error := by
  obtain ⟨o, hmissing, hbacks, hcalm⟩ := Demo.exists_outcome
    (p := Demo.pass "demo-install") (w := Demo.emptyWorld)
    (fun o => o.requeue = .backoff ∧ o.status.isTrue .degraded = false) (by decide +kernel)
  obtain ⟨o', hrefused, hawaits, htold, hunready⟩ := Demo.exists_outcome
    (p := Demo.pass "") (w := Demo.emptyWorld)
    (fun o => o.requeue = .awaitChange ∧ o.status.isTrue .degraded = true ∧
      o.status.ready = false) (by decide +kernel)
  obtain ⟨htransient, -⟩ := looked_at_again hmissing
  obtain ⟨-, -, hdegraded, -, hquiet⟩ := looked_at_again hrefused
  refine ⟨⟨_, o, hmissing, by decide +kernel, hbacks, hcalm, htransient.mp hbacks⟩, _, o', hrefused,
    hawaits, hdegraded.mp htold, ?_⟩
  obtain ⟨hready, -⟩ | ⟨hsilent, halone⟩ := hquiet hawaits
  · exact absurd (hready.symm.trans hunready) nofun
  · refine ⟨hsilent, fun config start log' o' hrun => ?_⟩
    obtain ⟨hcalls, -, herror, -, -⟩ := halone config start log' o' hrun
    exact ⟨hcalls, herror⟩

end Pass

end ControlPlane
