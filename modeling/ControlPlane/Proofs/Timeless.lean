/-
Passes and clocks.

A clock is read into the times of conditions and nowhere else.  `Status.timeless` sets all
these times alike, and a step is `Timeless` if it does the same with a clock that stands still
as with any other, those times apart: it makes the same calls, comes to the same end, and
leaves the same status but for its times.  Every step of a pass is timeless.

Only a write looks at the times, where it asks whether a status is the stored one; what
comes of that is in `Reports`.
-/
import ControlPlane.Proofs.Status
import ControlPlane.Pass

namespace ControlPlane

/-- The moment at which a clock stands that is not read. -/
abbrev Time.epoch : Time := ⟨0, 0⟩

/-! ### Statuses -/

namespace Status

variable {s : Status} {type : ConditionType} {status : ConditionStatus} {reason : Reason}
  {message : String} {generation : Option Int} {now : Time}

/-- The status with all its times set alike. -/
def timeless (s : Status) : Status := s.withTimes fun _ => .epoch

@[simp] theorem timeless_initialized : s.timeless.initialized = s.initialized := rfl

@[simp] theorem timeless_ready : s.timeless.ready = s.ready := rfl

@[simp] theorem timeless_boundTemplate : s.timeless.boundTemplate = s.boundTemplate := rfl

@[simp] theorem isTrue_timeless : s.timeless.isTrue type = s.isTrue type := isTrue_withTimes

theorem get?_timeless {k : String} : s.timeless.conditions.get? k =
    (s.conditions.get? k).map fun o => { o with since := .epoch } :=
  Table.get?_map _ _ _

theorem timeless_report : (s.report type status reason message generation now).timeless =
    s.timeless.report type status reason message generation .epoch := by
  have hset : ∀ k, (s.report type status reason message generation now).timeless.conditions.get? k =
      (s.timeless.report type status reason message generation .epoch).conditions.get? k := by
    intro k
    rw [get?_timeless]
    unfold report
    dsimp only
    rw [ConditionSet.get?_set, ConditionSet.get?_set, get?_timeless, get?_timeless]
    by_cases hk : k = type.text
    · rw [if_pos hk, if_pos hk]
      cases s.conditions.get? type.text with
      | none => rfl
      | some o => simp [ConditionSet.refreshed]
    · rw [if_neg hk, if_neg hk]
  have hconditions : (s.report type status reason message generation now).timeless.conditions =
      (s.timeless.report type status reason message generation .epoch).conditions :=
    congrArg ConditionSet.mk (Table.ext hset)
  rw [Status.mk.injEq]
  exact ⟨hconditions, rfl, rfl, rfl⟩

theorem timeless_reportError {step : Option (ConditionType × Reason)} {error : ControllerError} :
    (s.reportError step error generation now).timeless =
      s.timeless.reportError step error generation .epoch := by
  unfold reportError clearDegraded
  cases step <;> cases error.errorClass <;> simp only [timeless_report]

theorem timeless_bind {t : MachineTemplate} : (s.bind t).timeless = s.timeless.bind t := by
  unfold bind
  rw [timeless_boundTemplate]
  cases s.boundTemplate <;> rfl

/-- A signal is taken by the latches, and its condition is reported. -/
theorem timeless_receive (s : Status) (signal : Signal) (generation : Option Int) (now : Time) :
    (∃ b b' s', s.receive signal generation now = .ok (b, s') ∧
      s.timeless.receive signal generation .epoch = .ok (b', s'.timeless)) ∨
    ∃ violation, s.receive signal generation now = .error violation ∧
      s.timeless.receive signal generation .epoch = .error violation := by
  have hexpects : s.timeless.expects signal = s.expects signal := by
    cases signal
    · rfl
    · rfl
    · exact isTrue_timeless
  unfold receive
  rw [hexpects]
  by_cases h : s.expects signal = true
  · rw [if_pos h, if_pos h]
    have hlatch : s.timeless.latch signal = (s.latch signal).map timeless := by
      cases signal
      · rfl
      · rfl
      · unfold latch markReady
        rw [timeless_initialized]
        cases s.initialized <;> rfl
    rw [hlatch]
    cases s.latch signal with
    | ok latched => exact .inl ⟨_, _, _, rfl, by rw [timeless_report]; rfl⟩
    | error violation => exact .inr ⟨violation, rfl, rfl⟩
  · rw [if_neg h, if_neg h]
    exact .inl ⟨_, _, _, rfl, rfl⟩

/-- The latches judge a write, and its times do not. -/
theorem checkTransition_timeless {stored : Option Status} :
    checkTransition stored s.timeless = checkTransition stored s := rfl

end Status

/-! ### Steps -/

/-- Where a pass stands by a clock that is not read. -/
def Standing.timeless (s : Standing) : Standing := ⟨s.status.timeless, .epoch⟩

/-- The answers of some collaborators, by a clock that is not read. -/
def timelessly {σ : Type} (answer : (c : Call) → σ → c.Reply × σ) (c : Call) (x : σ) :
    c.Reply × σ :=
  (⟨(answer c x).1.outcome, .epoch⟩, (answer c x).2)

namespace Walk

variable {α β : Type} {w : Walk α}

/-- Whatever the clock, the step makes the same calls and comes to the same, times apart, or breaks
off alike. -/
def Timeless (w : Walk α) : Prop :=
  ∀ (σ : Type) (answer : (c : Call) → σ → c.Reply × σ) (s : Standing) (x : σ),
    (w s.timeless).run (timelessly answer) x =
      (((w s).run answer x).1.map fun e => (e.1, e.2.timeless), ((w s).run answer x).2)

theorem timeless_bind {f : α → Walk β} (hw : w.Timeless) (hf : ∀ a, (f a).Timeless) :
    (w >>= f).Timeless := by
  intro σ answer s x
  have hbind : w >>= f = Walk.bind w f := rfl
  rw [hbind]
  unfold Walk.bind
  rw [Program.run_bind, Program.run_bind, hw σ answer s x]
  obtain ⟨_ | ⟨a | why, s'⟩, x'⟩ := (w s).run answer x
  · rfl
  · rfl
  · exact hf _ σ answer s' x'

theorem timeless_pure {a : α} : (pure a : Walk α).Timeless := fun _ _ _ _ => rfl

theorem timeless_stop {why : Stop} : (stop why : Walk α).Timeless := fun _ _ _ _ => rfl

theorem timeless_abort : (abort : Walk α).Timeless := fun _ _ _ _ => rfl

/-- What looks at a status must see the same in it, whatever its times. -/
theorem timeless_status {f : Status → Walk α} (hsame : ∀ s : Status, f s.timeless = f s)
    (hf : ∀ s, (f s).Timeless) : (status >>= f).Timeless := by
  intro σ answer s x
  have hstart : ∀ s : Standing, (status >>= f) s = f s.status s := fun _ => rfl
  rw [hstart, hstart]
  show (f s.status.timeless s.timeless).run (timelessly answer) x = _
  rw [hsame]
  exact hf s.status σ answer s x

theorem timeless_change {g : Status → Time → Status}
    (h : ∀ s now, (g s now).timeless = g s.timeless .epoch) : (change g).Timeless := by
  intro σ answer s x
  have hleft : (change g s.timeless).run (timelessly answer) x =
      (some (.ok (), ⟨g s.status.timeless .epoch, .epoch⟩), x) := rfl
  rw [hleft, ← h s.status s.now]
  rfl

theorem timeless_ask {c : Call} : (ask c).Timeless := fun _ _ _ _ => rfl

end Walk

namespace Pass

open Walk

variable {p : Pass}

theorem timeless_report {type : ConditionType} {status : ConditionStatus} {reason : Reason}
    {message : String} : (p.report type status reason message).Timeless :=
  timeless_change fun _ _ => Status.timeless_report

theorem timeless_call {c : Call} {failure : ControllerError → Walk c.Answer}
    (hfailure : ∀ e, (failure e).Timeless) : (p.call c failure).Timeless := by
  refine timeless_bind timeless_ask ?_
  intro outcome
  split
  · exact timeless_pure
  · exact hfailure _

theorem timeless_callFor {type : ConditionType} {c : Call} : (p.callFor type c).Timeless :=
  timeless_call fun _ => timeless_stop

theorem timeless_callForMachines {c : Call} : (p.callForMachines c).Timeless := by
  refine timeless_call fun e => timeless_status (fun s => ?_) fun s => ?_
  · rw [Status.isTrue_timeless]
  · split <;> exact timeless_stop

theorem timeless_receive {signal : Signal} : (p.receive signal).Timeless := by
  intro σ answer s x
  have hboth : s.timeless.status.receive signal p.generation s.timeless.now =
      s.status.timeless.receive signal p.generation .epoch := rfl
  unfold receive
  rw [hboth]
  obtain ⟨b, b', s', hs, htimeless⟩ | ⟨violation, hs, htimeless⟩ :=
    Status.timeless_receive s.status signal p.generation s.now
  · rw [hs, htimeless]
    rfl
  · rw [hs, htimeless]
    rfl

theorem timeless_look {type : ConditionType} {signal : Signal} {c : Call}
    {seen : c.Answer → Bool} : (p.look type signal c seen).Timeless := by
  refine timeless_bind timeless_callFor ?_
  intro answer
  split
  · exact timeless_bind timeless_receive fun _ => timeless_pure
  · exact timeless_pure

theorem timeless_waitFor {type : ConditionType} {reason : Reason} {message : String} :
    (p.waitFor type reason message).Timeless := by
  refine timeless_bind timeless_report fun _ => timeless_bind (timeless_change fun s now => ?_)
    fun _ => timeless_pure
  unfold Status.reportWaiting Status.clearDegraded
  rw [Status.timeless_report, Status.timeless_report]

theorem timeless_conclude : p.conclude.Timeless :=
  timeless_bind timeless_report fun _ => timeless_bind
    (timeless_change fun _ _ => Status.timeless_report) fun _ => timeless_pure

theorem timeless_tearDown : p.tearDown.Timeless := by
  refine timeless_bind timeless_callFor fun _ => timeless_bind timeless_look fun gone => ?_
  split
  · exact timeless_conclude
  · exact timeless_waitFor

theorem timeless_complete : p.complete.Timeless := by
  refine timeless_status (fun s => ?_) fun s => ?_
  · rw [Status.isTrue_timeless]
  · split
    · exact timeless_tearDown
    · refine timeless_bind timeless_look fun seen => ?_
      split
      · exact timeless_tearDown
      · exact timeless_waitFor

theorem timeless_resolveInstallState : p.resolveInstallState.Timeless := by
  refine timeless_bind timeless_callFor ?_
  intro answer
  cases answer with
  | none => exact timeless_stop
  | some data =>
    dsimp only
    split
    · exact timeless_stop
    · exact timeless_bind (timeless_change fun _ _ => Status.timeless_bind) fun _ =>
        timeless_bind timeless_report fun _ => timeless_pure

theorem timeless_resolveManifests : p.resolveManifests.Timeless := by
  unfold resolveManifests
  split
  · exact timeless_stop
  · exact timeless_bind timeless_report fun _ => timeless_pure
  · refine timeless_bind timeless_callFor ?_
    intro secrets
    split
    · exact timeless_stop
    · exact timeless_bind timeless_report fun _ => timeless_pure

theorem timeless_ensureMachines {bootSecret : String} : (p.ensureMachines bootSecret).Timeless :=
  timeless_status (fun _ => rfl) fun _ =>
    timeless_bind timeless_callForMachines fun _ => timeless_report

theorem timeless_provision : p.provision.Timeless := by
  refine timeless_bind timeless_resolveInstallState fun install => ?_
  refine timeless_bind timeless_resolveManifests fun manifests => ?_
  refine timeless_bind timeless_callForMachines fun bootSecret => ?_
  refine timeless_bind timeless_ensureMachines fun _ => timeless_bind timeless_look fun joined => ?_
  split
  · exact timeless_complete
  · exact timeless_waitFor

/-- A pass makes the same calls by any clock, and comes to the same. -/
theorem timeless_walk : p.walk.Timeless := by
  have hcheck : p.checkSpec.Timeless := by
    refine timeless_status (fun _ => rfl) fun s => ?_
    split
    · exact timeless_pure
    · exact timeless_stop
    · exact timeless_abort
  refine timeless_bind hcheck fun _ => ?_
  refine timeless_status (fun _ => rfl) fun s => ?_
  split
  · exact timeless_conclude
  split
  · exact timeless_complete
  · exact timeless_provision

/-- Of two walks that end alike, times apart, the same is told. -/
theorem timeless_outcome {walked walked' : Except Stop Requeue × Standing}
    (hend : walked'.1 = walked.1) (hstatus : walked'.2.timeless = walked.2.timeless) :
    (p.outcome walked').status.timeless = (p.outcome walked).status.timeless ∧
      (p.outcome walked').requeue = (p.outcome walked).requeue ∧
      (p.outcome walked').error = (p.outcome walked).error := by
  obtain ⟨r, s⟩ := walked
  obtain ⟨r', s'⟩ := walked'
  obtain rfl : r' = r := hend
  have htimeless : s'.status.timeless = s.status.timeless := congrArg Standing.status hstatus
  cases r' with
  | ok requeue => exact ⟨htimeless, rfl, rfl⟩
  | error why =>
    refine ⟨?_, rfl, rfl⟩
    unfold outcome
    dsimp only
    rw [Status.timeless_reportError, Status.timeless_reportError, htimeless]

end Pass

end ControlPlane
