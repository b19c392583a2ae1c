/-
Which passes break off.

The collaborators have no part in it.  A pass breaks off where its spec is judged, before it has
called anyone, and every other step comes to an end, whatever it is answered: such a step is
`Whole`.  So whether a pass has an outcome is settled by the resource alone.
-/
import ControlPlane.Proofs.Pass

namespace ControlPlane

open Program (Runs)

namespace Walk

variable {α β : Type}

/-- Wherever it stands and whatever it is answered, the step does not break off. -/
def Whole (w : Walk α) : Prop := ∀ s log, ¬ Runs (w s) log none

theorem whole_pure {a : α} : (pure a : Walk α).Whole := nofun

theorem whole_stop {why : Stop} : (stop why : Walk α).Whole := nofun

theorem whole_status : status.Whole := nofun

theorem whole_change {f : Status → Time → Status} : (change f).Whole := nofun

theorem whole_ask {c : Call} : (ask c).Whole := by
  intro s log hrun
  cases hrun with
  | ask rest => cases rest

theorem whole_bind {w : Walk α} {f : α → Walk β} (hw : w.Whole) (hf : ∀ a, (f a).Whole) :
    (w >>= f).Whole := by
  intro s log hrun
  obtain ⟨first, ended, rest, -, hfirst, hrest⟩ := Program.runs_bind_iff.mp hrun
  cases ended with
  | none => exact hw s first hfirst
  | some ended =>
    obtain ⟨r, s'⟩ := ended
    cases r with
    | ok a => exact hf a s' rest hrest
    | error why => cases hrest

end Walk

namespace Pass

open Walk

variable {p : Pass} {s : Standing} {start : Time} {log : Calls}

theorem whole_report {type : ConditionType} {status : ConditionStatus} {reason : Reason}
    {message : String} : (p.report type status reason message).Whole :=
  whole_change

theorem whole_call {c : Call} {failure : ControllerError → Walk c.Answer}
    (hfailure : ∀ e, (failure e).Whole) : (p.call c failure).Whole := by
  refine whole_bind whole_ask fun outcome => ?_
  split
  · exact whole_pure
  · exact hfailure _

theorem whole_callFor {type : ConditionType} {c : Call} : (p.callFor type c).Whole :=
  whole_call fun _ => whole_stop

theorem whole_receive {signal : Signal} : (p.receive signal).Whole := by
  intro s log hrun
  unfold receive at hrun
  split at hrun <;> cases hrun

theorem whole_conclude : p.conclude.Whole :=
  whole_bind whole_report fun _ => whole_bind whole_change fun _ => whole_pure

theorem whole_waitFor {type : ConditionType} {reason : Reason} {message : String} :
    (p.waitFor type reason message).Whole :=
  whole_bind whole_report fun _ => whole_bind whole_change fun _ => whole_pure

theorem whole_resolveInstallState : p.resolveInstallState.Whole := by
  refine whole_bind whole_callFor fun answer => ?_
  cases answer with
  | none => exact whole_stop
  | some data =>
    dsimp only
    split
    · exact whole_stop
    · exact whole_bind whole_change fun _ => whole_bind whole_report fun _ => whole_pure

theorem whole_resolveManifests : p.resolveManifests.Whole := by
  unfold resolveManifests
  split
  · exact whole_stop
  · exact whole_bind whole_report fun _ => whole_pure
  · refine whole_bind whole_callFor fun secrets => ?_
    split
    · exact whole_stop
    · exact whole_bind whole_report fun _ => whole_pure

theorem whole_callForMachines {c : Call} : (p.callForMachines c).Whole := by
  refine whole_call fun e => whole_bind whole_status fun status => ?_
  split <;> exact whole_stop

theorem whole_ensureMachines {bootSecret : String} : (p.ensureMachines bootSecret).Whole :=
  whole_bind whole_status fun _ => whole_bind whole_callForMachines fun _ => whole_report

theorem whole_look {type : ConditionType} {signal : Signal} {c : Call} {seen : c.Answer → Bool} :
    (p.look type signal c seen).Whole := by
  refine whole_bind whole_callFor fun answer => ?_
  split
  · exact whole_bind whole_receive fun _ => whole_pure
  · exact whole_pure

theorem whole_tearDown : p.tearDown.Whole := by
  refine whole_bind whole_callFor fun _ => whole_bind whole_look fun gone => ?_
  split
  · exact whole_conclude
  · exact whole_waitFor

theorem whole_complete : p.complete.Whole := by
  refine whole_bind whole_status fun status => ?_
  split
  · exact whole_tearDown
  · refine whole_bind whole_look fun complete => ?_
    split
    · exact whole_tearDown
    · exact whole_waitFor

theorem whole_provision : p.provision.Whole := by
  refine whole_bind whole_resolveInstallState fun install => ?_
  refine whole_bind whole_resolveManifests fun manifests => ?_
  refine whole_bind whole_callForMachines fun bootSecret => ?_
  refine whole_bind whole_ensureMachines fun _ => whole_bind whole_look fun joined => ?_
  split
  · exact whole_complete
  · exact whole_waitFor

/-! ### A whole pass -/

/-- What is left of the way once the spec is accepted. -/
theorem whole_rest {s : Status} :
    (if s.ready then p.conclude else if s.initialized then p.complete else p.provision).Whole := by
  split
  · exact whole_conclude
  split
  · exact whole_complete
  · exact whole_provision

/-- The check of the spec breaks off with its judgement. -/
theorem runs_checkSpec_none_iff :
    Runs (p.checkSpec s) log none ↔ log = [] ∧ p.judge s.status.boundTemplate = .abort := by
  unfold checkSpec
  simp only [Walk.status, bind, Walk.bind, Program.done_bind]
  cases p.judge s.status.boundTemplate with
  | ok _ => exact ⟨nofun, fun ⟨_, habort⟩ => nomatch habort⟩
  | error why => exact ⟨nofun, fun ⟨_, habort⟩ => nomatch habort⟩
  | abort =>
    constructor
    · intro hrun
      cases hrun
      exact ⟨rfl, rfl⟩
    · rintro ⟨rfl, -⟩
      exact .done _

/-- A walk breaks off where the spec is judged and nowhere else. -/
theorem runs_walk_none_iff :
    Runs (p.walk s) log none ↔ log = [] ∧ p.judge s.status.boundTemplate = .abort := by
  rw [← runs_checkSpec_none_iff]
  constructor
  · intro hrun
    obtain ⟨first, ended, rest, rfl, hfirst, hend⟩ := Program.runs_bind_iff.mp hrun
    cases ended with
    | none =>
      cases hend
      simpa using hfirst
    | some ended =>
      obtain ⟨r, s'⟩ := ended
      cases r with
      | ok _ => exact absurd hend (whole_bind whole_status (fun _ => whole_rest) s' rest)
      | error why => cases hend
  · intro hrun
    exact Program.runs_bind_iff.mpr ⟨log, none, [], (List.append_nil log).symm, hrun, .done _⟩

/-- A walk that ends has a spec that is accepted or refused. -/
theorem judge_ne_abort {walked : Except Stop Requeue × Standing}
    (h : Runs (p.walk s) log (some walked)) : p.judge s.status.boundTemplate ≠ .abort := by
  intro habort
  have hdone : p.walk s = .done none :=
    Program.runs_nil_iff.mp (runs_walk_none_iff.mpr ⟨rfl, habort⟩)
  rw [hdone] at h
  cases h

theorem runs_none_iff : Runs (p.run start) log none ↔
    log = [] ∧ p.judge (p.resource.status.getD .blank).boundTemplate = .abort := by
  rw [runs_iff, ← runs_walk_none_iff (s := ⟨p.resource.status.getD .blank, start⟩)]
  constructor
  · rintro ⟨walked, hwalk, hnone⟩
    rwa [Option.map_eq_none_iff.mp hnone.symm] at hwalk
  · exact fun hwalk => ⟨none, hwalk, rfl⟩

/-- A pass that has an outcome has a spec that is accepted or refused. -/
theorem judge_cases {o : PassOutcome} (h : Runs (p.run start) log (some o)) :
    p.judge (p.resource.status.getD .blank).boundTemplate = .ok () ∨
      ∃ why, p.judge (p.resource.status.getD .blank).boundTemplate = .error why := by
  obtain ⟨r, s', hwalk, -⟩ := exists_walked h
  cases hjudge : p.judge (p.resource.status.getD .blank).boundTemplate with
  | ok _ => exact .inl rfl
  | error why => exact .inr ⟨why, rfl⟩
  | abort => exact absurd hjudge (judge_ne_abort hwalk)

end Pass

end ControlPlane
