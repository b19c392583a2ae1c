/-
Progress that is never lost.

How far a bootstrap has come is read off the latches, the bound template and two
conditions, those of the machines and of the end of the bootstrap.  The latches and the
template last by what `Follows` says.  The two conditions are written by steps that fail or
wait as well, and they last since such a step makes one of them false only where it is not
true yet: `Retains` is what every step keeps, the report of its failure included.

`Advances` puts both together, and the phases follow it.
-/
import ControlPlane.Proofs.History
import ControlPlane.Proofs.Moves

namespace ControlPlane

/-! ### The phases in order -/

namespace Phase

/-- The phases that a bootstrap goes through, in their order. -/
def course : List Phase :=
  [.pending, .templateBound, .provisioning, .initialized, .bootstrapComplete, .ready]

/-- The place of a phase on the way. -/
def rank (phase : Phase) : Nat := course.idxOf phase

/-- The phase of a resource's status, whether or not it is degraded. -/
def underlying : Option Status → Phase
  | none => .pending
  | some s => progress s

theorem underlying_eq {stored : Option Status} : underlying stored = progress (stored.getD .blank) := by
  cases stored <;> rfl

/-- However far a bootstrap has come, it is on its way. -/
theorem progress_mem_course {s : Status} : progress s ∈ course := by
  unfold progress
  repeat' split
  all_goals decide

theorem underlying_mem_course {stored : Option Status} : underlying stored ∈ course := by
  rw [underlying_eq]
  exact progress_mem_course

/-- What is observed is the phase on the way, unless the control plane is degraded. -/
theorem observe_eq_or_degraded {stored : Option Status} :
    observe stored = underlying stored ∨ observe stored = .degraded := by
  cases stored with
  | none => exact Or.inl rfl
  | some s =>
    show ofStatus s = progress s ∨ ofStatus s = .degraded
    unfold ofStatus
    split
    · exact Or.inr rfl
    · exact Or.inl rfl

end Phase

namespace Status

/-- The later status has all that tells of progress in the earlier one. -/
structure Advances (before after : Status) : Prop where
  bound : before.boundTemplate.isSome = true → after.boundTemplate.isSome = true
  provisioned : before.isTrue .machinesProvisioned = true →
    after.isTrue .machinesProvisioned = true
  initialized : before.initialized = true → after.initialized = true
  complete : before.isTrue .bootstrapComplete = true → after.isTrue .bootstrapComplete = true
  ready : before.ready = true → after.ready = true

namespace Advances

variable {a b c : Status}

theorem refl : a.Advances a := ⟨id, id, id, id, id⟩

theorem trans (hab : a.Advances b) (hbc : b.Advances c) : a.Advances c where
  bound h := hbc.bound (hab.bound h)
  provisioned h := hbc.provisioned (hab.provisioned h)
  initialized h := hbc.initialized (hab.initialized h)
  complete h := hbc.complete (hab.complete h)
  ready h := hbc.ready (hab.ready h)

theorem withTimes {f : Time → Time} (h : a.Advances b) : a.Advances (b.withTimes f) where
  bound := h.bound
  provisioned := by simpa using h.provisioned
  initialized := h.initialized
  complete := by simpa using h.complete
  ready := h.ready

/-- The phase of a status that has advanced comes no earlier.  What the earlier phase was
read off is there in the later status too, so that one is read off no less. -/
theorem rank_le (h : a.Advances b) : (Phase.progress a).rank ≤ (Phase.progress b).rank := by
  rw [Phase.progress]
  split
  · rename_i hready
    simp [Phase.progress, h.ready hready]
  split
  · rename_i hboth
    have hinit : a.initialized = true ∧ a.isTrue .bootstrapComplete = true := by simpa using hboth
    simp only [Phase.progress, h.initialized hinit.1, h.complete hinit.2, Bool.and_self, if_true]
    split <;> decide
  split
  · rename_i hinit
    simp only [Phase.progress, h.initialized hinit, if_true]
    repeat' split
    all_goals decide
  split
  · rename_i hprovisioned
    simp only [Phase.progress, h.provisioned hprovisioned, if_true]
    repeat' split
    all_goals decide
  split
  · rename_i hbound
    simp only [Phase.progress, h.bound hbound, if_true]
    repeat' split
    all_goals decide
  · exact Nat.zero_le _

end Advances

end Status

/-! ### The conditions that last -/

/-- The conditions that tell of progress. -/
def ConditionType.Lasts (type : ConditionType) : Prop :=
  type = .machinesProvisioned ∨ type = .bootstrapComplete

theorem ConditionType.Lasts.ne_progressing {type : ConditionType} (h : type.Lasts) :
    type ≠ .progressing := by
  rintro rfl
  rcases h with h | h <;> cases h

theorem ConditionType.Lasts.ne_degraded {type : ConditionType} (h : type.Lasts) :
    type ≠ .degraded := by
  rintro rfl
  rcases h with h | h <;> cases h

/-- What tells of progress is not looked for again once it has been seen. -/
theorem ConditionType.Lasts.ne_condition {type : ConditionType} {s : Status} {signal : Signal}
    (h : type.Lasts) (hawaits : s.Awaits signal) (htrue : s.isTrue type = true) :
    type ≠ signal.condition := by
  rintro rfl
  cases signal with
  | controlPlaneJoined => rcases h with h | h <;> cases h
  | bootstrapCompleted =>
    have hopen : s.isTrue .bootstrapComplete = false := hawaits.2
    rw [Signal.condition, hopen] at htrue
    cases htrue
  | bootstrapMachineDeleted => rcases h with h | h <;> cases h

namespace Status

/-- The conditions that tell of progress stay true, whatever is called. -/
def Retains (before : Status) (_ : Calls) (after : Status) : Prop :=
  ∀ type : ConditionType, type.Lasts → before.isTrue type = true → after.isTrue type = true

namespace Retains

variable {a b c : Status} {l m : Calls}

theorem trans (hab : a.Retains l b) (hbc : b.Retains m c) : a.Retains (l ++ m) c :=
  fun type hlasts h => hbc type hlasts (hab type hlasts h)

theorem of_prepares (h : a.Prepares l b) : a.Retains l b := by
  rintro type (rfl | rfl) htrue
  · exact h.provisioned htrue
  · exact h.complete.trans htrue

/-- No move takes a condition back that tells of progress.  What a move blames or waits for
either tells of none, or has not been seen by then. -/
theorem of_move {p : Pass} (h : p.Move a l b) : a.Retains l b := by
  intro type hlasts htrue
  cases h with
  | prepared _ h => exact of_prepares h type hlasts htrue
  | refused hrefused =>
    refine (isTrue_reportError (fun reason hstep => ?_) hlasts.ne_progressing
      hlasts.ne_degraded).trans htrue
    have hblamed : type = .templateBound := (Pass.unbound_of_refusal hrefused hstep).1
    subst hblamed
    rcases hlasts with h | h <;> cases h
  | seen signal reply hawaits hlatch htold =>
    rw [Pass.isTrue_signalled (conditions_of_latch hlatch), htrue, ite_self]
  | unseen signal hawaits htold =>
    rw [Pass.isTrue_waiting hlasts.ne_progressing hlasts.ne_degraded, if_neg, htrue]
    exact hlasts.ne_condition hawaits htrue
  | failed signal hawaits he =>
    refine (isTrue_reportError (fun reason hstep => ?_) hlasts.ne_progressing
      hlasts.ne_degraded).trans htrue
    cases hstep
    exact hlasts.ne_condition hawaits htrue rfl
  | asked hawaits => exact htrue
  | refusedDeletion hawaits =>
    refine (isTrue_reportError (fun reason hstep => ?_) hlasts.ne_progressing
      hlasts.ne_degraded).trans htrue
    cases hstep
    rcases hlasts with h | h <;> cases h
  | concluded =>
    rw [Pass.isTrue_concluded hlasts.ne_progressing hlasts.ne_degraded]
    exact htrue

end Retains

end Status

namespace Pass

open Status

variable {p : Pass} {s : Standing}

/-- What a pass has to say tells of no less progress than what it was handed. -/
theorem advances_outcome {log : Calls} {walked : Except Stop Requeue × Standing}
    (hwalk : Program.Runs (p.walk s) log (some walked)) :
    s.status.Advances (p.outcome walked).status := by
  have hfollows := follows_outcome hwalk
  have hretains : s.status.Retains log (p.outcome walked).status :=
    carries_outcome (R := Retains) Retains.trans Retains.of_move hwalk
  constructor
  case bound =>
    intro h
    obtain ⟨t, ht⟩ := Option.isSome_iff_exists.mp h
    rw [hfollows.boundTemplate t ht]
    rfl
  case provisioned => exact hretains _ (.inl rfl)
  case initialized =>
    intro h
    rw [hfollows.initialized, h, Bool.true_or]
  case complete => exact hretains _ (.inr rfl)
  case ready =>
    intro h
    rw [hfollows.ready, h, Bool.true_or]

end Pass

/-! ### The history -/

theorem Turn.advances_of_leaves {t : Turn} {ns : String} {after : Option Status}
    (hns : t.resource.metadata.ns = some ns) (hafter : t.Leaves after) :
    (t.resource.status.getD .blank).Advances (after.getD .blank) := by
  cases hafter with
  | kept hwrites => exact .refl
  | stored hw f =>
    obtain ⟨-, -, -, -, walked, hwalk, hstatus⟩ := Controller.of_mem_writes hns t.runs hw
    rw [Option.getD_some, hstatus]
    exact (Pass.advances_outcome hwalk).withTimes

namespace History

variable {ns name : String} {before after : Option Status} {turns : List Turn}

theorem advances (h : History ns name before turns after) :
    (before.getD .blank).Advances (after.getD .blank) := by
  induction h with
  | start => exact .refl
  | turn earlier hns hname hstored hafter ih =>
    rw [← hstored] at ih
    exact ih.trans (Turn.advances_of_leaves hns hafter)

/-- **Progress is never lost.**  Whatever status is stored, any number of reconciliations,
with any changes of the spec between them, any answers of the collaborators and any
failures to write, store only statuses whose phase comes no earlier on the way, and what
is observed of them is that phase, or that the control plane is degraded. -/
theorem never_falls_back (h : History ns name before turns after) :
    (Phase.underlying before).rank ≤ (Phase.underlying after).rank ∧
      Phase.underlying after ∈ Phase.course ∧
      (Phase.observe after = Phase.underlying after ∨ Phase.observe after = .degraded) := by
  refine ⟨?_, Phase.underlying_mem_course, Phase.observe_eq_or_degraded⟩
  rw [Phase.underlying_eq, Phase.underlying_eq]
  exact h.advances.rank_le

/-- The first turn asks for the machines, and the second one finds no secret any more. -/
theorem never_falls_back_demo :
    ∃ s s', History "clusters" "demo" none
        [demoTurn none Demo.world, demoTurn (some s) Demo.emptyWorld] (some s') ∧
      Phase.underlying (some s) = .provisioning ∧
      Phase.rank .provisioning ≤ (Phase.underlying (some s')).rank := by
  have hfirst : (Demo.written none Demo.world).map (fun s => Phase.progress (s.withTimes id)) =
      some .provisioning := by decide +kernel
  have hsecond : ((Demo.written none Demo.world).bind fun s =>
      Demo.written (some (s.withTimes id)) Demo.emptyWorld).isSome = true := by decide +kernel
  obtain ⟨s, hs, hphase⟩ := Option.map_eq_some_iff.mp hfirst
  rw [hs, Option.bind_some] at hsecond
  obtain ⟨s', hs'⟩ := Option.isSome_iff_exists.mp hsecond
  have hone : History "clusters" "demo" none [demoTurn none Demo.world] (some (s.withTimes id)) :=
    .turn .start rfl rfl rfl (demoTurn_leaves hs)
  have hleaves := demoTurn_leaves hs'
  have hlater : History "clusters" "demo" (some (s.withTimes id))
      [demoTurn (some (s.withTimes id)) Demo.emptyWorld] (some (s'.withTimes id)) :=
    .turn .start rfl rfl rfl hleaves
  have hrank := (never_falls_back hlater).1
  have hunderlying : Phase.underlying (some (s.withTimes id)) = .provisioning := hphase
  rw [hunderlying] at hrank
  exact ⟨_, _, .turn hone rfl rfl rfl hleaves, hunderlying, hrank⟩

end History

end ControlPlane
