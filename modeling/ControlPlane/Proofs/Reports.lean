/-
Which conditions a pass reports, and how often.

A pass comes to the conditions in their order, so it reports each of them once at most.  One
that is reported as it was told keeps its time, and it can be told as before in no other way:
if it was reported otherwise, nothing later takes that back.  `Reported` is this for a part of
a pass between two places, and the ways of a pass are put together from such parts.  So a
status that a pass leaves is the one that it started from if it is the same but for its times.
-/
import ControlPlane.Proofs.Timeless
import ControlPlane.Proofs.Told
import ControlPlane.Proofs.Ways

namespace ControlPlane

namespace Status

variable {a b c : Status} {type : ConditionType} {status : ConditionStatus} {reason : Reason}
  {message : String} {generation : Option Int} {now : Time} {m m' n n' o : Nat}

/-- Only conditions from one place on and before another may be reported anew, and of these one
that is told as before is as it was. -/
structure Reported (m n : Nat) (a b : Status) : Prop where
  apart : ∀ k, (∀ type : ConditionType, m ≤ type.place → type.place < n → type.text ≠ k) →
    b.conditions.get? k = a.conditions.get? k
  kept : ∀ type, b.told type = a.told type →
    b.conditions.get? type.text = a.conditions.get? type.text

namespace Reported

theorem of_conditions (h : b.conditions = a.conditions) : a.Reported m n b :=
  ⟨fun _ _ => by rw [h], fun _ _ => by rw [h]⟩

theorem mono (h : a.Reported m n b) (hm : m' ≤ m) (hn : n ≤ n') : a.Reported m' n' b where
  apart k hk := h.apart k fun type htype htype' => hk type (by omega) (by omega)
  kept := h.kept

theorem told_of_get? (h : b.conditions.get? type.text = a.conditions.get? type.text) :
    b.told type = a.told type := by
  unfold told
  rw [h]

/-- A condition outside of the places is untouched. -/
theorem untouched (h : a.Reported m n b) (hout : type.place < m ∨ n ≤ type.place) :
    b.conditions.get? type.text = a.conditions.get? type.text := by
  refine h.apart _ fun type' hle hlt htext => ?_
  cases ConditionType.text_injective htext
  omega

/-- Of two parts that come after one another each keeps what the other one reports. -/
theorem trans (hab : a.Reported m n b) (hbc : b.Reported n o c) (hmn : m ≤ n) (hno : n ≤ o) :
    a.Reported m o c where
  apart k hk := by
    have hlater := hbc.apart k fun type hle hlt => hk type (by omega) hlt
    have hearlier := hab.apart k fun type hle hlt => hk type hle (by omega)
    exact hlater.trans hearlier
  kept type htold := by
    by_cases hplace : type.place < n
    · have hlater := hbc.untouched (.inl hplace)
      exact hlater.trans (hab.kept type ((told_of_get? hlater).symm.trans htold))
    · have hearlier := hab.untouched (.inr (by omega) : type.place < m ∨ n ≤ type.place)
      exact (hbc.kept type (htold.trans (told_of_get? hearlier).symm)).trans hearlier

theorem report (type : ConditionType) :
    a.Reported type.place (type.place + 1) (a.report type status reason message generation now) where
  apart k hk := by
    unfold Status.report
    dsimp only
    rw [ConditionSet.get?_set, if_neg (hk type (by omega) (by omega)).symm]
  kept type' htold := by
    by_cases htype : type' = type
    · subst htype
      rw [told_report, if_pos rfl] at htold
      rw [report_of_told htold.symm]
    · unfold Status.report
      dsimp only
      rw [ConditionSet.get?_set, if_neg fun htext => htype (ConditionType.text_injective htext)]

theorem tell {l : List Report} (hrises : Rises n l) (hn : n ≤ 8) :
    a.Reported n 8 (a.tell l generation now) := by
  induction l generalizing a n with
  | nil => exact of_conditions rfl
  | cons r l ih =>
    have hplace : r.type.place < 8 := by cases r.type <;> decide
    have hfirst : a.Reported n (r.type.place + 1)
        (a.report r.type r.status r.reason r.message generation now) :=
      (report r.type).mono hrises.1 (Nat.le_refl _)
    exact hfirst.trans (ih hrises.2 hplace) (by have := hrises.1; omega) hplace

/-- What is the same but for its times is the same. -/
theorem eq_of_timeless (h : a.Reported m n b) (hsame : b.timeless = a.timeless) : b = a := by
  have htold : ∀ type, b.told type = a.told type := by
    intro type
    rw [← told_withTimes (s := b), ← told_withTimes (s := a)]
    exact congrArg (fun s : Status => s.told type) hsame
  have hget : ∀ k, b.conditions.get? k = a.conditions.get? k := by
    intro k
    by_cases hk : ∃ type : ConditionType, type.text = k
    · obtain ⟨type, rfl⟩ := hk
      exact h.kept type (htold type)
    · exact h.apart k fun type _ _ htext => hk ⟨type, htext⟩
  have hconditions : b.conditions = a.conditions := congrArg ConditionSet.mk (Table.ext hget)
  have hinitialized : b.initialized = a.initialized := congrArg (·.initialized) hsame
  have hready : b.ready = a.ready := congrArg (·.ready) hsame
  have hbound : b.boundTemplate = a.boundTemplate := congrArg (·.boundTemplate) hsame
  rw [Status.mk.injEq]
  exact ⟨hconditions, hinitialized, hready, hbound⟩

end Reported

end Status

/-! ### The ways of a pass -/

namespace Pass

open Status

variable {p : Pass} {s : Status} {log : Calls} {r : Except Stop Requeue} {s' : Standing}
  {n : Nat} {now : Time}

theorem reported_error {why : Stop} (hn : n ≤ 6) (h : why.BlamesFrom n) :
    s.Reported n 8 (p.left (.error why : Except Stop Requeue) ⟨s, now⟩) := by
  rw [left_error, reportError_eq_tell]
  exact .tell (rises_errorReports hn h) (by omega)

theorem reported_blamed {type : ConditionType} {reason : Reason} {error : ControllerError}
    {requeue : Requeue} (h : n ≤ type.place ∧ type.place < 6) :
    s.Reported n 8
      (p.left (.error ⟨error, some (type, reason), requeue⟩ : Except Stop Requeue) ⟨s, now⟩) :=
  reported_error (by omega) (Stop.blamesFrom_blamed h)

theorem reported_waiting {type : ConditionType} {reason : Reason} {message : String}
    (h : n ≤ type.place ∧ type.place < 6) :
    s.Reported n 8 (p.waiting type reason message s now) :=
  .tell (rises_waitReports h.1 h.2) (by omega)

theorem reported_concluded (hn : n ≤ 6) : s.Reported n 8 (p.concluded s now) :=
  (Reported.tell rises_endReports (by decide)).mono hn (Nat.le_refl 8)

/-- A signal is taken, and then only later conditions are reported. -/
theorem reported_signalled (signal : Signal) {latched after : Status}
    (h : (p.signalled signal latched now).Reported (signal.condition.place + 1) 8 after)
    (hlatch : latched.conditions = s.conditions) :
    s.Reported signal.condition.place 8 after := by
  have hplace : signal.condition.place + 1 ≤ 8 := by cases signal <;> decide
  have htaken : s.Reported signal.condition.place (signal.condition.place + 1)
      (p.signalled signal latched now) :=
    (Reported.of_conditions hlatch).trans (.report _) (Nat.le_refl _) (Nat.le_succ _)
  exact htaken.trans h (Nat.le_succ _) hplace

theorem reported_of_tearsDown (h : p.TearsDown s log r s') : s.Reported 5 8 (p.left r s') := by
  cases h with
  | unasked => exact reported_blamed (by decide)
  | unknown => exact reported_blamed (by decide)
  | remains => exact reported_waiting (by decide)
  | gone =>
    exact reported_signalled .bootstrapMachineDeleted (reported_concluded (Nat.le_refl 6)) rfl

theorem reported_of_completes (h : p.Completes s log r s') : s.Reported 4 8 (p.left r s') := by
  cases h with
  | known _ hrest => exact (reported_of_tearsDown hrest).mono (by decide) (Nat.le_refl 8)
  | unknown => exact reported_blamed (by decide)
  | unfinished => exact reported_waiting (by decide)
  | finished hrest =>
    exact reported_signalled .bootstrapCompleted (reported_of_tearsDown hrest) rfl

theorem reported_of_joins (h : p.Joins s log r s') : s.Reported 3 8 (p.left r s') := by
  cases h with
  | unknown => exact reported_blamed (by decide)
  | absent => exact reported_waiting (by decide)
  | joined hrest =>
    exact reported_signalled .controlPlaneJoined (reported_of_completes hrest) rfl

theorem reported_of_hands {bootSecret : String} (h : p.Hands bootSecret s log r s') :
    s.Reported 2 8 (p.left r s') := by
  cases h with
  | unmade => exact reported_error (by decide) blamesFrom_provisioningStop
  | @made now _ _ _ hrest =>
    have hmade : s.Reported 2 3 (p.requested s now) := .report .machinesProvisioned
    exact hmade.trans (reported_of_joins hrest) (by decide) (by decide)

theorem reported_bound {install : InstallState} : s.Reported 0 1 (p.bound install s now) := by
  have hbind : (s.bind p.resource.spec.template).conditions = s.conditions := by
    unfold Status.bind
    cases s.boundTemplate <;> rfl
  have hbound : s.Reported 0 0 (s.bind p.resource.spec.template) := .of_conditions hbind
  exact hbound.trans (.report .templateBound) (Nat.le_refl 0) (by decide)

theorem reported_of_stumbles {why : Stop} (h : p.Stumbles s log why s') :
    s.Reported 0 8 (p.left (.error why : Except Stop Requeue) s') := by
  cases h with
  | unanswered => exact reported_blamed (by decide)
  | absent => exact reported_blamed (by decide)
  | useless => exact reported_blamed (by decide)
  | unlisted => exact reported_bound.trans (reported_blamed (by decide)) (by decide) (by decide)
  | invalid => exact reported_bound.trans (reported_blamed (by decide)) (by decide) (by decide)

theorem reported_of_gathers {install : InstallState} {manifests : Table String Bytes}
    {status : Status} (h : p.Gathers s log install manifests status) :
    s.Reported 0 2 status := by
  have hresolved : ∀ {bound : Status} {reason : Reason} {message : String} {now : Time},
      bound.Reported 1 2 (p.resolved reason message bound now) := .report .manifestsResolved
  cases h with
  | defaults => exact reported_bound.trans hresolved (by decide) (by decide)
  | listed => exact reported_bound.trans hresolved (by decide) (by decide)

theorem reported_of_provisions (h : p.Provisions s log r s') : s.Reported 0 8 (p.left r s') := by
  cases h with
  | stumbled h => exact reported_of_stumbles h
  | unconfigured h _ =>
    exact (reported_of_gathers h).trans
      (reported_error (by decide) blamesFrom_provisioningStop) (by decide) (by decide)
  | configured h hrest =>
    exact (reported_of_gathers h).trans (reported_of_hands hrest) (by decide) (by decide)

/-- **A pass reports each condition once at most**, whichever way it goes. -/
theorem reported_of_goes {before : Standing} (h : p.Goes before log r s') :
    before.status.Reported 0 8 (p.left r s') := by
  cases h with
  | refused hwhy => exact reported_error (by decide) (blamesFrom_of_refusal hwhy)
  | ready => exact reported_concluded (by decide)
  | initialized _ hrest => exact (reported_of_completes hrest).mono (by decide) (Nat.le_refl 8)
  | fresh _ _ hrest => exact reported_of_provisions hrest

end Pass

end ControlPlane
