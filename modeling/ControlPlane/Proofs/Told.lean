/-
What a status tells, its times apart.

`told` is what a status says of one condition: all of it but the moment since when it says
so.  Whatever a pass writes is a list of reports, one for each of a few conditions.  Such a
list decides what is told of its own conditions and leaves the others, and it adds nothing,
not even a time, to a status that tells all of it already (`tell_of_told`).  So a status
with other times, which is all that a store may change, is in no need of the reports that
made it.
-/
import ControlPlane.Proofs.Pass

namespace ControlPlane

/-- When a walk comes to a condition.  Two conditions tell of the control plane as a whole,
and these are written last. -/
def ConditionType.place : ConditionType → Nat
  | .templateBound => 0
  | .manifestsResolved => 1
  | .machinesProvisioned => 2
  | .controlPlaneInitialized => 3
  | .bootstrapComplete => 4
  | .ready => 5
  | .progressing => 6
  | .degraded => 7

/-- The stop is blamed on a step that comes at this place or later, if on any. -/
def Stop.BlamesFrom (why : Stop) (n : Nat) : Prop :=
  ∀ blame, why.step = some blame → n ≤ blame.1.place ∧ blame.1.place < 6

theorem Stop.blamesFrom_blamed {error : ControllerError} {type : ConditionType} {reason : Reason}
    {requeue : Requeue} {n : Nat} (h : n ≤ type.place ∧ type.place < 6) :
    (⟨error, some (type, reason), requeue⟩ : Stop).BlamesFrom n := by
  intro blame hblame
  cases hblame
  exact h

/-- What is reported of one condition. -/
structure Report where
  type : ConditionType
  status : ConditionStatus
  reason : Reason
  message : String

/-- What a report says of its condition. -/
def Report.saying (r : Report) (generation : Option Int) :
    String × String × String × Option Int :=
  (r.status.text, r.reason.text, r.message, generation)

namespace Status

variable {s a b c z : Status} {type type' : ConditionType} {status : ConditionStatus}
  {reason : Reason} {message : String} {generation : Option Int} {now now' : Time}

/-- What is told of a condition, if anything: the status, the reason, the message and the
generation, and not the time. -/
def told (s : Status) (type : ConditionType) : Option (String × String × String × Option Int) :=
  (s.conditions.get? type.text).map fun o => (o.status, o.reason, o.message, o.generation)

/-! ### One report -/

theorem told_report :
    (s.report type status reason message generation now).told type' =
      if type' = type then some (status.text, reason.text, message, generation)
      else s.told type' := by
  unfold told report
  dsimp only
  rw [ConditionSet.get?_set]
  by_cases h : type' = type
  · rw [if_pos (congrArg ConditionType.text h), if_pos h]
    rfl
  · rw [if_neg (fun ht => h (ConditionType.text_injective ht)), if_neg h]

/-- A report of what is told already changes nothing: the time goes with the status, and
that stays. -/
theorem report_of_told (h : s.told type = some (status.text, reason.text, message, generation)) :
    s.report type status reason message generation now = s := by
  obtain ⟨o, hget, hsaid⟩ := Option.map_eq_some_iff.mp h
  have hsame : ConditionSet.refreshed (some o) status reason.text message generation now = o := by
    obtain ⟨hstatus, hreason, hmessage, hgeneration⟩ := by simpa using hsaid
    simp [ConditionSet.refreshed, ← hstatus, ← hreason, ← hmessage, ← hgeneration]
  have hset : s.conditions.set type.text status reason.text message generation now =
      s.conditions := by
    refine congrArg ConditionSet.mk (Table.ext fun k => ?_)
    rw [Table.get?_insert, hget, hsame]
    split
    · rename_i hk
      rw [hk]
      exact hget.symm
    · rfl
  unfold report
  rw [hset]

/-- Whether a condition is true is told. -/
theorem isTrue_of_told (h : b.told type = a.told type) : b.isTrue type = a.isTrue type := by
  have hread : ∀ s : Status, s.isTrue type =
      ((s.told type).map (·.1) == some (ConditionStatus.text .holds)) := by
    intro s
    unfold isTrue ConditionSet.isTrue ConditionSet.hasStatus told
    cases s.conditions.get? type.text with
    | none => rfl
    | some o => simp [Bool.beq_eq_decide_eq]
  rw [hread, hread, h]

@[simp] theorem told_withTimes {f : Time → Time} : (s.withTimes f).told type = s.told type := by
  unfold told ConditionSet.get? withTimes
  dsimp only
  rw [Table.get?_map]
  cases s.conditions.byType.get? type.text <;> rfl

/-! ### Reports of several conditions -/

/-- The reports are in the order of their conditions, from a place on. -/
def Rises (n : Nat) : List Report → Prop
  | [] => True
  | r :: l => n ≤ r.type.place ∧ Rises (r.type.place + 1) l

theorem Rises.le_place {n : Nat} {l : List Report} (h : Rises n l) {r : Report} (hr : r ∈ l) :
    n ≤ r.type.place := by
  induction l generalizing n with
  | nil => cases hr
  | cons first l ih =>
    obtain ⟨hfirst, hrest⟩ := h
    rcases List.mem_cons.mp hr with rfl | hr
    · exact hfirst
    · exact Nat.le_trans hfirst (Nat.le_of_succ_le (ih hrest hr))

/-- Writes some conditions, one after the other. -/
def tell (s : Status) (l : List Report) (generation : Option Int) (now : Time) : Status :=
  l.foldl (fun s r => s.report r.type r.status r.reason r.message generation now) s

variable {l : List Report}

@[simp] theorem tell_nil : s.tell [] generation now = s := rfl

@[simp] theorem tell_cons {r : Report} : s.tell (r :: l) generation now =
    (s.report r.type r.status r.reason r.message generation now).tell l generation now := rfl

@[simp] theorem tell_boundTemplate : (s.tell l generation now).boundTemplate = s.boundTemplate := by
  induction l generalizing s with
  | nil => rfl
  | cons r l ih => exact ih

/-- What is not reported stays as it was told. -/
theorem told_tell_of_not_mem (h : ∀ r ∈ l, r.type ≠ type) :
    (s.tell l generation now).told type = s.told type := by
  induction l generalizing s with
  | nil => rfl
  | cons r l ih =>
    obtain ⟨hr, hl⟩ := List.forall_mem_cons.mp h
    rw [tell_cons, ih hl, told_report, if_neg hr.symm]

/-- What is reported in order is told in the end, since no later report is of the same
condition. -/
theorem told_tell {r : Report} {n : Nat} (hrises : Rises n l) (h : r ∈ l) :
    (s.tell l generation now).told r.type = some (r.saying generation) := by
  induction l generalizing s n with
  | nil => cases h
  | cons first l ih =>
    rcases List.mem_cons.mp h with rfl | h
    · have hnot : ∀ later ∈ l, later.type ≠ r.type := by
        intro later hlater hsame
        have hplace := hrises.2.le_place hlater
        rw [hsame] at hplace
        omega
      rw [tell_cons, told_tell_of_not_mem hnot, told_report, if_pos rfl]
      rfl
    · exact ih hrises.2 h

/-- To a status that tells all of them the reports add nothing. -/
theorem tell_of_told (h : ∀ r ∈ l, s.told r.type = some (r.saying generation)) :
    s.tell l generation now = s := by
  induction l with
  | nil => rfl
  | cons r l ih =>
    obtain ⟨hr, hl⟩ := List.forall_mem_cons.mp h
    have hsame : s.report r.type r.status r.reason r.message generation now = s :=
      report_of_told hr
    rw [tell_cons, hsame, ih hl]

/-! ### The same but for the times -/

/-- Two statuses are the same, their times apart. -/
structure Same (a b : Status) : Prop where
  initialized : b.initialized = a.initialized
  ready : b.ready = a.ready
  boundTemplate : b.boundTemplate = a.boundTemplate
  told : ∀ type, b.told type = a.told type

theorem Same.refl : s.Same s := ⟨rfl, rfl, rfl, fun _ => rfl⟩

theorem same_withTimes {f : Time → Time} : s.Same (s.withTimes f) :=
  ⟨rfl, rfl, rfl, fun _ => told_withTimes⟩

theorem Same.isTrue (h : a.Same b) : b.isTrue type = a.isTrue type := isTrue_of_told (h.told type)

/-- What made a status does not change it, nor what is the same as it. -/
theorem Same.tell {n : Nat} (h : (s.tell l generation now).Same z) (hrises : Rises n l) :
    z.tell l generation now' = z :=
  tell_of_told fun r hr => (h.told r.type).trans (told_tell hrises hr)

/-! ### What a pass reports -/

/-- The reports of an error. -/
def errorReports (step : Option (ConditionType × Reason)) (error : ControllerError) :
    List Report :=
  (match step with
    | some (type, reason) => [⟨type, .fails, reason, error.message⟩]
    | none => []) ++
  match error.errorClass with
  | .failure => [⟨.degraded, .holds, .ofError error, error.message⟩]
  | .transient =>
    [⟨.progressing, .holds, .ofError error, error.message⟩, ⟨.degraded, .fails, .asExpected, ""⟩]

theorem reportError_eq_tell {step : Option (ConditionType × Reason)} {error : ControllerError} :
    s.reportError step error generation now = s.tell (errorReports step error) generation now := by
  unfold reportError errorReports
  cases step <;> cases error.errorClass <;> rfl

/-- The reports of a wait. -/
def waitReports (type : ConditionType) (reason : Reason) (message : String) : List Report :=
  [⟨type, .fails, reason, message⟩, ⟨.progressing, .holds, reason, message⟩,
    ⟨.degraded, .fails, .asExpected, ""⟩]

/-- The reports of a pass that has nothing left to do. -/
def endReports : List Report :=
  [⟨.progressing, .fails, .asExpected, "control plane is ready"⟩,
    ⟨.degraded, .fails, .asExpected, ""⟩]

theorem rises_errorReports {why : Stop} {n : Nat} (hn : n ≤ 6) (h : why.BlamesFrom n) :
    Rises n (errorReports why.step why.error) := by
  unfold errorReports
  cases hstep : why.step with
  | none =>
    cases why.error.errorClass with
    | failure => exact ⟨Nat.le_succ_of_le hn, trivial⟩
    | transient => exact ⟨hn, Nat.le_refl 7, trivial⟩
  | some blame =>
    obtain ⟨hfrom, hplace⟩ := h blame hstep
    cases why.error.errorClass with
    | failure => exact ⟨hfrom, Nat.le_succ_of_le hplace, trivial⟩
    | transient => exact ⟨hfrom, hplace, Nat.le_refl 7, trivial⟩

theorem rises_waitReports {n : Nat} (hfrom : n ≤ type.place) (hplace : type.place < 6) :
    Rises n (waitReports type reason message) :=
  ⟨hfrom, hplace, Nat.le_refl 7, trivial⟩

theorem rises_endReports : Rises 6 endReports := ⟨Nat.le_refl 6, Nat.le_refl 7, trivial⟩

end Status

namespace Pass

variable {p : Pass} {s : Status} {now : Time}

theorem waiting_eq_tell {type : ConditionType} {reason : Reason} {message : String} :
    p.waiting type reason message s now =
      s.tell (Status.waitReports type reason message) p.generation now := rfl

theorem concluded_eq_tell : p.concluded s now = s.tell Status.endReports p.generation now := rfl

/-! ### What a pass blames -/

theorem blamesFrom_provisioningStop {e : ControllerError} :
    (provisioningStop s e).BlamesFrom 2 := by
  unfold provisioningStop
  split
  · exact nofun
  · exact Stop.blamesFrom_blamed (by decide)

theorem blamesFrom_of_refusal {bound : Option MachineTemplate} {why : Stop}
    (h : p.judge bound = .error why) : why.BlamesFrom 0 := by
  intro blame hblame
  rw [(unbound_of_refusal h hblame).1]
  exact ⟨Nat.zero_le _, by decide⟩

end Pass

end ControlPlane
