/-
What a pass leaves as it was.

A pass that is refused calls nobody and tells of it in one condition, or in two while no
template is bound.  A pass over a control plane that is ready calls nobody either.  Any other
pass that stops does so at one step: the steps before it that it has taken are true, the step
itself is not, and nothing that comes later is touched.  All of this is read off the entries
that a pass has made.
-/
import ControlPlane.Proofs.Requeue
import ControlPlane.Proofs.Stops

namespace ControlPlane

open Program (Runs)

namespace Demo

/-- A pass over the example resource with the name of some secret in its spec and a status. -/
def passOn (secret : String) (status : Option Status) : Pass :=
  let pass := pass secret
  { pass with resource := { pass.resource with status } }

/-- The status once the machines have been asked for. -/
def provisioned : Status :=
  ((((passOn "demo-install" none).run ⟨0, 0⟩).run answerCall world).1.map (·.status)).getD .blank

/-- The same with both latches set. -/
def finished : Status := { provisioned with initialized := true, ready := true }

end Demo

/-- A status is the same but for some conditions. -/
structure Status.SameBut (changed : String → Prop) (a b : Status) : Prop where
  initialized : b.initialized = a.initialized
  ready : b.ready = a.ready
  boundTemplate : b.boundTemplate = a.boundTemplate
  conditions : ∀ key, ¬changed key → b.conditions.get? key = a.conditions.get? key

namespace Status

variable {s : Status} {l : List Report} {generation : Option Int} {now : Time} {key : String}

/-- Reports change the conditions that they are of and nothing else. -/
theorem sameBut_tell {changed : String → Prop} (h : ∀ r ∈ l, changed r.type.text) :
    s.SameBut changed (s.tell l generation now) where
  initialized := tell_initialized
  ready := tell_ready
  boundTemplate := tell_boundTemplate
  conditions key hkey := by
    rw [conditions_tell]
    refine ConditionSet.get?_enter_of_not_mem ?_
    rintro e he rfl
    obtain ⟨r, hr, rfl⟩ := List.mem_map.mp he
    exact hkey (h r hr)

/-- An error is told in the condition of the step that is blamed, and in two more. -/
theorem type_of_mem_errorReports {step : Option (ConditionType × Reason)} {error : ControllerError}
    {r : Report} (h : r ∈ errorReports step error) :
    (step.map (·.1) = some r.type ∧ r.status = .fails) ∨
      (r.type = .progressing ∧ error.errorClass = .transient) ∨ r.type = .degraded := by
  unfold errorReports at h
  rcases List.mem_append.mp h with h | h
  · cases step with
    | none => cases h
    | some blame =>
      cases List.mem_singleton.mp h
      exact .inl ⟨rfl, rfl⟩
  · cases hclass : error.errorClass with
    | failure =>
      rw [hclass] at h
      cases List.mem_singleton.mp h
      exact .inr (.inr rfl)
    | transient =>
      rw [hclass] at h
      simp only [List.mem_cons, List.not_mem_nil, or_false] at h
      rcases h with rfl | rfl
      · exact .inr (.inl ⟨rfl, rfl⟩)
      · exact .inr (.inr rfl)

end Status

namespace Pass

variable {p : Pass} {log : Calls} {start : Time} {o : PassOutcome}

/-! ### Passes that call nobody -/

/-- A control plane that is ready and whose spec is accepted has nothing left to do. -/
theorem ends_walk_of_finished {before : Standing}
    (haccepted : p.judge before.status.boundTemplate = .ok ())
    (hready : before.status.ready = true) : p.walk.Ends before fun log r s' =>
      log = [] ∧ r = .ok .awaitChange ∧
        s' = ⟨p.concluded before.status before.now, before.now⟩ := by
  refine ends_walk ?refused ?ready ?initialized ?waiting
  case refused =>
    intro why hwhy
    rw [haccepted] at hwhy
    cases hwhy
  case ready =>
    intro _
    exact ends_conclude.mpr ⟨rfl, rfl, rfl⟩
  case initialized =>
    intro hunready
    rw [hready] at hunready
    cases hunready
  case waiting =>
    intro _ hunready
    rw [hready] at hunready
    cases hunready

/-- A pass over a spec that is refused. -/
theorem left_of_refusal {why : Stop}
    (h : p.judge (p.resource.status.getD .blank).boundTemplate = .error why)
    (hrun : Runs (p.run start) log (some o)) :
    log = [] ∧ (p.resource.status.getD .blank).SameBut (fun key =>
      key = ConditionType.text .degraded ∨ (key = ConditionType.text .templateBound ∧
        (p.resource.status.getD .blank).boundTemplate = none)) o.status := by
  obtain ⟨rfl, rfl⟩ := outcome_of_refusal h hrun
  obtain ⟨-, hclass⟩ := refusal_waits h
  refine ⟨rfl, ?_⟩
  dsimp only [outcome]
  rw [Status.reportError_eq_tell]
  refine Status.sameBut_tell fun r hr => ?_
  rcases Status.type_of_mem_errorReports hr with ⟨hstep, -⟩ | ⟨-, htransient⟩ | hdegraded
  · obtain ⟨blame, hblame, hr⟩ := Option.map_eq_some_iff.mp hstep
    obtain ⟨htype, hunbound⟩ := unbound_of_refusal h hblame
    exact .inr ⟨by rw [← hr, htype], hunbound⟩
  · rw [hclass] at htransient
    cases htransient
  · exact .inl (congrArg _ hdegraded)

/-- A pass over a control plane that is ready. -/
theorem left_of_finished
    (haccepted : p.judge (p.resource.status.getD .blank).boundTemplate = .ok ())
    (hready : (p.resource.status.getD .blank).ready = true)
    (hrun : Runs (p.run start) log (some o)) :
    log = [] ∧ (p.resource.status.getD .blank).SameBut (fun key =>
      key = ConditionType.text .progressing ∨ key = ConditionType.text .degraded) o.status := by
  obtain ⟨r, s', hwalk, rfl⟩ := exists_walked hrun
  obtain ⟨rfl, rfl, rfl⟩ := ends_walk_of_finished haccepted hready log r s' hwalk
  refine ⟨rfl, ?_⟩
  dsimp only [outcome]
  rw [concluded_eq_tell]
  refine Status.sameBut_tell fun r hr => ?_
  simp only [Status.endReports, List.mem_cons, List.not_mem_nil, or_false] at hr
  rcases hr with rfl | rfl
  · exact .inl rfl
  · exact .inr rfl

/-- **A refused or finished resource is left alone.**  Whatever status is stored, a pass over a
spec that breaks a rule or changes the template that is bound calls nobody.  It leaves both
latches, the bound template and all conditions as they were, but for what is told of the
degradation, and of the template while none is bound.  A pass over an accepted spec of a control
plane that is ready calls nobody either, and it changes only what is told of the progress and of
the degradation. -/
theorem left_alone (hrun : Runs (p.run start) log (some o)) :
    (specErrors p.resource.spec p.ns ≠ some [] ∨
        (∃ e, checkTemplateUpdate p.resource.acceptedTemplate p.resource.spec.template = .error e) →
      log = [] ∧ (p.resource.status.getD .blank).SameBut (fun key =>
        key = ConditionType.text .degraded ∨
          (key = ConditionType.text .templateBound ∧
            (p.resource.status.getD .blank).boundTemplate = none)) o.status) ∧
    (specErrors p.resource.spec p.ns = some [] →
      checkTemplateUpdate p.resource.acceptedTemplate p.resource.spec.template = .ok () →
      (p.resource.status.getD .blank).ready = true →
      log = [] ∧ (p.resource.status.getD .blank).SameBut (fun key =>
        key = ConditionType.text .progressing ∨ key = ConditionType.text .degraded) o.status) := by
  refine ⟨fun hrefused => ?_, fun hspec htemplate hready =>
    left_of_finished (accepted_iff.mpr ⟨hspec, htemplate⟩) hready hrun⟩
  rcases judge_cases hrun with haccepted | ⟨why, hwhy⟩
  · obtain ⟨hspec, htemplate⟩ := accepted_iff.mp haccepted
    rcases hrefused with herrors | ⟨e, he⟩
    · exact absurd hspec herrors
    · rw [htemplate] at he
      cases he
  · exact left_of_refusal hwhy hrun

/-- Once the template is bound, a spec without the name of a secret leaves it reported as bound,
and over a control plane that is ready the report of the machines stays. -/
theorem left_alone_demo :
    (∃ log o, Runs ((Demo.passOn "" (some Demo.provisioned)).run ⟨0, 0⟩) log (some o) ∧ log = [] ∧
      Demo.provisioned.isTrue .templateBound = true ∧
      o.status.conditions.get? "TemplateBound" =
        Demo.provisioned.conditions.get? "TemplateBound") ∧
    ∃ log o, Runs ((Demo.passOn "demo-install" (some Demo.finished)).run ⟨0, 0⟩) log (some o) ∧
      log = [] ∧ Demo.finished.isTrue .machinesProvisioned = true ∧
      o.status.conditions.get? "MachinesProvisioned" =
        Demo.finished.conditions.get? "MachinesProvisioned" := by
  obtain ⟨o, hrefused, -⟩ := Demo.exists_outcome (p := Demo.passOn "" (some Demo.provisioned))
    (w := Demo.world) (fun _ => True) (by decide +kernel)
  obtain ⟨o', hfinished, -⟩ :=
    Demo.exists_outcome (p := Demo.passOn "demo-install" (some Demo.finished))
      (w := Demo.world) (fun _ => True) (by decide +kernel)
  obtain ⟨hspec, htemplate⟩ := accepted_iff.mp
    (by decide +kernel : (Demo.passOn "demo-install" (some Demo.finished)).judge
      Demo.finished.boundTemplate = .ok ())
  obtain ⟨hquiet, hsame⟩ := (left_alone hrefused).1 (.inl (by decide +kernel))
  obtain ⟨hquiet', hsame'⟩ := (left_alone hfinished).2 hspec htemplate rfl
  have hbound : Demo.provisioned.boundTemplate ≠ none := by decide +kernel
  refine ⟨⟨_, _, hrefused, hquiet, by decide +kernel, hsame.conditions _ ?_⟩, _, _, hfinished,
    hquiet', by decide +kernel, hsame'.conditions _ (by decide)⟩
  rintro (hkey | ⟨-, hunbound⟩)
  · exact absurd hkey (by decide)
  · exact hbound hunbound

/-! ### Passes that stop at a step -/

/-- What a pass leaves that stops at a step, by a failure or to wait. -/
structure StopsAt (p : Pass) (before : Status) (log : Calls) (type : ConditionType) (failed : Bool)
    (after : Status) : Prop where
  /-- No later step is called for. -/
  asked : ∀ x ∈ log, x.1.step.place ≤ type.place
  /-- The conditions of later steps are as they were. -/
  later : ∀ later : ConditionType, type.place < later.place → later.place < 6 →
    after.conditions.get? later.text = before.conditions.get? later.text
  /-- So are the latches that the step or a later one would set, and the bound template. -/
  initialized : type.place ≤ ConditionType.controlPlaneInitialized.place →
    after.initialized = before.initialized
  ready : after.ready = before.ready
  boundTemplate : type = .templateBound → after.boundTemplate = before.boundTemplate
  /-- The earlier steps that were taken are true. -/
  earlier : ∀ earlier : ConditionType, earlier.place < type.place → p.Took log earlier →
    after.isTrue earlier = true
  /-- The step is false, but machines that have been asked for stay. -/
  fails : ¬(failed = true ∧ type = .machinesProvisioned ∧
      before.isTrue .machinesProvisioned = true) →
    after.conditions.hasStatus type.text .fails = true
  kept : failed = true → type = .machinesProvisioned → before.isTrue .machinesProvisioned = true →
    after.conditions.get? type.text = before.conditions.get? type.text
  /-- Of the other conditions two may have changed. -/
  others : ∀ key, key ≠ type.text → key ≠ ConditionType.text .progressing →
    key ≠ ConditionType.text .degraded →
    (∀ earlier : ConditionType, earlier.place < type.place → p.Took log earlier →
      key ≠ earlier.text) →
    after.conditions.get? key = before.conditions.get? key

/-- Reports with which a pass may stop at a step: they tell of the step as false, if of it at
all, and of the pass as a whole. -/
structure Closes (type : ConditionType) (reports : List Report) : Prop where
  rises : Status.Rises type.place reports
  mem : ∀ r ∈ reports, (r.type = type ∧ r.status = .fails) ∨ r.type = .progressing ∨
    r.type = .degraded

theorem Closes.fails {type : ConditionType} {reports : List Report} (h : Closes type reports)
    (hplace : type.place < 6) {r : Report} (hr : r ∈ reports) (htype : r.type = type) :
    r.status = .fails := by
  subst htype
  obtain ⟨hprogressing, hdegraded⟩ := ConditionType.ne_of_place_lt hplace
  rcases h.mem r hr with ⟨-, hfails⟩ | heq | heq
  · exact hfails
  · exact absurd heq hprogressing
  · exact absurd heq hdegraded

/-- Nothing is reported of a later step. -/
theorem Closes.text_ne {type later : ConditionType} {reports : List Report}
    (h : Closes type reports) (hlater : type.place < later.place) (hplace : later.place < 6) :
    ∀ r ∈ reports, later.text ≠ r.type.text := by
  intro r hr hsame
  obtain rfl := ConditionType.text_injective hsame
  obtain ⟨hprogressing, hdegraded⟩ := ConditionType.ne_of_place_lt hplace
  rcases h.mem r hr with ⟨heq, -⟩ | heq | heq
  · exact absurd hlater (heq ▸ Nat.lt_irrefl _)
  · exact hprogressing heq
  · exact hdegraded heq

theorem closes_errorReports {why : Stop} {type : ConditionType} {s : Status}
    (h : why.Blames type s) (hplace : type.place < 6) :
    Closes type (Status.errorReports why.step why.error) where
  rises := by
    refine Status.rises_errorReports (Nat.le_of_lt hplace) fun blame hblame => ?_
    unfold Stop.Blames at h
    rw [hblame] at h
    split at h
    · cases h
    · cases h
      exact ⟨Nat.le_refl _, hplace⟩
  mem r hr := by
    rcases Status.type_of_mem_errorReports hr with ⟨hstep, hfails⟩ | ⟨hprogressing, -⟩ | hdegraded
    · unfold Stop.Blames at h
      rw [hstep] at h
      split at h
      · cases h
      · cases h
        exact .inl ⟨rfl, hfails⟩
    · exact .inr (.inl hprogressing)
    · exact .inr (.inr hdegraded)

theorem closes_waitReports {type : ConditionType} {reason : Reason} {message : String}
    (hplace : type.place < 6) : Closes type (Status.waitReports type reason message) where
  rises := Status.rises_waitReports (Nat.le_refl _) hplace
  mem r hr := by
    simp only [Status.waitReports, List.mem_cons, List.not_mem_nil, or_false] at hr
    rcases hr with rfl | rfl | rfl
    · exact .inl ⟨rfl, rfl⟩
    · exact .inr (.inl rfl)
    · exact .inr (.inr rfl)

/-- A failure is reported of the step, unless machines have been asked for. -/
theorem reported_iff {why : Stop} {type : ConditionType} {s : Status} (h : why.Blames type s)
    (hplace : type.place < 6) :
    (∃ r ∈ Status.errorReports why.step why.error, r.type = type) ↔
      ¬(type = .machinesProvisioned ∧ s.isTrue .machinesProvisioned = true) := by
  unfold Stop.Blames at h
  by_cases hmachines : type = .machinesProvisioned ∧ s.isTrue .machinesProvisioned = true
  · rw [if_pos hmachines] at h
    refine iff_of_false ?_ (not_not_intro hmachines)
    rintro ⟨r, hr, rfl⟩
    obtain ⟨hprogressing, hdegraded⟩ := ConditionType.ne_of_place_lt hplace
    rcases Status.type_of_mem_errorReports hr with ⟨hstep, -⟩ | ⟨heq, -⟩ | heq
    · rw [h] at hstep
      cases hstep
    · exact hprogressing heq
    · exact hdegraded heq
  · rw [if_neg hmachines] at h
    obtain ⟨⟨blamed, reason⟩, hstep, rfl⟩ := Option.map_eq_some_iff.mp h
    refine iff_of_true ⟨⟨blamed, .fails, reason, why.error.message⟩, ?_, rfl⟩ hmachines
    rw [hstep]
    exact List.mem_append_left _ (List.mem_singleton_self _)

/-- A walk that has reached a step stops there, with reports that tell of the step just as they
should. -/
theorem Reached.stopsAt {before s : Status} {earlier asked : Calls} {type : ConditionType}
    {l : List Entry} {reports : List Report} {now : Time} {failed : Bool}
    (h : p.Reached before earlier type.place l s) (hasked : Asks type asked now)
    (hcloses : Closes type reports)
    (hown : (∃ r ∈ reports, r.type = type) ↔ ¬(failed = true ∧ type = .machinesProvisioned ∧
      before.isTrue .machinesProvisioned = true)) :
    p.StopsAt before (earlier ++ asked) type failed (s.tell reports p.generation now) := by
  have hplace : type.place < 6 := hasked.place_lt
  have htook : ∀ {earlier' : ConditionType}, earlier'.place < type.place →
      (p.Took (earlier ++ asked) earlier' ↔ p.Took earlier earlier') := fun hlt =>
    took_append fun x hx => (hasked.step x hx).symm ▸ hlt
  exact {
    asked := by
      refine List.forall_mem_append.mpr ⟨fun x hx => Nat.le_of_lt (h.asked x hx), fun x hx => ?_⟩
      exact Nat.le_of_eq (congrArg _ (hasked.step x hx))
    later := fun later hlater hstep =>
      h.get?_tell (h.text_ne (Nat.le_of_lt hlater)) (hcloses.text_ne hlater hstep)
    initialized := by
      intro hle
      rw [Status.tell_initialized, h.initialized, h.has_eq_false hle, Bool.or_false]
    ready := by
      have hle : type.place ≤ ConditionType.ready.place := Nat.le_of_lt_succ hplace
      rw [Status.tell_ready, h.ready, h.has_eq_false hle, Bool.or_false]
    boundTemplate := by
      rintro rfl
      rw [Status.tell_boundTemplate, h.boundTemplate, h.has_eq_false (Nat.le_refl _)]
      rfl
    earlier := fun earlier' hlt hstep => h.isTrue_tell hcloses.rises hlt ((htook hlt).mp hstep)
    fails := by
      intro hfails
      obtain ⟨r, hr, htype⟩ := hown.mpr hfails
      have hentry : (⟨r, now⟩ : Entry) ∈ l ++ Entry.together reports now :=
        List.mem_append_right _ (List.mem_map_of_mem hr)
      rw [h.conditions_tell, ← htype]
      refine (ConditionSet.hasStatus_enter (h.ordered_tell hcloses.rises) hentry).trans ?_
      rw [hcloses.fails hplace hr htype]
      rfl
    kept := by
      intro hfailed htype hmachines
      refine h.get?_tell (h.text_ne (Nat.le_refl _)) fun r hr hsame => ?_
      exact hown.mp ⟨r, hr, (ConditionType.text_injective hsame).symm⟩ ⟨hfailed, htype, hmachines⟩
    others := by
      intro key hne hprogressing hdegraded hearlier
      refine h.get?_tell (fun e he => ?_) fun r hr => ?_
      · have hlt := (h.passed e he).1
        have hhas : Entry.has l e.type = true := Entry.has_eq_true_iff.mpr ⟨e, he, rfl⟩
        exact hearlier e.type hlt ((htook hlt).mpr ((h.took e.type hlt).mpr hhas))
      · rcases hcloses.mem r hr with ⟨heq, -⟩ | heq | heq
        · exact heq ▸ hne
        · exact heq ▸ hprogressing
        · exact heq ▸ hdegraded }

theorem Reached.stopsAt_failed {before s : Status} {earlier asked : Calls} {type : ConditionType}
    {l : List Entry} {why : Stop} {now : Time} (h : p.Reached before earlier type.place l s)
    (hasked : Asks type asked now) (hwhy : why.Blames type s) :
    p.StopsAt before (earlier ++ asked) type true (p.outcome (.error why, ⟨s, now⟩)).status := by
  have hplace := hasked.place_lt
  dsimp only [outcome]
  rw [Status.reportError_eq_tell]
  refine h.stopsAt hasked (closes_errorReports hwhy hplace) ?_
  rw [reported_iff hwhy hplace]
  simp only [true_and]
  refine not_congr (and_congr_right fun htype => ?_)
  rw [h.isTrue_eq (Nat.le_of_eq (congrArg _ htype))]

theorem Reached.stopsAt_waits {before s : Status} {earlier asked : Calls} {type : ConditionType}
    {l : List Entry} {reason : Reason} {message : String} {now : Time}
    (h : p.Reached before earlier type.place l s) (hasked : Asks type asked now) :
    p.StopsAt before (earlier ++ asked) type false (p.waiting type reason message s now) :=
  h.stopsAt hasked (closes_waitReports hasked.place_lt)
    (iff_of_true ⟨_, List.mem_cons_self, rfl⟩ (by simp))

/-- **A stopped pass leaves later steps untouched.**  Whatever status is stored and however the
collaborators answer, a pass over an accepted spec that fails or waits stops at the step of its
last call.  Then the conditions of all later steps are as they were, and so are the latches that
the step or a later one would set.  Every earlier step that was taken is true.  The step itself is
false, but a failure leaves machines that have been asked for as they were.  And of all other
conditions only two may have changed, which tell of the progress and of the degradation. -/
theorem stops_in_place (hspec : specErrors p.resource.spec p.ns = some [])
    (htemplate : checkTemplateUpdate p.resource.acceptedTemplate p.resource.spec.template = .ok ())
    (hrun : Runs (p.run start) log (some o)) (hstops : o.error.isSome = true ∨ o.requeue = .poll) :
    ∃ earlier c reply, log = earlier ++ [⟨c, reply⟩] ∧
      p.StopsAt (p.resource.status.getD .blank) log c.step o.error.isSome o.status := by
  obtain ⟨r, s', hwalk, rfl⟩ := exists_walked hrun
  have haccepted := accepted_iff.mpr ⟨hspec, htemplate⟩
  cases hready : (p.resource.status.getD .blank).ready with
  | true =>
    obtain ⟨-, rfl, -⟩ := ends_walk_of_finished haccepted hready log r s' hwalk
    rcases hstops with hstops | hstops <;> cases hstops
  | false =>
    have hended := ended_of_goes (goes_walk log r s' hwalk) haccepted hready
    dsimp only at hended
    generalize p.resource.status.getD .blank = before at hended
    cases hended with
    | @failed before asked type l s why now hreached hasked hwhy hfound =>
      obtain ⟨earlier, c, reply, rfl, rfl, rfl⟩ := hasked.exists_last
      refine ⟨before ++ earlier, c, reply, (List.append_assoc ..).symm, ?_⟩
      exact hreached.stopsAt_failed hasked hwhy
    | @waits before asked type l s reason message now hreached hasked hne =>
      obtain ⟨earlier, c, reply, rfl, rfl, rfl⟩ := hasked.exists_last
      refine ⟨before ++ earlier, c, reply, (List.append_assoc ..).symm, ?_⟩
      exact hreached.stopsAt_waits hasked
    | done hreached hnow => rcases hstops with hstops | hstops <;> cases hstops

/-- The secret is gone once the machines have been asked for.  The pass stops at the template, and
what is told of the machines is untouched. -/
theorem stops_in_place_missing :
    ∃ log o, Runs ((Demo.passOn "demo-install" (some Demo.provisioned)).run ⟨0, 0⟩) log (some o) ∧
      o.error.isSome = true ∧ Demo.provisioned.isTrue .machinesProvisioned = true ∧
      o.status.conditions.hasStatus "TemplateBound" .fails = true ∧
      o.status.conditions.get? "MachinesProvisioned" =
        Demo.provisioned.conditions.get? "MachinesProvisioned" := by
  obtain ⟨o, hrun, hfailed⟩ :=
    Demo.exists_outcome (p := Demo.passOn "demo-install" (some Demo.provisioned))
      (w := Demo.emptyWorld) (fun o => o.error.isSome = true) (by decide +kernel)
  have hlast : (((Demo.passOn "demo-install" (some Demo.provisioned)).run ⟨0, 0⟩).trace
      Demo.answerCall Demo.emptyWorld).getLast?.map (·.1.step) = some .templateBound := by
    decide +kernel
  obtain ⟨hspec, htemplate⟩ := accepted_iff.mp
    (by decide +kernel : (Demo.passOn "demo-install" (some Demo.provisioned)).judge
      Demo.provisioned.boundTemplate = .ok ())
  obtain ⟨earlier, c, reply, hlog, hstops⟩ := stops_in_place hspec htemplate hrun (.inl hfailed)
  have hstep : c.step = .templateBound := by
    rw [hlog, List.getLast?_concat] at hlast
    simpa using hlast
  rw [hstep] at hstops
  exact ⟨_, _, hrun, hfailed, by decide +kernel, hstops.fails (by simp),
    hstops.later .machinesProvisioned (by decide) (by decide)⟩

end Pass

end ControlPlane
