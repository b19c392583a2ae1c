/-
Where a pass stops.

The conditions of a control plane are those of the six steps of a pass, in the order of the
steps, and two more.  A step makes its calls and then enters its condition as true.  `Reached`
is a walk that has come so far: what it has called and what it has entered agree step by step,
and a latch or a template is set by the entry of its step and by nothing else.  It is what one
more step preserves (`Reached.take`), so it holds wherever a walk stops.

`Ended` is every end of a walk past the check of the spec.  It has failed or waits at a step
that it has reached, with nothing entered there, or it has taken the last one.
-/
import ControlPlane.Proofs.Entries
import ControlPlane.Proofs.Ways

namespace ControlPlane

/-! ### The steps of a pass -/

/-- The step that a call is made for. -/
def Call.step : Call → ConditionType
  | .getSecret .. => .templateBound
  | .listSecrets .. => .manifestsResolved
  | .generateBootConfig _ | .ensureMachines _ => .machinesProvisioned
  | .controlPlaneJoined .. => .controlPlaneInitialized
  | .bootstrapComplete .. => .bootstrapComplete
  | .deleteBootstrapMachine .. | .bootstrapMachineDeleted .. => .ready

theorem Call.place_step_lt {c : Call} : c.step.place < 6 := by
  cases c <;> simp [step, ConditionType.place]

theorem ConditionType.place_injective {a b : ConditionType} (h : a.place = b.place) : a = b := by
  revert h
  cases a <;> cases b <;> decide

/-- The condition of a step is none of the two that tell of the control plane as a whole. -/
theorem ConditionType.ne_of_place_lt {type : ConditionType} (h : type.place < 6) :
    type ≠ .progressing ∧ type ≠ .degraded := by
  constructor
  · rintro rfl
    exact absurd h (by decide)
  · rintro rfl
    exact absurd h (by decide)

/-- The moments at which some calls were answered. -/
def Calls.arrivals (log : Calls) : List Time := log.map (·.2.arrival)

theorem Calls.arrivals_append {l m : Calls} : arrivals (l ++ m) = arrivals l ++ arrivals m :=
  List.map_append

/-- Some calls of one step, the last of them answered at this moment. -/
structure Asks (type : ConditionType) (asked : Calls) (now : Time) : Prop where
  step : ∀ x ∈ asked, x.1.step = type
  last : asked.getLast?.map (·.2.arrival) = some now

namespace Asks

variable {c c' : Call} {reply : c.Reply} {reply' : c'.Reply} {type : ConditionType} {asked : Calls}
  {now : Time}

theorem one (h : c.step = type) : Asks type [⟨c, reply⟩] reply.arrival where
  step := by simp [h]
  last := rfl

theorem two (h : c.step = type) (h' : c'.step = type) :
    Asks type [⟨c, reply⟩, ⟨c', reply'⟩] reply'.arrival where
  step := by simp [h, h']
  last := rfl

theorem exists_last (h : Asks type asked now) :
    ∃ earlier c reply, asked = earlier ++ [⟨c, reply⟩] ∧ c.step = type ∧ reply.arrival = now := by
  obtain ⟨⟨c, reply⟩, hlast, hnow⟩ := Option.map_eq_some_iff.mp h.last
  obtain ⟨earlier, rfl⟩ := List.getLast?_eq_some_iff.mp hlast
  exact ⟨earlier, c, reply, rfl, h.step ⟨c, reply⟩ (by simp), hnow⟩

theorem place_lt (h : Asks type asked now) : type.place < 6 := by
  obtain ⟨earlier, c, reply, rfl, hstep, -⟩ := h.exists_last
  exact hstep ▸ Call.place_step_lt

theorem mem_arrivals (h : Asks type asked now) : now ∈ asked.arrivals := by
  obtain ⟨earlier, c, reply, rfl, -, rfl⟩ := h.exists_last
  simp [Calls.arrivals]

theorem mem_arrivals_append (h : Asks type asked now) (earlier : Calls) :
    now ∈ (earlier ++ asked).arrivals := by
  rw [Calls.arrivals_append]
  exact List.mem_append_right _ h.mem_arrivals

end Asks

/-- A stop is blamed on the step at which it happens, but not on machines that have been asked
for already. -/
def Stop.Blames (why : Stop) (type : ConditionType) (s : Status) : Prop :=
  why.step.map (·.1) =
    if type = .machinesProvisioned ∧ s.isTrue .machinesProvisioned = true then none else some type

theorem Stop.blames_of_step {why : Stop} {type : ConditionType} {reason : Reason} {s : Status}
    (hstep : why.step = some (type, reason)) (hne : type ≠ .machinesProvisioned) :
    why.Blames type s := by
  simp [Blames, hstep, hne]

namespace Pass

theorem blames_provisioningStop {s : Status} {e : ControllerError} :
    (provisioningStop s e).Blames .machinesProvisioned s := by
  unfold provisioningStop Stop.Blames
  split <;> simp_all [Stop.on]

/-- A pass has found something to install from. -/
def Found (p : Pass) (log : Calls) : Prop :=
  ∃ data install now, ⟨p.lookup, ⟨.answered (some data), now⟩⟩ ∈ log ∧
    InstallState.ofSecret p.resource.spec.installState.name data = .ok install

/-- A pass takes a step if it makes a call of it.  The manifests of a spec without a selector
are resolved without a call, once there is something to install from. -/
def Took (p : Pass) (log : Calls) (type : ConditionType) : Prop :=
  (∃ x ∈ log, x.1.step = type) ∨ (type = .manifestsResolved ∧
    ControlPlane.manifestsQuery p.resource.spec = .ok none ∧ p.Found log)

variable {p : Pass} {log more : Calls} {type : ConditionType}

theorem Found.append (h : p.Found log) : p.Found (log ++ more) := by
  obtain ⟨data, install, now, hx, hok⟩ := h
  exact ⟨data, install, now, List.mem_append_left _ hx, hok⟩

/-- Calls of later steps take no earlier one. -/
theorem took_append (h : ∀ x ∈ more, type.place < x.1.step.place) :
    p.Took (log ++ more) type ↔ p.Took log type := by
  have hcalls : (∃ x ∈ log ++ more, x.1.step = type) ↔ ∃ x ∈ log, x.1.step = type := by
    refine ⟨?_, fun ⟨x, hx, hstep⟩ => ⟨x, List.mem_append_left _ hx, hstep⟩⟩
    rintro ⟨x, hx, rfl⟩
    rcases List.mem_append.mp hx with hx | hx
    · exact ⟨x, hx, rfl⟩
    · exact absurd (h x hx) (Nat.lt_irrefl _)
  have hfound : p.Found (log ++ more) ↔ p.Found log := by
    refine ⟨?_, Found.append⟩
    rintro ⟨data, install, now, hx, hok⟩
    rcases List.mem_append.mp hx with hx | hx
    · exact ⟨data, install, now, hx, hok⟩
    · exact absurd (h _ hx) (Nat.not_lt_zero _)
  unfold Took
  rw [hcalls, hfound]

theorem not_took_nil : ¬p.Took [] type := by
  rintro (⟨x, hx, -⟩ | ⟨-, -, data, install, now, hx, -⟩) <;> cases hx

/-! ### A walk that has come so far -/

/-- A walk from a status stands before the step of a place.  By then it has made some calls and
some entries. -/
structure Reached (p : Pass) (before : Status) (log : Calls) (n : Nat) (l : List Entry)
    (s : Status) : Prop where
  conditions : s.conditions = before.conditions.enter l p.generation
  ordered : Entry.Ordered l
  /-- Only true conditions of earlier steps are entered, each when a call was answered. -/
  passed : ∀ e ∈ l, e.type.place < n ∧ e.report.status = .holds ∧ e.made ∈ log.arrivals
  asked : ∀ x ∈ log, x.1.step.place < n
  /-- An earlier step was taken just if its condition is entered. -/
  took : ∀ type, type.place < n → (p.Took log type ↔ Entry.has l type = true)
  found : Entry.has l .templateBound = true → p.Found log
  initialized : s.initialized = (before.initialized || Entry.has l .controlPlaneInitialized)
  ready : s.ready = (before.ready || Entry.has l .ready)
  boundTemplate : s.boundTemplate =
    if Entry.has l .templateBound then some (before.boundTemplate.getD p.resource.spec.template)
    else before.boundTemplate

namespace Reached

variable {before s : Status} {n : Nat} {l : List Entry}

/-- A walk may start before any step. -/
theorem start : p.Reached before [] n [] before where
  conditions := rfl
  ordered := .nil
  passed := by simp
  asked := by simp
  took type _ := by simp [not_took_nil]
  found := by simp
  initialized := by simp
  ready := by simp
  boundTemplate := by simp

/-- What has been entered comes before the step. -/
theorem has_eq_false (h : p.Reached before log n l s) (hplace : n ≤ type.place) :
    Entry.has l type = false := by
  refine Entry.has_eq_false_iff.mpr ?_
  rintro e he rfl
  exact absurd (h.passed e he).1 (Nat.not_lt_of_le hplace)

/-- What is reported then is entered behind. -/
theorem conditions_tell {reports : List Report} {now : Time} (h : p.Reached before log n l s) :
    (s.tell reports p.generation now).conditions =
      before.conditions.enter (l ++ Entry.together reports now) p.generation := by
  rw [Status.conditions_tell, h.conditions, ConditionSet.enter_append]

theorem text_ne (h : p.Reached before log n l s) (hplace : n ≤ type.place) :
    ∀ e ∈ l, type.text ≠ e.type.text := by
  intro e he hsame
  rw [ConditionType.text_injective hsame] at hplace
  exact absurd (h.passed e he).1 (Nat.not_lt_of_le hplace)

/-- A condition that comes at the step or later is as it was. -/
theorem get?_eq (h : p.Reached before log n l s) (hplace : n ≤ type.place) :
    s.conditions.get? type.text = before.conditions.get? type.text := by
  rw [h.conditions]
  exact ConditionSet.get?_enter_of_not_mem (h.text_ne hplace)

theorem isTrue_eq (h : p.Reached before log n l s) (hplace : n ≤ type.place) :
    s.isTrue type = before.isTrue type := by
  unfold Status.isTrue ConditionSet.isTrue ConditionSet.hasStatus
  rw [h.get?_eq hplace]

theorem ordered_tell {reports : List Report} {now : Time} (h : p.Reached before log n l s)
    (hrises : Status.Rises n reports) : Entry.Ordered (l ++ Entry.together reports now) :=
  h.ordered.append_together (fun e he => (h.passed e he).1) hrises

/-- What is neither entered nor reported is as it was. -/
theorem get?_tell {reports : List Report} {now : Time} {key : String}
    (h : p.Reached before log n l s) (hentries : ∀ e ∈ l, key ≠ e.type.text)
    (hreports : ∀ r ∈ reports, key ≠ r.type.text) :
    (s.tell reports p.generation now).conditions.get? key = before.conditions.get? key := by
  rw [h.conditions_tell]
  refine ConditionSet.get?_enter_of_not_mem (List.forall_mem_append.mpr ⟨hentries, ?_⟩)
  intro e he
  obtain ⟨r, hr, rfl⟩ := List.mem_map.mp he
  exact hreports r hr

/-- The condition of a step that was taken is true, whatever is reported of later ones. -/
theorem isTrue_tell {reports : List Report} {now : Time} (h : p.Reached before log n l s)
    (hrises : Status.Rises n reports) (hplace : type.place < n) (htook : p.Took log type) :
    (s.tell reports p.generation now).isTrue type = true := by
  obtain ⟨e, he, rfl⟩ := Entry.has_eq_true_iff.mp ((h.took type hplace).mp htook)
  unfold Status.isTrue ConditionSet.isTrue
  rw [h.conditions_tell,
    ConditionSet.hasStatus_enter (h.ordered_tell hrises) (List.mem_append_left _ he),
    (h.passed e he).2.1]
  rfl

/-- The step is left out: it makes no call. -/
theorem skip (h : p.Reached before log type.place l s) (hne : type ≠ .manifestsResolved) :
    p.Reached before log (type.place + 1) l s where
  conditions := h.conditions
  ordered := h.ordered
  passed e he := ⟨Nat.lt_succ_of_lt (h.passed e he).1, (h.passed e he).2⟩
  asked x hx := Nat.lt_succ_of_lt (h.asked x hx)
  took type' hplace := by
    rcases Nat.lt_succ_iff_lt_or_eq.mp hplace with hlt | heq
    · exact h.took type' hlt
    · rw [ConditionType.place_injective heq, h.has_eq_false (Nat.le_refl _)]
      refine iff_of_false ?_ nofun
      rintro (⟨x, hx, hstep⟩ | ⟨hmanifests, -⟩)
      · exact absurd (hstep ▸ h.asked x hx) (Nat.lt_irrefl _)
      · exact hne hmanifests
  found := h.found
  initialized := h.initialized
  ready := h.ready
  boundTemplate := h.boundTemplate

end Reached

/-- What a step sets besides its condition: a latch, or the template. -/
structure Sets (p : Pass) (type : ConditionType) (s latched : Status) : Prop where
  conditions : latched.conditions = s.conditions
  initialized : latched.initialized = (s.initialized || decide (type = .controlPlaneInitialized))
  ready : latched.ready = (s.ready || decide (type = .ready))
  boundTemplate : latched.boundTemplate =
    if type = .templateBound then some (s.boundTemplate.getD p.resource.spec.template)
    else s.boundTemplate

namespace Reached

variable {before s latched : Status} {l : List Entry} {asked : Calls} {reason : Reason}
  {message : String} {now : Time}

/-- The step is taken: its calls are made, and its condition is entered as true. -/
theorem advance (h : p.Reached before log type.place l s) (hasked : ∀ x ∈ asked, x.1.step = type)
    (htook : p.Took (log ++ asked) type)
    (hfound : type = .templateBound → p.Found (log ++ asked))
    (hnow : now ∈ (log ++ asked).arrivals) (hsets : p.Sets type s latched) :
    p.Reached before (log ++ asked) (type.place + 1)
      (l ++ [⟨⟨type, .holds, reason, message⟩, now⟩])
      (latched.report type .holds reason message p.generation now) where
  conditions := by
    rw [ConditionSet.enter_concat, ← h.conditions, ← hsets.conditions]
    rfl
  ordered := by
    refine List.pairwise_append.mpr ⟨h.ordered, List.pairwise_singleton .., ?_⟩
    intro e he later hlater
    rw [List.mem_singleton.mp hlater]
    exact (h.passed e he).1
  passed := by
    refine List.forall_mem_append.mpr ⟨fun e he => ?_, fun e he => ?_⟩
    · obtain ⟨hplace, hholds, hmade⟩ := h.passed e he
      rw [Calls.arrivals_append]
      exact ⟨Nat.lt_succ_of_lt hplace, hholds, List.mem_append_left _ hmade⟩
    · rw [List.mem_singleton.mp he]
      exact ⟨Nat.lt_succ_self _, rfl, hnow⟩
  asked := by
    refine List.forall_mem_append.mpr ⟨fun x hx => Nat.lt_succ_of_lt (h.asked x hx), fun x hx => ?_⟩
    rw [hasked x hx]
    exact Nat.lt_succ_self _
  took type' hplace := by
    rw [Entry.has_concat]
    rcases Nat.lt_succ_iff_lt_or_eq.mp hplace with hlt | heq
    · have hother : type ≠ type' := by
        rintro rfl
        exact Nat.lt_irrefl _ hlt
      rw [took_append fun x hx => (hasked x hx).symm ▸ hlt, h.took type' hlt]
      simp [hother]
    · cases ConditionType.place_injective heq
      exact iff_of_true htook (by simp)
  found := by
    intro hhas
    rw [Entry.has_concat, Bool.or_eq_true] at hhas
    rcases hhas with hhas | hhas
    · exact (h.found hhas).append
    · exact hfound (of_decide_eq_true hhas)
  initialized := by
    rw [Status.report_initialized, hsets.initialized, h.initialized, Entry.has_concat,
      Bool.or_assoc]
  ready := by
    rw [Status.report_ready, hsets.ready, h.ready, Entry.has_concat, Bool.or_assoc]
  boundTemplate := by
    rw [Status.report_boundTemplate, hsets.boundTemplate, h.boundTemplate, Entry.has_concat]
    by_cases hfirst : type = .templateBound
    · -- The first step has no entry before it.
      cases hfirst
      rw [h.has_eq_false (Nat.zero_le _)]
      simp
    · simp [hfirst]

/-- A step that makes a call is taken. -/
theorem take (h : p.Reached before log type.place l s) (hasked : Asks type asked now)
    (hfound : type = .templateBound → p.Found (log ++ asked)) (hsets : p.Sets type s latched) :
    p.Reached before (log ++ asked) (type.place + 1)
      (l ++ [⟨⟨type, .holds, reason, message⟩, now⟩])
      (latched.report type .holds reason message p.generation now) := by
  obtain ⟨earlier, c, reply, heq, hstep, -⟩ := hasked.exists_last
  have htook : p.Took (log ++ asked) type := .inl ⟨⟨c, reply⟩, by simp [heq], hstep⟩
  exact h.advance hasked.step htook hfound (hasked.mem_arrivals_append log) hsets

/-- A signal is seen in its step. -/
theorem signal (signal : Signal) (h : p.Reached before log signal.condition.place l s)
    (hasked : Asks signal.condition asked now)
    (hlatched : latched = { s with
      initialized := s.initialized || decide (signal = .controlPlaneJoined)
      ready := s.ready || decide (signal = .bootstrapMachineDeleted) }) :
    p.Reached before (log ++ asked) (signal.condition.place + 1)
      (l ++ [⟨⟨signal.condition, .holds, signal.reason, signal.message⟩, now⟩])
      (p.signalled signal latched now) := by
  have hsets : p.Sets signal.condition s latched := by
    subst hlatched
    cases signal <;> exact ⟨rfl, rfl, rfl, rfl⟩
  exact h.take hasked (by cases signal <;> nofun) hsets

end Reached

/-! ### The ends of a walk -/

/-- How a walk ends past the check of the spec: it fails or waits at a step, or it has taken
the last one. -/
inductive Ended (p : Pass) (before : Status) : Calls → Except Stop Requeue → Standing → Prop where
  | failed {earlier asked : Calls} {type : ConditionType} {l : List Entry} {s : Status}
      {why : Stop} {now : Time} (h : p.Reached before earlier type.place l s)
      (hasked : Asks type asked now) (hwhy : why.Blames type s)
      (hfound : type = .templateBound → ¬p.Found (earlier ++ asked)) :
      Ended p before (earlier ++ asked) (.error why) ⟨s, now⟩
  | waits {earlier asked : Calls} {type : ConditionType} {l : List Entry} {s : Status}
      {reason : Reason} {message : String} {now : Time}
      (h : p.Reached before earlier type.place l s) (hasked : Asks type asked now)
      (hne : type ≠ .templateBound) :
      Ended p before (earlier ++ asked) (.ok .poll) ⟨p.waiting type reason message s now, now⟩
  | done {log : Calls} {l : List Entry} {s : Status} {now : Time}
      (h : p.Reached before log 6 l s) (hnow : now ∈ log.arrivals) :
      Ended p before log (.ok .awaitChange) ⟨p.concluded s now, now⟩

variable {before s : Status} {earlier : Calls} {l : List Entry} {r : Except Stop Requeue}
  {s' : Standing}

theorem ended_of_tearsDown (hreached : p.Reached before earlier ConditionType.ready.place l s)
    (h : p.TearsDown s log r s') : p.Ended before (earlier ++ log) r s' := by
  cases h with
  | unasked he => exact .failed hreached (.one rfl) (Stop.blames_of_step rfl (by decide)) nofun
  | unknown he => exact .failed hreached (.two rfl rfl) (Stop.blames_of_step rfl (by decide)) nofun
  | remains => exact .waits hreached (.two rfl rfl) nofun
  | gone =>
    exact .done (hreached.signal .bootstrapMachineDeleted (.two rfl rfl) (by simp))
      (by simp [Calls.arrivals])

theorem ended_of_completes
    (hreached : p.Reached before earlier ConditionType.bootstrapComplete.place l s)
    (h : p.Completes s log r s') : p.Ended before (earlier ++ log) r s' := by
  cases h with
  | known _ h => exact ended_of_tearsDown (hreached.skip (by decide)) h
  | unknown he => exact .failed hreached (.one rfl) (Stop.blames_of_step rfl (by decide)) nofun
  | unfinished => exact .waits hreached (.one rfl) nofun
  | finished h =>
    rw [List.append_cons]
    exact ended_of_tearsDown (hreached.signal .bootstrapCompleted (.one rfl) (by simp)) h

theorem ended_of_joins
    (hreached : p.Reached before earlier ConditionType.controlPlaneInitialized.place l s)
    (h : p.Joins s log r s') : p.Ended before (earlier ++ log) r s' := by
  cases h with
  | unknown he => exact .failed hreached (.one rfl) (Stop.blames_of_step rfl (by decide)) nofun
  | absent => exact .waits hreached (.one rfl) nofun
  | joined h =>
    rw [List.append_cons]
    exact ended_of_completes
      (hreached.signal .controlPlaneJoined (.one rfl) (by simp [Status.markInitialized])) h

/-- The installer and the machines are one step. -/
theorem ended_of_hands {inputs : InstallInputs} {reply : (Call.generateBootConfig inputs).Reply}
    {bootSecret : String}
    (hreached : p.Reached before earlier ConditionType.machinesProvisioned.place l s)
    (h : p.Hands bootSecret s log r s') :
    p.Ended before (earlier ++ ⟨.generateBootConfig inputs, reply⟩ :: log) r s' := by
  cases h with
  | unmade he => exact .failed hreached (.two rfl rfl) blames_provisioningStop nofun
  | made h =>
    rw [List.append_cons, List.append_cons, List.append_assoc earlier]
    exact ended_of_joins (hreached.take (.two rfl rfl) nofun ⟨rfl, by simp, by simp, rfl⟩) h

/-- Something to install from is found: the template is bound. -/
theorem reached_bound {data : SecretData} {install : InstallState} {now : Time}
    (hinstall : InstallState.ofSecret p.resource.spec.installState.name data = .ok install) :
    p.Reached before [⟨p.lookup, ⟨.answered (some data), now⟩⟩]
      ConditionType.manifestsResolved.place
      [⟨⟨.templateBound, .holds, (sourceReport install.source).1,
        (sourceReport install.source).2⟩, now⟩] (p.bound install before now) := by
  have hstart : p.Reached before [] ConditionType.templateBound.place [] before := .start
  have hfound : p.Found [⟨p.lookup, ⟨.answered (some data), now⟩⟩] :=
    ⟨data, install, now, List.mem_singleton_self _, hinstall⟩
  have hsets : p.Sets .templateBound before (before.bind p.resource.spec.template) :=
    ⟨Status.conditions_bind, by simp, by simp, by simp⟩
  exact hstart.take (.one rfl) (fun _ => hfound) hsets

theorem exists_reached_of_gathers {looks : Calls} {install : InstallState}
    {manifests : Table String Bytes} {status : Status}
    (h : p.Gathers before looks install manifests status) :
    ∃ l, p.Reached before looks ConditionType.machinesProvisioned.place l status := by
  cases h with
  | @defaults data install now reason message hinstall hquery =>
    have hbound : p.Reached before [⟨p.lookup, ⟨.answered (some data), now⟩⟩] _ _
      (p.bound install before now) := reached_bound hinstall
    have hfound : p.Took ([⟨p.lookup, ⟨.answered (some data), now⟩⟩] ++ []) .manifestsResolved :=
      .inr ⟨rfl, hquery, data, install, now, by simp, hinstall⟩
    exact ⟨_, hbound.advance (List.forall_mem_nil _) hfound nofun (by simp [Calls.arrivals])
      ⟨rfl, by simp, by simp, rfl⟩⟩
  | @listed data install now now' selector secrets manifests reason message hinstall hquery =>
    have hbound : p.Reached before [⟨p.lookup, ⟨.answered (some data), now⟩⟩] _ _
      (p.bound install before now) := reached_bound hinstall
    exact ⟨_, hbound.take (.one rfl) nofun ⟨rfl, by simp, by simp, rfl⟩⟩

theorem ended_of_stumbles {why : Stop} (h : p.Stumbles before log why s') :
    p.Ended before log (.error why) s' := by
  have hstart : p.Reached before [] ConditionType.templateBound.place [] before := .start
  cases h with
  | unanswered he =>
    refine .failed hstart (.one rfl) (Stop.blames_of_step rfl (by decide)) ?_
    rintro - ⟨data, install, now, hx, -⟩
    cases List.mem_singleton.mp hx
    cases he
  | absent =>
    refine .failed hstart (.one rfl) (Stop.blames_of_step rfl (by decide)) ?_
    rintro - ⟨data, install, now, hx, -⟩
    cases List.mem_singleton.mp hx
  | useless he =>
    refine .failed hstart (.one rfl) (Stop.blames_of_step rfl (by decide)) ?_
    rintro - ⟨data, install, now, hx, hok⟩
    cases List.mem_singleton.mp hx
    rw [he] at hok
    cases hok
  | unlisted hinstall he =>
    exact .failed (reached_bound hinstall) (.one rfl) (Stop.blames_of_step rfl (by decide)) nofun
  | invalid hinstall herrors =>
    exact .failed (reached_bound hinstall) (.one rfl) (Stop.blames_of_step rfl (by decide)) nofun

theorem ended_of_provisions (h : p.Provisions before log r s') : p.Ended before log r s' := by
  cases h with
  | stumbled h => exact ended_of_stumbles h
  | unconfigured h he =>
    obtain ⟨l, hreached⟩ := exists_reached_of_gathers h
    exact .failed hreached (.one rfl) blames_provisioningStop nofun
  | configured h hrest =>
    obtain ⟨l, hreached⟩ := exists_reached_of_gathers h
    exact ended_of_hands hreached hrest

/-- **Every walk past the check of the spec ends at a step, or with the last one.** -/
theorem ended_of_goes {start : Standing} (h : p.Goes start log r s')
    (haccepted : p.judge start.status.boundTemplate = .ok ())
    (hunready : start.status.ready = false) : p.Ended start.status log r s' := by
  cases h with
  | refused hwhy =>
    rw [haccepted] at hwhy
    cases hwhy
  | ready hready =>
    rw [hunready] at hready
    cases hready
  | initialized _ h => exact ended_of_completes .start h
  | fresh _ _ h => exact ended_of_provisions h

end Pass

end ControlPlane
