/-
What is counted over whole runs.

The watcher reconciles resources, and where a reconciliation returns an error it follows that up
by a retry, which counts the error.  An error that is not returned was counted by the
reconciliation itself.  So what has to be seen is that no error takes both ways and none takes
neither: `metrics_followed` looks at the ends of a reconciliation, with the retry behind it, and
finds at each of them that the reconciliation has been counted if its resource has a namespace,
and the error that surfaces if one does.  A run repeats this, and `Tally` is what it comes to.

Reconciliations may overlap, but what they count only adds up.  So each is taken as if it were made
at its end, where the watcher also follows its error up.
-/
import ControlPlane.Proofs.History
import ControlPlane.Proofs.Retries
import Mathlib.Data.List.Forall2

namespace ControlPlane

open Program (Runs)

namespace Demo

/-- The resource without a namespace. -/
def withoutNamespace : Resource :=
  { resource none with metadata := { (resource none).metadata with ns := none } }

/-- A turn of a resource against some collaborators. -/
def turnOf (c : Controller) (r : Resource) (w : InMemory.World) : Turn where
  controller := c
  resource := r
  start := ⟨0, 0⟩
  log := (c.reconcile r ⟨0, 0⟩).trace InMemory.World.answer w
  result := ((c.reconcile r ⟨0, 0⟩).run InMemory.World.answer w).1
  runs := Program.runs_trace _ _ w

end Demo

/-! ### Sums over tables -/

namespace Table

variable {κ α : Type} [LT κ]

/-- The sum over all values of a table. -/
def total (t : Table κ α) (f : α → Nat) : Nat := (t.entries.map fun e => f e.2).sum

variable [DecidableEq κ] [DecidableLT κ] [KeyOrder κ] {k : κ} {v : α} {f : α → Nat}

/-- A new value takes the place of the old one in a sum. -/
theorem sum_put {l : List (κ × α)} (h : l.Pairwise (fun a b => a.1 < b.1)) :
    ((put k v l).map fun e => f e.2).sum + ((lookup k l).map f).getD 0 =
      (l.map fun e => f e.2).sum + f v := by
  induction l with
  | nil => exact Nat.add_comm _ _
  | cons d rest ih =>
    obtain ⟨head, tail⟩ := List.pairwise_cons.mp h
    unfold put
    split
    · -- The key lies before all others, so it had no value.
      rename_i hlt
      have habsent : lookup k (d :: rest) = none := by
        refine lookup_eq_none_iff.mpr (List.forall_mem_cons.mpr ⟨?_, fun e he => ?_⟩)
        · exact fun heq => KeyOrder.irrefl _ (heq ▸ hlt)
        · exact fun heq => KeyOrder.irrefl _ (KeyOrder.trans hlt (heq ▸ head e he))
      rw [habsent, List.map_cons, List.sum_cons, Option.map_none, Option.getD_none, Nat.add_zero,
        Nat.add_comm]
    · split
      · rename_i heq
        simp only [lookup, if_pos heq, List.map_cons, List.sum_cons, Option.map_some,
          Option.getD_some]
        omega
      · rename_i hne
        have hrest := ih tail
        simp only [lookup, if_neg hne, List.map_cons, List.sum_cons]
        omega

theorem total_insert (t : Table κ α) :
    (t.insert k v).total f + ((t.get? k).map f).getD 0 = t.total f + f v :=
  sum_put t.sorted

end Table

/-! ### Counting one thing -/

theorem Phase.text_injective {p q : Phase} (h : p.text = q.text) : p = q := by
  cases p <;> cases q <;> first | rfl | exact absurd h (by decide)

namespace Metrics

variable {m : Metrics} {phase label : String} {d : Duration} {surfaced : Option ControllerError}

/-- How many durations were observed under a label. -/
def observed (m : Metrics) (label : String) : Nat := (m.durations.getD label .empty).count

theorem observed_countReconciliation :
    (m.countReconciliation phase d).observed label =
      m.observed label + if label = phase then 1 else 0 := by
  unfold observed countReconciliation
  dsimp only
  rw [Table.getD, Table.get?_insert]
  by_cases h : label = phase
  · rw [if_pos h, if_pos h, h]
    rfl
  · rw [if_neg h, if_neg h]
    rfl

theorem total_countReconciliation :
    (m.countReconciliation phase d).durations.total Histogram.count =
      m.durations.total Histogram.count + 1 := by
  have hcount : ((m.durations.getD phase .empty).observe d).count =
      ((m.durations.get? phase).map Histogram.count).getD 0 + 1 := by
    unfold Table.getD
    cases m.durations.get? phase <;> rfl
  have hinsert := Table.total_insert (k := phase) (f := Histogram.count)
    (v := (m.durations.getD phase .empty).observe d) m.durations
  unfold countReconciliation
  dsimp only
  omega

/-- Counts an error, if there is one. -/
def noting (m : Metrics) : Option ControllerError → Metrics
  | none => m
  | some e => m.countFailure e

theorem reconciliations_noting : (m.noting surfaced).reconciliations = m.reconciliations := by
  cases surfaced <;> rfl

theorem durations_noting : (m.noting surfaced).durations = m.durations := by
  cases surfaced <;> rfl

theorem failures_noting :
    (m.noting surfaced).failures.getD label 0 =
      m.failures.getD label 0 + if surfaced.map ControllerError.label = some label then 1 else 0 := by
  cases surfaced with
  | none => rfl
  | some e =>
    have hlabel : (some e).map ControllerError.label = some label ↔ label = e.label := by
      rw [Option.map_some, Option.some_inj, eq_comm]
    simp only [hlabel]
    exact Controller.getD_countFailure

end Metrics

/-! ### What surfaces in a turn -/

/-- The error that an outcome tells of over a stored status.  A broken latch hides the error of
the pass. -/
def PassOutcome.trouble (o : PassOutcome) (stored : Option Status) : Option ControllerError :=
  match Status.checkTransition stored o.status with
  | .ok () => o.error
  | .error violation => some (.invariantViolation violation)

theorem PassOutcome.isSome_trouble_iff {o : PassOutcome} {stored : Option Status} :
    (o.trouble stored).isSome = true ↔
      o.error ≠ none ∨ Status.checkTransition stored o.status ≠ .ok () := by
  unfold trouble
  cases Status.checkTransition stored o.status with
  | ok u => simp [Option.isSome_iff_ne_none]
  | error violation => simp

namespace Controller

variable {c : Controller} {r : Resource} {v : Verdict} {o : PassOutcome} {start finish : Time}
  {log : Effects} {result : Returned × Controller}

theorem error_settle : (settle r o).error = o.trouble r.status := by
  unfold PassOutcome.trouble
  cases hcheck : Status.checkTransition r.status o.status with
  | ok u => rw [settle_of_ok hcheck]
  | error violation => rw [settle_of_error hcheck]

theorem runs_reconcile_of_unset (hns : r.metadata.ns = none)
    (h : Runs (c.reconcile r start) log result) :
    log = [] ∧ result =
      (some (.error (.watch ("OpenShiftControlPlane " ++ r.name ++ " has no namespace"))), c) := by
  unfold reconcile at h
  rw [hns] at h
  cases h
  exact ⟨rfl, rfl⟩

theorem metrics_conclude : (c.conclude r v start finish).2.metrics =
    (c.metrics.countReconciliation (Phase.observe r.status).text (finish.since start)).noting
      v.error := by
  unfold conclude
  cases v.error <;> cases v.requeue <;> rfl

end Controller

namespace Turn

variable {t : Turn} {e e' : ControllerError} {o o' : PassOutcome}
  {surfaced surfaced' : Option ControllerError}

/-- The pass of a turn came to this outcome. -/
def ComesTo (t : Turn) (o : PassOutcome) : Prop :=
  ∃ ns, t.resource.metadata.ns = some ns ∧
    Runs ((t.controller.passOver t.resource ns).run t.start) (Effects.calls t.log) (some o)

/-- The write of a turn came to this error. -/
def FailsToWrite (t : Turn) (e : ControllerError) : Prop :=
  ∃ w ∈ Effects.writes t.log, w.reply.result = .error e

/-- What surfaces in a turn, an error or none.  A failed write hides what the pass had to say, and
a turn that breaks off has nothing to say. -/
inductive Surfaces (t : Turn) : Option ControllerError → Prop where
  | unset (hns : t.resource.metadata.ns = none) :
      Surfaces t (some (.watch ("OpenShiftControlPlane " ++ t.resource.name ++ " has no namespace")))
  | unwritten {e : ControllerError} (he : t.FailsToWrite e) : Surfaces t (some e)
  | judged {o : PassOutcome} (ho : t.ComesTo o) (hwritten : ∀ e, ¬t.FailsToWrite e) :
      Surfaces t (o.trouble t.resource.status)
  | broken (hbroken : t.result.1 = none) : Surfaces t none

/-- Something is wrong with a turn: the resource has no namespace, the write failed, or the pass
ended in an error or with an outcome that breaks a latch. -/
def GoesWrong (t : Turn) : Prop :=
  t.resource.metadata.ns = none ∨ (∃ e, t.FailsToWrite e) ∨
    ∃ o, t.ComesTo o ∧
      (o.error ≠ none ∨ Status.checkTransition t.resource.status o.status ≠ .ok ())

theorem ns_of_comesTo (h : t.ComesTo o) : t.resource.metadata.ns ≠ none := by
  obtain ⟨ns, hns, -⟩ := h
  rw [hns]
  exact Option.some_ne_none ns

theorem ComesTo.unique (h : t.ComesTo o) (h' : t.ComesTo o') : o = o' := by
  obtain ⟨ns, hns, hruns⟩ := h
  obtain ⟨ns', hns', hruns'⟩ := h'
  cases hns.symm.trans hns'
  exact Option.some.inj (Program.runs_unique hruns hruns')

theorem not_failsToWrite_of_unset (hns : t.resource.metadata.ns = none) : ¬t.FailsToWrite e := by
  rintro ⟨w, hw, -⟩
  rw [(Controller.runs_reconcile_of_unset hns t.runs).1] at hw
  cases hw

theorem FailsToWrite.unique (h : t.FailsToWrite e) (h' : t.FailsToWrite e') : e = e' := by
  cases hns : t.resource.metadata.ns with
  | none => exact absurd h (not_failsToWrite_of_unset hns)
  | some ns =>
    obtain ⟨w, hw, he⟩ := h
    obtain ⟨w', hw', he'⟩ := h'
    obtain ⟨hnone, -, -⟩ | ⟨walked, -, hend⟩ := Controller.runs_reconcile hns t.runs
    · rw [hnone] at hw
      cases hw
    dsimp only at hend
    rcases hend with ⟨-, hnone, -⟩ | ⟨s, reply, -, hone, -⟩
    · rw [hnone] at hw
      cases hw
    · rw [hone, List.mem_singleton] at hw hw'
      subst hw hw'
      exact Except.error.inj (he.symm.trans he')

/-- A turn that breaks off has a namespace, has failed no write and has come to no outcome. -/
theorem apart_of_broken (hbroken : t.result.1 = none) :
    t.resource.metadata.ns ≠ none ∧ (∀ e, ¬t.FailsToWrite e) ∧ ∀ o, ¬t.ComesTo o := by
  cases hns : t.resource.metadata.ns with
  | none =>
    rw [(Controller.runs_reconcile_of_unset hns t.runs).2] at hbroken
    cases hbroken
  | some ns =>
    have habort := (Controller.returned_eq_none_iff hns t.runs).mp hbroken
    have hlog : t.log = [] := Controller.eq_nil_of_broken hns t.runs hbroken
    refine ⟨nofun, ?_, ?_⟩
    · rintro e ⟨w, hw, -⟩
      rw [hlog] at hw
      cases hw
    · rintro o ⟨ns', hns', hpass⟩
      cases hns.symm.trans hns'
      rw [hlog] at hpass
      cases Program.runs_unique hpass (Pass.runs_none_iff.mpr ⟨rfl, habort⟩)

theorem Surfaces.eq_none_of_broken (h : t.Surfaces surfaced) (hbroken : t.result.1 = none) :
    surfaced = none := by
  obtain ⟨hns, hwritten, hpass⟩ := apart_of_broken hbroken
  cases h with
  | unset hunset => exact absurd hunset hns
  | unwritten he => exact absurd he (hwritten _)
  | judged ho => exact absurd ho (hpass _)
  | broken => rfl

/-- The ways to surface exclude each other, and each of them leaves no choice. -/
theorem Surfaces.unique (h : t.Surfaces surfaced) (h' : t.Surfaces surfaced') :
    surfaced = surfaced' := by
  by_cases hbroken : t.result.1 = none
  · rw [h.eq_none_of_broken hbroken, h'.eq_none_of_broken hbroken]
  cases h with
  | unset hns =>
    cases h' with
    | unset => rfl
    | unwritten he => exact absurd he (not_failsToWrite_of_unset hns)
    | judged ho => exact absurd hns (ns_of_comesTo ho)
    | broken hnone => exact absurd hnone hbroken
  | unwritten he =>
    cases h' with
    | unset hns => exact absurd he (not_failsToWrite_of_unset hns)
    | unwritten he' => rw [he.unique he']
    | judged _ hwritten => exact absurd he (hwritten _)
    | broken hnone => exact absurd hnone hbroken
  | judged ho hwritten =>
    cases h' with
    | unset hns => exact absurd hns (ns_of_comesTo ho)
    | unwritten he => exact absurd he (hwritten _)
    | judged ho' => rw [ho.unique ho']
    | broken hnone => exact absurd hnone hbroken
  | broken hnone => exact absurd hnone hbroken

/-- An error surfaces if something is wrong with the turn, and only then. -/
theorem Surfaces.isSome_iff (h : t.Surfaces surfaced) : surfaced.isSome = true ↔ t.GoesWrong := by
  cases h with
  | unset hns => exact iff_of_true rfl (.inl hns)
  | unwritten he => exact iff_of_true rfl (.inr (.inl ⟨_, he⟩))
  | @judged o ho hwritten =>
    rw [PassOutcome.isSome_trouble_iff]
    constructor
    · intro htrouble
      exact .inr (.inr ⟨o, ho, htrouble⟩)
    · rintro (hns | ⟨e, he⟩ | ⟨o', ho', htrouble⟩)
      · exact absurd hns (ns_of_comesTo ho)
      · exact absurd he (hwritten e)
      · exact ho.unique ho' ▸ htrouble
  | broken hbroken =>
    refine iff_of_false nofun ?_
    obtain ⟨hns, hwritten, hpass⟩ := apart_of_broken hbroken
    rintro (hunset | ⟨e, he⟩ | ⟨o, ho, -⟩)
    · exact hns hunset
    · exact hwritten e he
    · exact hpass o ho

/-! ### What a turn counts -/

def hasNamespace (t : Turn) : Bool := t.resource.metadata.ns.isSome

/-- The phase of the resource before the turn. -/
def phase (t : Turn) : Phase := .observe t.resource.status

/-- The controller after a turn.  An error that was returned is followed up. -/
def followed (t : Turn) : Controller :=
  match t.result.1 with
  | some (.error e) => (t.result.2.retry t.resource e).2
  | some (.ok _) | none => t.result.2

/-- What was counted before a turn, with the reconciliation of the turn if that counts. -/
def counted (t : Turn) (d : Duration) : Metrics :=
  if t.hasNamespace then t.controller.metrics.countReconciliation t.phase.text d
  else t.controller.metrics

variable {d : Duration}

theorem reconciliations_counted : (t.counted d).reconciliations =
    t.controller.metrics.reconciliations + if t.hasNamespace then 1 else 0 := by
  unfold counted
  cases t.hasNamespace <;> rfl

theorem total_counted : (t.counted d).durations.total Histogram.count =
    t.controller.metrics.durations.total Histogram.count + if t.hasNamespace then 1 else 0 := by
  unfold counted
  cases t.hasNamespace with
  | false => rfl
  | true => exact Metrics.total_countReconciliation

theorem observed_counted {phase : Phase} : (t.counted d).observed phase.text =
    t.controller.metrics.observed phase.text +
      if t.hasNamespace && t.phase = phase then 1 else 0 := by
  have hphase : phase.text = t.phase.text ↔ t.phase = phase :=
    ⟨fun h => (Phase.text_injective h).symm, fun h => h ▸ rfl⟩
  unfold counted
  cases t.hasNamespace with
  | false => rfl
  | true =>
    rw [if_pos rfl, Metrics.observed_countReconciliation]
    simp only [hphase, Bool.true_and, decide_eq_true_eq]

theorem failures_counted : (t.counted d).failures = t.controller.metrics.failures := by
  unfold counted
  cases t.hasNamespace <;> rfl

theorem hasNamespace_of_ns {ns : String} (hns : t.resource.metadata.ns = some ns) :
    t.hasNamespace = true := by
  unfold hasNamespace
  rw [hns]
  rfl

/-- A turn that concludes leaves nothing to follow up. -/
theorem metrics_of_conclude {finish : Time} (hhas : t.hasNamespace = true)
    (hresult : t.result =
      t.controller.conclude t.resource (Controller.settle t.resource o) t.start finish) :
    t.followed.metrics = (t.counted (finish.since t.start)).noting (o.trouble t.resource.status) := by
  have hok := (Controller.conclude_spec t.controller t.resource
    (Controller.settle t.resource o) t.start finish).1
  rw [← hresult] at hok
  unfold followed counted
  rw [hok, hresult, if_pos hhas, ← Controller.error_settle]
  exact Controller.metrics_conclude

/-- At whichever end a turn arrives, what is counted has grown by its reconciliation and by what
surfaces in it. -/
theorem metrics_followed (t : Turn) :
    ∃ surfaced d, t.Surfaces surfaced ∧ t.followed.metrics = (t.counted d).noting surfaced := by
  cases hns : t.resource.metadata.ns with
  | none =>
    obtain ⟨-, hresult⟩ := Controller.runs_reconcile_of_unset hns t.runs
    refine ⟨_, .zero, .unset hns, ?_⟩
    unfold followed counted hasNamespace
    rw [hresult, hns]
    rfl
  | some ns =>
    have hhas := hasNamespace_of_ns hns
    obtain ⟨-, -, hbroken⟩ | ⟨walked, hwalk, hend⟩ := Controller.runs_reconcile hns t.runs
    · refine ⟨none, t.start.since t.start, .broken (congrArg Prod.fst hbroken), ?_⟩
      unfold followed counted
      rw [hbroken, if_pos hhas]
      rfl
    have ho : t.ComesTo ((t.controller.passOver t.resource ns).outcome walked) :=
      ⟨ns, hns, Pass.runs_of_walked hwalk⟩
    dsimp only at hend
    rcases hend with ⟨-, hwrites, hresult⟩ | ⟨s, ⟨written, arrival⟩, -, hwrites, hresult⟩
    · refine ⟨_, _, .judged ho ?_, metrics_of_conclude hhas hresult⟩
      rintro e ⟨w, hw, -⟩
      rw [hwrites] at hw
      cases hw
    · cases written with
      | ok u =>
        refine ⟨_, _, .judged ho ?_, metrics_of_conclude hhas hresult⟩
        rintro e ⟨w, hw, he⟩
        rw [hwrites, List.mem_singleton] at hw
        subst hw
        cases he
      | error e =>
        have hfails : t.FailsToWrite e := ⟨_, hwrites ▸ List.mem_singleton_self _, rfl⟩
        refine ⟨_, arrival.since t.start, .unwritten hfails, ?_⟩
        unfold followed counted
        rw [hresult, if_pos hhas]
        rfl

end Turn

/-! ### Runs of the watcher -/

/-- What is counted after some turns, with what has surfaced in each of them. -/
structure Metrics.Tally (m : Metrics) (turns : List Turn)
    (surfaced : List (Option ControllerError)) : Prop where
  /-- A reconciliation counts once if its resource has a namespace. -/
  reconciliations : m.reconciliations = turns.countP Turn.hasNamespace
  /-- Its duration is observed once, -/
  observations : m.durations.total Histogram.count = m.reconciliations
  /-- under the phase that the resource was in before. -/
  phases : ∀ phase : Phase, m.observed phase.text =
    turns.countP fun t => t.hasNamespace && t.phase = phase
  /-- An error counts once, under its label, if it surfaces, and else not at all. -/
  failures : ∀ label, m.failures.getD label 0 =
    surfaced.countP fun e => e.map ControllerError.label = some label

namespace Metrics

theorem tally_empty : Metrics.empty.Tally [] [] := ⟨rfl, rfl, fun _ => rfl, fun _ => rfl⟩

/-- A turn goes on from what was counted before it. -/
theorem Tally.turn {t : Turn} {turns : List Turn} {d : Duration}
    {surfaced : Option ControllerError} {earlier : List (Option ControllerError)}
    (h : t.controller.metrics.Tally turns earlier) :
    ((t.counted d).noting surfaced).Tally (t :: turns) (surfaced :: earlier) where
  reconciliations := by
    rw [reconciliations_noting, Turn.reconciliations_counted, h.reconciliations, List.countP_cons]
  observations := by
    rw [durations_noting, reconciliations_noting, Turn.total_counted,
      Turn.reconciliations_counted, h.observations]
  phases phase := by
    rw [observed, durations_noting, ← observed, Turn.observed_counted, h.phases, List.countP_cons]
  failures label := by
    rw [failures_noting, Turn.failures_counted, h.failures, List.countP_cons]
    simp only [decide_eq_true_eq]

end Metrics

/-- What the watcher has done with any resources, the last turn first, and the controller after
it. -/
inductive Watched (config : Config) : List Turn → Controller → Prop where
  | start : Watched config [] (.start config)
  | turn {turns : List Turn} {t : Turn} (earlier : Watched config turns t.controller) :
      Watched config (t :: turns) t.followed

namespace Watched

variable {config : Config} {turns : List Turn} {c : Controller}

theorem exists_tally (h : Watched config turns c) :
    ∃ surfaced, List.Forall₂ Turn.Surfaces turns surfaced ∧ c.metrics.Tally turns surfaced := by
  induction h with
  | start => exact ⟨[], .nil, Metrics.tally_empty⟩
  | @turn turns t earlier ih =>
    obtain ⟨before, hbefore, htally⟩ := ih
    obtain ⟨surfaced, d, hsurfaces, hmetrics⟩ := t.metrics_followed
    exact ⟨surfaced :: before, .cons hsurfaces hbefore, hmetrics ▸ htally.turn⟩

/-- **Every pass and every failure is counted once.**  The watcher reconciles any resources with
any statuses and meets with any answers and any failures to write.  Then each reconciliation of a
resource with a namespace has been counted once, and its duration observed once, under the phase
before it; and each error that surfaced has been counted once, under its label.  In every turn one
thing surfaces.  It is an error if the resource has no namespace, if the write failed, if the pass
ended in an error or if its outcome breaks a latch, and then that error is all that the turn adds
to the failures; else it is none, as in a turn that breaks off, and the turn adds nothing. -/
theorem counted_once (h : Watched config turns c) :
    (∃ surfaced, List.Forall₂ Turn.Surfaces turns surfaced ∧ c.metrics.Tally turns surfaced) ∧
    ∀ t ∈ turns, ∃ surfaced, (∀ e, t.Surfaces e ↔ e = surfaced) ∧
      (surfaced.isSome = true ↔ t.GoesWrong) ∧
      ∀ label, t.followed.metrics.failures.getD label 0 =
        t.controller.metrics.failures.getD label 0 +
          if surfaced.map ControllerError.label = some label then 1 else 0 := by
  refine ⟨h.exists_tally, fun t _ => ?_⟩
  obtain ⟨surfaced, d, hsurfaces, hmetrics⟩ := t.metrics_followed
  refine ⟨surfaced, fun e => ⟨fun he => he.unique hsurfaces, fun he => he ▸ hsurfaces⟩,
    hsurfaces.isSome_iff, fun label => ?_⟩
  rw [hmetrics, Metrics.failures_noting, Turn.failures_counted]

/-- The resource has no namespace; then its secret is missing and the write fails as well; then the
stored status is broken; then only the secret is missing; and then nothing is wrong. -/
theorem counted_once_in_trouble :
    ∃ turns c, Watched .standard turns c ∧ turns.length = 5 ∧ c.metrics.reconciliations = 4 ∧
      c.metrics.durations.total Histogram.count = 4 ∧ c.metrics.observed "Pending" = 3 ∧
      ∃ surfaced, List.Forall₂ Turn.Surfaces turns surfaced ∧
        ["WatchError", "DependencyUnavailable", "InvariantViolation"].map (fun label =>
          surfaced.countP fun e => e.map ControllerError.label = some label) = [1, 2, 1] := by
  let t₁ := Demo.turnOf (.start .standard) Demo.withoutNamespace Demo.world
  let t₂ := Demo.turnOf t₁.followed (Demo.resource none) Demo.unwritableWorld
  let t₃ := Demo.turnOf t₂.followed (Demo.resource (some Demo.broken)) Demo.world
  let t₄ := Demo.turnOf t₃.followed (Demo.resource none) Demo.emptyWorld
  let t₅ := Demo.turnOf t₄.followed (Demo.resource none) Demo.world
  have h : Watched .standard [t₅, t₄, t₃, t₂, t₁] t₅.followed :=
    .turn (t := t₅) (.turn (t := t₄) (.turn (t := t₃) (.turn (t := t₂) (.turn (t := t₁) .start))))
  obtain ⟨⟨surfaced, hsurfaced, htally⟩, -⟩ := counted_once h
  have hcounted : t₅.followed.metrics.reconciliations = 4 := htally.reconciliations
  refine ⟨_, _, h, rfl, hcounted, htally.observations.trans hcounted, htally.phases .pending,
    surfaced, hsurfaced, ?_⟩
  simp only [← htally.failures]
  decide +kernel

end Watched

end ControlPlane
