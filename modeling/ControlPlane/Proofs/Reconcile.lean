/-
What a reconciliation does outside.

A reconciliation is a pass and at most one write behind it.  `runs_reconcile` takes its
runs apart into the run of the walk, the verdict on it, and the end.  What may be written
is decided by `settle`: a status is written only if it breaks no latch of the stored one.
For what a pass can come to this leaves one case out, the stored status that is broken
itself, and of that nothing is written.

A reconciliation without a result is one whose pass breaks off, and it has done nothing.
-/
import ControlPlane.Controller
import ControlPlane.InMemory.World
import ControlPlane.Proofs.Breaks
import ControlPlane.Proofs.Latches

namespace ControlPlane

open Program (Runs)

/-- What a reconciliation does, each effect with its reply. -/
abbrev Effects := List (Program.Exchange Effect Effect.Reply)

/-- A write of a status, with its reply. -/
structure Write where
  ns : String
  name : String
  status : Status
  reply : WriteReply

/-- The calls among some effects. -/
def Effects.calls : Effects → Calls
  | [] => []
  | ⟨.call c _, reply⟩ :: rest => ⟨c, reply⟩ :: Effects.calls rest
  | ⟨.writeStatus .., _⟩ :: rest => Effects.calls rest

/-- The writes among some effects. -/
def Effects.writes : Effects → List Write
  | [] => []
  | ⟨.call .., _⟩ :: rest => Effects.writes rest
  | ⟨.writeStatus ns name status, reply⟩ :: rest => ⟨ns, name, status, reply⟩ :: Effects.writes rest

/-! ### A control plane to look at -/

namespace Demo

def template : MachineTemplate :=
  ⟨.empty, ⟨"AWSMachineTemplate", "clusters", "demo-cp", "infrastructure/v1"⟩, none, none, none⟩

/-- The resource with a stored status. -/
def resource (status : Option Status) : Resource :=
  ⟨{ name := some "demo", ns := some "clusters", generation := some 1 },
    ⟨template, ⟨"demo-install"⟩, none⟩, status⟩

/-- Collaborators of which the store has the install configuration. -/
def world : InMemory.World :=
  let w := InMemory.World.start ⟨0, 0⟩
  let secret : NamedSecret := ⟨"demo-install", .empty, .ofList [(installConfigKey, [1])]⟩
  { w with secrets := w.secrets.add "clusters" secret }

/-- Collaborators of which the store has nothing. -/
def emptyWorld : InMemory.World := .start ⟨0, 0⟩

/-- Collaborators that tell of a control-plane machine that has joined. -/
def joinedWorld : InMemory.World :=
  { world with provider := world.provider.join "clusters" "demo" true }

/-- A reconciliation of the resource by a new controller. -/
def reconcile (status : Option Status) :
    Program Effect Effect.Reply (Controller.Returned × Controller) :=
  (Controller.start .standard).reconcile (resource status) ⟨0, 0⟩

/-- What the reconciliation does against some collaborators. -/
def effects (status : Option Status) (w : InMemory.World) : Effects :=
  (reconcile status).trace InMemory.World.answer w

/-- What the reconciliation comes to. -/
def result (status : Option Status) (w : InMemory.World) :
    Controller.Returned × Controller :=
  ((reconcile status).run InMemory.World.answer w).1

theorem runs (status : Option Status) (w : InMemory.World) :
    Runs (reconcile status) (effects status w) (result status w) :=
  Program.runs_trace _ _ _

/-- The status that the reconciliation writes, if it writes. -/
def written (status : Option Status) (w : InMemory.World) : Option Status :=
  (Effects.writes (effects status w)).head?.map (·.status)

theorem exists_write {status : Option Status} {w : InMemory.World} {s : Status}
    (h : written status w = some s) : ∃ wr ∈ Effects.writes (effects status w), wr.status = s := by
  obtain ⟨wr, hwr, hs⟩ := Option.map_eq_some_iff.mp h
  exact ⟨wr, List.mem_of_mem_head? hwr, hs⟩

/-- Some collaborators answer a call of a pass. -/
def answerCall (c : Call) (w : InMemory.World) : c.Reply × InMemory.World :=
  w.callWithin c (c.budget .standard)

theorem exists_outcome {p : Pass} {w : InMemory.World} (P : PassOutcome → Prop) [DecidablePred P]
    (h : (((p.run ⟨0, 0⟩).run answerCall w).1.any fun o => decide (P o)) = true) :
    ∃ o, Runs (p.run ⟨0, 0⟩) ((p.run ⟨0, 0⟩).trace answerCall w) (some o) ∧ P o := by
  have hrun := Program.runs_trace answerCall (p.run ⟨0, 0⟩) w
  cases hended : ((p.run ⟨0, 0⟩).run answerCall w).1 with
  | none =>
    rw [hended] at h
    cases h
  | some o =>
    rw [hended] at h hrun
    exact ⟨o, hrun, of_decide_eq_true h⟩

/-- A status that is ready and not initialized. -/
def broken : Status := { Status.blank with ready := true }

/-- A text that is not read to its end: its additions fit, but the seconds are then at their most
and the nanoseconds are a whole second more. -/
def spillingText : String := "18446744073709551615s1000000000ns"

/-- The template with that text in it. -/
def spillingTemplate : MachineTemplate := { template with nodeDrainTimeout := some spillingText }

/-- The resource with that template in its spec. -/
def spilling (status : Option Status) : Resource :=
  { resource status with spec := ⟨spillingTemplate, ⟨"demo-install"⟩, none⟩ }

end Demo

namespace Controller

variable {config : Config} {c : Controller} {r : Resource} {ns : String} {start : Time}

/-! ### The pass of a reconciliation -/

/-- A call as a reconciliation makes it. -/
def withinBudget (config : Config) (e : Program.Exchange Call Call.Reply) :
    Program.Exchange Effect Effect.Reply :=
  ⟨.call e.1 (e.1.budget config), e.2⟩

theorem calls_withinBudget (log : Calls) (rest : Effects) :
    Effects.calls (log.map (withinBudget config) ++ rest) = log ++ Effects.calls rest := by
  induction log with
  | nil => rfl
  | cons e log ih => exact congrArg (e :: ·) ih

theorem writes_withinBudget (log : Calls) (rest : Effects) :
    Effects.writes (log.map (withinBudget config) ++ rest) = Effects.writes rest := by
  induction log with
  | nil => rfl
  | cons e log ih => exact ih

theorem runs_passWithin {α : Type} {p : Program Call Call.Reply α} {log : Effects} {a : α}
    (h : Runs (passWithin config p) log a) :
    ∃ calls, log = calls.map (withinBudget config) ∧ Runs p calls a := by
  induction p generalizing log with
  | done b =>
    cases h
    exact ⟨[], rfl, .done _⟩
  | ask c next ih =>
    cases h with
    | @ask _ _ reply _ _ rest =>
      obtain ⟨calls, rfl, hruns⟩ := ih reply rest
      exact ⟨⟨c, reply⟩ :: calls, rfl, .ask hruns⟩

/-- The pass over a resource. -/
abbrev passOver (c : Controller) (r : Resource) (ns : String) : Pass := ⟨c.config, r, ns⟩

/-- Where the pass over a resource starts. -/
def standingAt (r : Resource) (start : Time) : Standing := ⟨r.status.getD .blank, start⟩

/-- A reconciliation walks, judges what it has come to, and writes at most once; or its pass breaks
off, and then it has done nothing. -/
theorem runs_reconcile {log : Effects} {result : Returned × Controller}
    (hns : r.metadata.ns = some ns) (h : Runs (c.reconcile r start) log result) :
    (log = [] ∧ (c.passOver r ns).judge (r.status.getD .blank).boundTemplate = .abort ∧
      result = (none, c.measure r start start)) ∨
    ∃ walked, Runs ((c.passOver r ns).walk (standingAt r start)) (Effects.calls log) (some walked) ∧
      let o := (c.passOver r ns).outcome walked
      let v := settle r o
      (v.write? r.status = none ∧ Effects.writes log = [] ∧
          result = c.conclude r v start o.finish) ∨
        ∃ s reply, v.write? r.status = some s ∧ Effects.writes log = [⟨ns, r.name, s, reply⟩] ∧
          result = match reply.result with
            | .ok () => c.conclude r v start reply.arrival
            | .error e => (some (.error e), c.measure r start reply.arrival) := by
  unfold reconcile at h
  rw [hns] at h
  obtain ⟨first, o, second, rfl, hpass, hend⟩ := Program.runs_bind_iff.mp h
  obtain ⟨calls, rfl, hrun⟩ := runs_passWithin hpass
  cases o with
  | none =>
    cases hend
    obtain ⟨rfl, habort⟩ := Pass.runs_none_iff.mp hrun
    exact .inl ⟨rfl, habort, rfl⟩
  | some o =>
    obtain ⟨walked, s', hwalk, rfl⟩ := Pass.exists_walked hrun
    have hcalls : ∀ rest : Effects, Effects.calls rest = [] →
        Runs ((c.passOver r ns).walk (standingAt r start))
          (Effects.calls (calls.map (withinBudget c.config) ++ rest)) (some (walked, s')) := by
      intro rest hrest
      rw [calls_withinBudget, hrest, List.append_nil]
      exact hwalk
    refine .inr ⟨(walked, s'), ?_⟩
    rw [writes_withinBudget]
    dsimp only at hend ⊢
    cases hwrite : (settle r ((c.passOver r ns).outcome (walked, s'))).write? r.status with
    | none =>
      rw [hwrite] at hend
      cases hend
      exact ⟨hcalls [] rfl, .inl ⟨rfl, rfl, rfl⟩⟩
    | some s =>
      rw [hwrite] at hend
      cases hend with
      | @ask _ _ reply _ _ rest =>
        obtain ⟨written, arrival⟩ := reply
        cases written with
        | ok u =>
          cases rest
          exact ⟨hcalls [_] rfl, .inr ⟨s, ⟨.ok u, arrival⟩, rfl, rfl, rfl⟩⟩
        | error e =>
          cases rest
          exact ⟨hcalls [_] rfl, .inr ⟨s, ⟨.error e, arrival⟩, rfl, rfl, rfl⟩⟩

/-- A pass that breaks off is all that a reconciliation is then. -/
theorem reconcile_of_abort (hns : r.metadata.ns = some ns)
    (habort : (c.passOver r ns).judge (r.status.getD .blank).boundTemplate = .abort) :
    c.reconcile r start = .done (none, c.measure r start start) := by
  have hpass : (c.passOver r ns).run start = .done none :=
    Program.runs_nil_iff.mp (Pass.runs_none_iff.mpr ⟨rfl, habort⟩)
  unfold reconcile
  rw [hns]
  dsimp only
  rw [hpass]
  rfl

section Ended

variable {log : Effects} {result : Returned × Controller}

/-- Nothing is returned exactly if the pass breaks off. -/
theorem returned_eq_none_iff (hns : r.metadata.ns = some ns)
    (h : Runs (c.reconcile r start) log result) : result.1 = none ↔
      (c.passOver r ns).judge (r.status.getD .blank).boundTemplate = .abort := by
  constructor
  · intro hnone
    obtain ⟨-, habort, -⟩ | ⟨walked, -, hend⟩ := runs_reconcile hns h
    · exact habort
    · dsimp only at hend
      rcases hend with ⟨-, -, rfl⟩ | ⟨s, ⟨written, arrival⟩, -, -, rfl⟩
      · cases hnone
      · cases written <;> cases hnone
  · intro habort
    rw [reconcile_of_abort hns habort] at h
    cases h
    rfl

/-- A reconciliation that returns nothing has done nothing. -/
theorem eq_nil_of_broken (hns : r.metadata.ns = some ns)
    (h : Runs (c.reconcile r start) log result) (hnone : result.1 = none) : log = [] := by
  rw [reconcile_of_abort hns ((returned_eq_none_iff hns h).mp hnone)] at h
  cases h
  rfl

/-- A reconciliation does nothing at all, or it has a walk that comes to an end. -/
theorem walk_cases (hns : r.metadata.ns = some ns) (h : Runs (c.reconcile r start) log result) :
    (log = [] ∧ (c.passOver r ns).judge (r.status.getD .blank).boundTemplate = .abort) ∨
      ∃ walked,
        Runs ((c.passOver r ns).walk (standingAt r start)) (Effects.calls log) (some walked) := by
  obtain ⟨hlog, habort, -⟩ | ⟨walked, hwalk, -⟩ := runs_reconcile hns h
  · exact .inl ⟨hlog, habort⟩
  · exact .inr ⟨walked, hwalk⟩

theorem exists_walk_of_calls (hns : r.metadata.ns = some ns)
    (h : Runs (c.reconcile r start) log result) (hcalls : Effects.calls log ≠ []) :
    ∃ walked,
      Runs ((c.passOver r ns).walk (standingAt r start)) (Effects.calls log) (some walked) := by
  obtain ⟨rfl, -⟩ | hwalk := walk_cases hns h
  · exact absurd rfl hcalls
  · exact hwalk

theorem exists_walk_of_accepted (hns : r.metadata.ns = some ns)
    (h : Runs (c.reconcile r start) log result)
    (haccepted : (c.passOver r ns).judge (r.status.getD .blank).boundTemplate = .ok ()) :
    ∃ walked,
      Runs ((c.passOver r ns).walk (standingAt r start)) (Effects.calls log) (some walked) := by
  obtain ⟨-, habort⟩ | hwalk := walk_cases hns h
  · rw [haccepted] at habort
    cases habort
  · exact hwalk

end Ended

/-! ### The verdict -/

theorem write?_eq_some_iff {v : Verdict} {stored : Option Status} {s : Status} :
    v.write? stored = some s ↔ v.writable = true ∧ stored ≠ some v.status ∧ v.status = s := by
  unfold Verdict.write?
  by_cases h : v.writable = true ∧ stored ≠ some v.status
  · simp [h]
  · rw [if_neg (by simpa using h)]
    simp only [reduceCtorEq, false_iff, not_and]
    exact fun hwritable hne => absurd ⟨hwritable, hne⟩ h

/-- A verdict allows a write only of what breaks no latch of the stored status. -/
theorem checkTransition_of_writable {o : PassOutcome} (h : (settle r o).writable = true) :
    Status.checkTransition r.status (settle r o).status = .ok () := by
  unfold settle at h ⊢
  split
  · assumption
  · rename_i violation hviolation
    rw [hviolation] at h
    dsimp only at h ⊢
    cases hcheck : Status.checkTransition r.status _ with
    | ok u => rfl
    | error e => rw [hcheck] at h; cases h

/-- A discarded pass leaves a status with the latches of the stored one. -/
theorem settle_of_error {o : PassOutcome} {violation : LatchViolation}
    (h : Status.checkTransition r.status o.status = .error violation) :
    settle r o =
      let error := ControllerError.invariantViolation violation
      let status := (r.status.getD .blank).reportError none error r.generation o.finish
      ⟨status, .awaitChange, some error, (Status.checkTransition r.status status).isOk⟩ := by
  unfold settle
  rw [h]

theorem settle_of_ok {o : PassOutcome} (h : Status.checkTransition r.status o.status = .ok ()) :
    settle r o = ⟨o.status, o.requeue, o.error, true⟩ := by
  unfold settle
  rw [h]

/-- What follows a status that is not broken breaks no latch of it. -/
theorem checkTransition_of_follows {stored : Option Status} {log : Calls} {after : Status}
    (hsound : (stored.getD .blank).ready = true → (stored.getD .blank).initialized = true)
    (hfollows : (stored.getD .blank).Follows log after) :
    Status.checkTransition stored after = .ok () := by
  rw [Status.checkTransition_ok_iff]
  refine ⟨fun h => ?_, fun h => ?_, fun h => ?_⟩
  · rw [hfollows.initialized, h, Bool.true_or]
  · rw [hfollows.ready, h, Bool.true_or]
  · rw [hfollows.ready, Bool.or_eq_true] at h
    rcases h with hready | hseen
    · rw [hfollows.initialized, hsound hready, Bool.true_or]
    · exact hfollows.inTurn hseen

/-- What is written is what the pass has to say.  A pass is discarded only over a broken
status, and over that one the report of the violation may not be written either. -/
theorem status_of_writable {o : PassOutcome} {log : Calls}
    (hfollows : (r.status.getD .blank).Follows log o.status)
    (h : (settle r o).writable = true) : (settle r o).status = o.status := by
  cases hcheck : Status.checkTransition r.status o.status with
  | ok u => rw [settle_of_ok hcheck]
  | error violation =>
    have hallowed := checkTransition_of_writable h
    rw [settle_of_error hcheck, Status.checkTransition_ok_iff] at hallowed
    obtain ⟨-, -, hsound⟩ := hallowed
    rw [Status.reportError_ready, Status.reportError_initialized] at hsound
    rw [checkTransition_of_follows hsound hfollows] at hcheck
    cases hcheck

/-- Nothing may be written over a broken status by what leaves its latches. -/
theorem checkTransition_of_broken {p s : Status} (hready : p.ready = true)
    (hinit : p.initialized = false) (hsready : s.ready = p.ready)
    (hsinit : s.initialized = p.initialized) :
    Status.checkTransition (some p) s = .error .readyBeforeInitialized := by
  unfold Status.checkTransition
  simp [hready, hinit, hsready, hsinit]

/-! ### Writes -/

/-- Whatever a reconciliation writes is the outcome of its pass, goes to the resource, and
breaks no latch of the status that the resource was handed over with. -/
theorem of_mem_writes {log : Effects} {result : Returned × Controller} {w : Write}
    (hns : r.metadata.ns = some ns) (h : Runs (c.reconcile r start) log result)
    (hw : w ∈ Effects.writes log) :
    w.ns = ns ∧ w.name = r.name ∧ r.status ≠ some w.status ∧
      Status.checkTransition r.status w.status = .ok () ∧
      ∃ walked,
        Runs ((c.passOver r ns).walk (standingAt r start)) (Effects.calls log) (some walked) ∧
        w.status = ((c.passOver r ns).outcome walked).status := by
  obtain ⟨rfl, -⟩ | ⟨walked, hwalk, hend⟩ := runs_reconcile hns h
  · cases hw
  dsimp only at hend
  rcases hend with ⟨-, hnone, -⟩ | ⟨s, reply, hwrite, hwrites, -⟩
  · rw [hnone] at hw
    cases hw
  · rw [hwrites, List.mem_singleton] at hw
    subst hw
    obtain ⟨hwritable, hne, rfl⟩ := write?_eq_some_iff.mp hwrite
    exact ⟨rfl, rfl, hne, checkTransition_of_writable hwritable, walked, hwalk,
      status_of_writable (Pass.follows_outcome hwalk) hwritable⟩

theorem length_writes {log : Effects} {result : Returned × Controller}
    (hns : r.metadata.ns = some ns) (h : Runs (c.reconcile r start) log result) :
    (Effects.writes log).length ≤ 1 := by
  obtain ⟨rfl, -⟩ | ⟨walked, -, hend⟩ := runs_reconcile hns h
  · exact Nat.zero_le 1
  dsimp only at hend
  rcases hend with ⟨-, hnone, -⟩ | ⟨s, reply, -, hwrites, -⟩
  · simp [hnone]
  · simp [hwrites]

/-- A violation is counted once, under its own label and no other. -/
theorem getD_countFailure {m : Metrics} {e : ControllerError} {label : String} :
    (m.countFailure e).failures.getD label 0 =
      m.failures.getD label 0 + if label = e.label then 1 else 0 := by
  unfold Metrics.countFailure
  dsimp only
  rw [Table.getD, Table.get?_insert]
  by_cases h : label = e.label
  · rw [if_pos h, if_pos h, h]
    rfl
  · rw [if_neg h, if_neg h]
    rfl

/-- Over a broken status a reconciliation writes nothing, and counts the violation if it returns. -/
theorem reconcile_broken {p : Status} {log : Effects} {result : Returned × Controller}
    (hns : r.metadata.ns = some ns) (hstatus : r.status = some p) (hready : p.ready = true)
    (hinit : p.initialized = false) (h : Runs (c.reconcile r start) log result) :
    Effects.writes log = [] ∧ (result.1 ≠ none → result.1 = some (.ok .awaitChange) ∧
      ∀ label, result.2.metrics.failures.getD label 0 =
        c.metrics.failures.getD label 0 + if label = "InvariantViolation" then 1 else 0) := by
  obtain ⟨rfl, -, rfl⟩ | ⟨walked, hwalk, hend⟩ := runs_reconcile hns h
  · exact ⟨rfl, fun hreturned => absurd rfl hreturned⟩
  have hstanding : (standingAt r start).status = p := by simp [standingAt, hstatus]
  have hquiet : Effects.calls log = [] :=
    Pass.ends_walk_of_ready (by rw [hstanding, hready]) _ walked.1 walked.2 hwalk
  have hfollows := Pass.follows_outcome hwalk
  rw [hstanding, hquiet] at hfollows
  have hcheck : Status.checkTransition r.status ((c.passOver r ns).outcome walked).status =
      .error .readyBeforeInitialized := by
    rw [hstatus]
    exact checkTransition_of_broken hready hinit (by simpa using hfollows.ready)
      (by simpa using hfollows.initialized)
  dsimp only at hend
  rw [settle_of_error hcheck] at hend
  rcases hend with ⟨-, hnone, hresult⟩ | ⟨s, reply, hwrite, -, -⟩
  · subst hresult
    exact ⟨hnone, fun _ => ⟨rfl, fun label => getD_countFailure⟩⟩
  · obtain ⟨hwritable, -, -⟩ := write?_eq_some_iff.mp hwrite
    dsimp only at hwritable
    rw [hstatus, checkTransition_of_broken hready hinit (by simp) (by simp)] at hwritable
    cases hwritable

/-- **What is stored is guarded.**  Whatever status a resource is handed over with, and
however the collaborators answer, a reconciliation writes at most once, to the resource,
and only a status that differs from the stored one and breaks no latch of it.  So a latch
that is set stays set, and `ready` never comes before `initialized`; over a stored status
that is broken in this way nothing is written at all, and the violation is counted if the
reconciliation returns.  Against any collaborators it does, unless the judgement of its spec
breaks off; then it has done nothing. -/
theorem reconcile_write_guarded (hns : r.metadata.ns = some ns) :
    (∀ (σ : Type) (answer : (e : Effect) → σ → e.Reply × σ) (w : σ),
      ((c.reconcile r start).run answer w).1.1 = none ↔
        (c.passOver r ns).judge (r.status.getD .blank).boundTemplate = .abort) ∧
    ∀ log result, Runs (c.reconcile r start) log result →
      (result.1 = none → log = []) ∧
      (Effects.writes log).length ≤ 1 ∧
      (∀ w ∈ Effects.writes log, w.ns = ns ∧ w.name = r.name ∧ r.status ≠ some w.status ∧
        Status.checkTransition r.status w.status = .ok () ∧
        (∀ p, r.status = some p → (p.initialized = true → w.status.initialized = true) ∧
          (p.ready = true → w.status.ready = true)) ∧
        (w.status.ready = true → w.status.initialized = true)) ∧
      ∀ p, r.status = some p → p.ready = true → p.initialized = false →
        Effects.writes log = [] ∧ (result.1 ≠ none → result.1 = some (.ok .awaitChange) ∧
          ∀ label, result.2.metrics.failures.getD label 0 =
            c.metrics.failures.getD label 0 + if label = "InvariantViolation" then 1 else 0) := by
  refine ⟨fun σ answer w => returned_eq_none_iff hns (Program.runs_trace answer _ w),
    fun log result hrun => ⟨eq_nil_of_broken hns hrun, length_writes hns hrun, fun w hw => ?_,
      fun p hp hready hinit => reconcile_broken hns hp hready hinit hrun⟩⟩
  obtain ⟨hwns, hwname, hne, hcheck, -⟩ := of_mem_writes hns hrun hw
  obtain ⟨hinitialized, hready, hordered⟩ := Status.checkTransition_ok_iff.mp hcheck
  refine ⟨hwns, hwname, hne, hcheck, fun p hp => ?_, hordered⟩
  rw [hp] at hinitialized hready
  exact ⟨hinitialized, hready⟩

theorem reconcile_write_guarded_demo :
    (Demo.resource none).metadata.ns = some "clusters" ∧
    (∃ w ∈ Effects.writes (Demo.effects none Demo.world),
      w.name = "demo" ∧ Status.checkTransition none w.status = .ok ()) ∧
    Effects.writes (Demo.effects (some Demo.broken) Demo.world) = [] ∧
    (Demo.result (some Demo.broken) Demo.world).1 = some (.ok .awaitChange) := by
  have hwrites : (Effects.writes (Demo.effects none Demo.world)).length = 1 := by decide +kernel
  have hreturned : (Demo.result (some Demo.broken) Demo.world).1.isSome = true := by decide +kernel
  obtain ⟨-, -, hguarded, -⟩ := (reconcile_write_guarded rfl).2 _ _ (Demo.runs none Demo.world)
  obtain ⟨-, -, -, hbroken⟩ :=
    (reconcile_write_guarded rfl).2 _ _ (Demo.runs (some Demo.broken) Demo.world)
  obtain ⟨w, hw⟩ := List.length_eq_one_iff.mp hwrites
  have hmem : w ∈ Effects.writes (Demo.effects none Demo.world) := by simp [hw]
  obtain ⟨-, hname, -, hcheck, -⟩ := hguarded w hmem
  obtain ⟨hnone, hcounts⟩ := hbroken Demo.broken rfl rfl rfl
  exact ⟨rfl, ⟨w, hmem, hname, hcheck⟩, hnone, (hcounts (Option.isSome_iff_ne_none.mp hreturned)).1⟩

/-- Over a broken status the violation is not counted if the spec has a timeout that is not read
to its end: whatever the reconciliation is answered, nothing is returned. -/
theorem violation_not_counted :
    (Demo.spilling (some Demo.broken)).status = some Demo.broken ∧ Demo.broken.ready = true ∧
    Demo.broken.initialized = false ∧
    ∀ log result,
      Runs ((Controller.start .standard).reconcile (Demo.spilling (some Demo.broken)) ⟨0, 0⟩) log
        result → result.1 = none ∧ result.2.metrics.failures.getD "InvariantViolation" 0 = 0 := by
  refine ⟨rfl, rfl, rfl, fun log result hrun => ?_⟩
  have habort : ((Controller.start .standard).passOver (Demo.spilling (some Demo.broken))
      "clusters").judge Demo.broken.boundTemplate = .abort := by decide +kernel
  rw [reconcile_of_abort rfl habort] at hrun
  cases hrun
  exact ⟨rfl, by decide⟩

end Controller

end ControlPlane
