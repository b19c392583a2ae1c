/-
Control planes that share their collaborators.

A reconciliation has two halves.  What it leaves behind is confined to the part of its own
cluster and to the retries under its own key (`spares_reconcileIn`).  What it comes to depends
on nothing else (`alike_reconcileIn`): the walk asks only of its own cluster, and clocks show
only in the times of what is written.  So of two reconciliations of different resources each
comes to the same before the other and behind it, and what both leave can be put together.
-/
import ControlPlane.Proofs.InMemory
import ControlPlane.Proofs.Reports
import ControlPlane.Proofs.Retries

namespace ControlPlane

open InMemory

/-- A control plane that is called like a machine of `Demo.resource`. -/
def Demo.neighbour : Resource :=
  { Demo.resource none with
    metadata := { (Demo.resource none).metadata with name := some "demo-bootstrap" } }

namespace Controller

variable {c c' : Controller} {r r' : Resource} {ns key : String} {start start' finish finish' : Time}
  {w w' : World} {v v' : Verdict}

/-- What a reconciliation against the collaborators in memory comes to. -/
structure Reconciled where
  result : Returned
  controller : Controller
  world : World
  writes : List Write

def reconcileIn (c : Controller) (r : Resource) (start : Time) (w : World) : Reconciled :=
  let p := c.reconcile r start
  let ((result, controller), world) := p.run World.answer w
  ⟨result, controller, world, Effects.writes (p.trace World.answer w)⟩

/-- What is committed, and where, by a clock that is not read. -/
def Reconciled.committed (x : Reconciled) : List (String × String × Status) :=
  x.writes.map fun w => (w.ns, w.name, w.status.timeless)

/-! ### The parts of a reconciliation -/

theorem run_passWithin {α : Type} {config : Config} (p : Program Call Call.Reply α) (w : World) :
    (passWithin config p).run World.answer w = p.run (World.answerCall config) w := by
  induction p generalizing w with
  | done a => rfl
  | ask c next ih => exact ih _ _

theorem writes_passWithin {α β : Type} {config : Config} (p : Program Call Call.Reply α)
    (f : α → Program Effect Effect.Reply β) (w : World) :
    Effects.writes (((passWithin config p).bind f).trace World.answer w) =
      Effects.writes ((f (p.run (World.answerCall config) w).1).trace World.answer
        (p.run (World.answerCall config) w).2) := by
  induction p generalizing w with
  | done a => rfl
  | ask c next ih => exact ih _ _

/-- The walk of a reconciliation, and the world at its end. -/
def walkIn (c : Controller) (r : Resource) (ns : String) (start : Time) (w : World) :
    Option (Except Stop Requeue × Standing) × World :=
  ((c.passOver r ns).walk (standingAt r start)).run (World.answerCall c.config) w

/-- The verdict on a pass by the end of its walk. -/
def verdictOn (c : Controller) (r : Resource) (ns : String)
    (walked : Except Stop Requeue × Standing) : Verdict :=
  settle r ((c.passOver r ns).outcome walked)

/-- What a reconciliation does once its pass is over. -/
def commit (c : Controller) (r : Resource) (ns : String) (start : Time) :
    Option PassOutcome → Program Effect Effect.Reply (Returned × Controller)
  | none => .done (none, c.measure r start start)
  | some o =>
    let v := settle r o
    match v.write? r.status with
    | none => .done (c.conclude r v start o.finish)
    | some status =>
      .ask (.writeStatus ns r.name status) fun reply =>
        match reply.result with
        | .ok () => .done (c.conclude r v start reply.arrival)
        | .error e => .done (some (.error e), c.measure r start reply.arrival)

theorem reconcile_eq (hns : r.metadata.ns = some ns) : c.reconcile r start =
    (passWithin c.config (Pass.run (c.passOver r ns) start)).bind (c.commit r ns start) := by
  unfold reconcile
  rw [hns]
  rfl

/-- A reconciliation whose pass breaks off leaves the world as it was. -/
theorem reconcileIn_of_broken (hns : r.metadata.ns = some ns)
    (hbroken : (c.walkIn r ns start w).1 = none) :
    c.reconcileIn r start w = ⟨none, c.measure r start start, w, []⟩ := by
  have hwalk := Program.runs_trace (World.answerCall c.config)
    ((c.passOver r ns).walk (standingAt r start)) w
  unfold walkIn at hbroken
  rw [hbroken] at hwalk
  unfold reconcileIn
  rw [reconcile_of_abort hns (Pass.runs_walk_none_iff.mp hwalk).2]
  rfl

/-- A reconciliation in memory: the walk, the verdict, at most one write, and the end unless the
write is rejected. -/
theorem reconcileIn_spec (start : Time) (w : World) (hns : r.metadata.ns = some ns)
    {walked : Except Stop Requeue × Standing} (hwalked : (c.walkIn r ns start w).1 = some walked)
    (cluster machine : ObjectKey → Prop) :
    let x := c.reconcileIn r start w
    let v := c.verdictOn r ns walked
    let after := (c.walkIn r ns start w).2
    x.committed = ((v.write? r.status).map Status.timeless).toList.map (fun s => (ns, r.name, s)) ∧
      World.Agree cluster machine after x.world ∧
      if (v.write? r.status).isSome && after.writerFails then
        x.result = some (.error (.dependencyUnavailable "status write rejected")) ∧
          x.controller.config = c.config ∧ x.controller.backoff = c.backoff
      else ∃ finish, (x.result, x.controller) = c.conclude r v start finish := by
  have hpass : (Pass.run (c.passOver r ns) start).run (World.answerCall c.config) w =
      (some ((c.passOver r ns).outcome walked), (c.walkIn r ns start w).2) := by
    rw [← Option.map_some, ← hwalked]
    exact Program.run_bind _ _ _ w
  unfold reconcileIn
  rw [reconcile_eq hns]
  dsimp only
  rw [Program.run_bind, writes_passWithin, run_passWithin, hpass]
  unfold verdictOn commit
  dsimp only
  cases (settle r ((c.passOver r ns).outcome walked)).write? r.status with
  | none => exact ⟨rfl, .refl _, _, rfl⟩
  | some s =>
    cases hfails : (c.walkIn r ns start w).2.writerFails with
    | true =>
      have hwrite : (c.walkIn r ns start w).2.writeStatus s =
          (⟨.error (.dependencyUnavailable "status write rejected"),
            (c.walkIn r ns start w).2.now⟩, (c.walkIn r ns start w).2) := if_pos hfails
      simp only [Program.run, Program.trace, World.answer, hwrite]
      exact ⟨rfl, .refl _, trivial, rfl, rfl⟩
    | false =>
      have hwrite : (c.walkIn r ns start w).2.writeStatus s =
          (⟨.ok (), (c.walkIn r ns start w).2.now⟩,
            { (c.walkIn r ns start w).2 with
              written := s :: (c.walkIn r ns start w).2.written }) := if_neg (by simp [hfails])
      simp only [Program.run, Program.trace, World.answer, hwrite]
      exact ⟨rfl, ⟨rfl, fun _ _ => rfl, fun _ _ => rfl, fun _ _ => rfl⟩, _, rfl⟩

/-! ### What a reconciliation leaves to others -/

/-- The retries of a key, if it has any. -/
abbrev retriesOf (c : Controller) (key : String) : Option Retries := c.backoff.retries.get? key

theorem config_conclude {result : Returned}
    (h : (result, c') = c.conclude r v start finish) : c'.config = c.config := by
  have hconfig := (conclude_spec c r v start finish).2.1
  rw [← h] at hconfig
  exact hconfig

theorem conclude_spares (hkey : key ≠ keyOf r) {result : Returned}
    (h : (result, c') = c.conclude r v start finish) : c'.retriesOf key = c.retriesOf key := by
  have hbackoff := (conclude_spec c r v start finish).2.2
  rw [← h] at hbackoff
  dsimp only at hbackoff
  rw [retriesOf, hbackoff]
  cases v.error <;> cases v.requeue <;>
    simp only [BackoffTracker.get?_next, BackoffTracker.get?_reset, if_neg hkey]

theorem reconcileIn_of_unset (hns : r.metadata.ns = none) : c.reconcileIn r start w =
    ⟨some (.error (.watch ("OpenShiftControlPlane " ++ r.name ++ " has no namespace"))), c, w,
      []⟩ := by
  have hdone : c.reconcile r start =
      .done (some (.error (.watch ("OpenShiftControlPlane " ++ r.name ++ " has no namespace"))),
        c) := by
    unfold reconcile
    rw [hns]
  unfold reconcileIn
  rw [hdone]
  rfl

/-- A pass asks of the cluster of its resource only. -/
theorem asks_passOver (hns : r.metadata.ns = some ns) (s : Standing) :
    ((c.passOver r ns).walk s).Asks (Call.Concerns r.key) := by
  have hkey : (c.passOver r ns).key = r.key := by
    unfold Resource.key
    rw [hns]
    rfl
  rw [← hkey]
  exact Pass.asks_walk s

/-- A reconciliation leaves the parts of all other clusters and the retries under all other
keys. -/
theorem spares_reconcileIn (c : Controller) (r : Resource) (start : Time) (hw : w.Prompt) :
    let x := c.reconcileIn r start w
    World.Spares r.key w x.world ∧ x.controller.config = c.config ∧
      ∀ key, key ≠ keyOf r → x.controller.retriesOf key = c.retriesOf key := by
  cases hns : r.metadata.ns with
  | none =>
    rw [reconcileIn_of_unset hns]
    exact ⟨.refl w, rfl, fun _ _ => rfl⟩
  | some ns =>
    cases hwalked : (c.walkIn r ns start w).1 with
    | none =>
      rw [reconcileIn_of_broken hns hwalked]
      exact ⟨.refl w, rfl, fun _ _ => rfl⟩
    | some walked =>
      obtain ⟨-, hleft, hend⟩ :=
        reconcileIn_spec (c := c) start w hns hwalked (· ≠ r.key) fun x => ¬Owns r.key x
      have hwalk : World.Spares r.key w (c.walkIn r ns start w).2 :=
        World.spares_run (asks_passOver hns _) hw
      refine ⟨hwalk.trans hleft, ?_⟩
      split at hend
      · obtain ⟨-, hconfig, hbackoff⟩ := hend
        exact ⟨hconfig, fun key _ => by rw [retriesOf, hbackoff]⟩
      · obtain ⟨finish, hconclude⟩ := hend
        exact ⟨config_conclude hconclude, fun key hkey => conclude_spares hkey hconclude⟩

/-! ### What a reconciliation comes to -/

/-- Two verdicts are the same, times apart. -/
structure Verdict.Alike (v v' : Verdict) : Prop where
  status : v'.status.timeless = v.status.timeless
  requeue : v'.requeue = v.requeue
  error : v'.error = v.error
  writable : v'.writable = v.writable

theorem settle_alike {o o' : PassOutcome} (hstatus : o'.status.timeless = o.status.timeless)
    (hrequeue : o'.requeue = o.requeue) (herror : o'.error = o.error) :
    (settle r o).Alike (settle r o') := by
  have hcheck : Status.checkTransition r.status o'.status =
      Status.checkTransition r.status o.status := by
    rw [← Status.checkTransition_timeless, hstatus, Status.checkTransition_timeless]
  cases h : Status.checkTransition r.status o.status with
  | ok _ =>
    rw [settle_of_ok h, settle_of_ok (hcheck.trans h)]
    exact ⟨hstatus, hrequeue, herror, rfl⟩
  | error violation =>
    rw [settle_of_error h, settle_of_error (hcheck.trans h)]
    have htold : ∀ now, ((r.status.getD .blank).reportError none (.invariantViolation violation)
        r.generation now).timeless = (r.status.getD .blank).timeless.reportError none
          (.invariantViolation violation) r.generation .epoch :=
      fun _ => Status.timeless_reportError
    refine ⟨(htold _).trans (htold _).symm, rfl, rfl, ?_⟩
    dsimp only
    rw [← Status.checkTransition_timeless, htold, ← htold o.finish,
      Status.checkTransition_timeless]

/-- What a verdict tells was reported once at most. -/
theorem reported_settle {walked : Except Stop Requeue × Standing} {log : Calls}
    (hwalk : Program.Runs ((c.passOver r ns).walk (standingAt r start)) log (some walked)) :
    (r.status.getD .blank).Reported 0 8 (settle r ((c.passOver r ns).outcome walked)).status := by
  have hgoes := Pass.reported_of_goes (Pass.goes_walk log walked.1 walked.2 hwalk)
  cases h : Status.checkTransition r.status ((c.passOver r ns).outcome walked).status with
  | ok _ =>
    rw [settle_of_ok h]
    dsimp only
    rw [Pass.status_outcome]
    exact hgoes
  | error violation =>
    rw [settle_of_error h]
    have hblames : (⟨.invariantViolation violation, none, .awaitChange⟩ : Stop).BlamesFrom 0 := nofun
    dsimp only
    rw [Status.reportError_eq_tell]
    exact .tell (Status.rises_errorReports (Nat.zero_le 6) hblames) (Nat.zero_le 8)

/-- Verdicts that are the same but for their times are both written, or neither is. -/
theorem Verdict.Alike.write? (stored : Option Status) (h : v.Alike v')
    (hv : (stored.getD .blank).Reported 0 8 v.status)
    (hv' : (stored.getD .blank).Reported 0 8 v'.status) :
    (v'.write? stored).map Status.timeless = (v.write? stored).map Status.timeless := by
  have hstored : stored = some v'.status ↔ stored = some v.status := by
    cases stored with
    | none => simp
    | some s =>
      rw [Option.some_inj, Option.some_inj]
      constructor
      · rintro rfl
        exact (hv.eq_of_timeless h.status.symm).symm
      · rintro rfl
        exact (hv'.eq_of_timeless h.status).symm
  have hwrites : (v'.writable && stored ≠ some v'.status) =
      (v.writable && stored ≠ some v.status) := by
    rw [h.writable]
    simp only [ne_eq, hstored]
  unfold Verdict.write?
  rw [hwrites]
  by_cases hwrite : (v.writable && stored ≠ some v.status) = true
  · rw [if_pos hwrite, if_pos hwrite]
    exact congrArg some h.status
  · rw [if_neg hwrite, if_neg hwrite]

theorem conclude_alike (start start' finish finish' : Time) (halike : v.Alike v')
    (hconfig : c'.config = c.config)
    (hretries : c'.retriesOf (keyOf r) = c.retriesOf (keyOf r)) :
    (c'.conclude r v' start' finish').1 = (c.conclude r v start finish).1 ∧
      (c'.conclude r v' start' finish').2.retriesOf (keyOf r) =
        (c.conclude r v start finish).2.retriesOf (keyOf r) := by
  obtain ⟨hresult, -, hbackoff⟩ := conclude_spec c r v start finish
  obtain ⟨hresult', -, hbackoff'⟩ := conclude_spec c' r v' start' finish'
  rw [halike.error, halike.requeue] at hresult' hbackoff'
  dsimp only [retriesOf] at hretries ⊢
  rw [hresult, hresult', hbackoff, hbackoff', hconfig]
  cases v.error <;> cases v.requeue <;>
    simp only [BackoffTracker.next_fst, BackoffTracker.get?_next, BackoffTracker.get?_reset,
      hretries, and_self]

/-- The walks of a resource in two worlds that are alike for it: both break off, or they end alike,
times apart. -/
theorem walkIn_alike (start start' : Time) (hns : r.metadata.ns = some ns) (hw : w.Prompt)
    (h : World.Alike r.key w w') (hconfig : c'.config = c.config) :
    (c'.walkIn r ns start' w').1.map (fun e => (e.1, e.2.timeless)) =
        (c.walkIn r ns start w).1.map (fun e => (e.1, e.2.timeless)) ∧
      World.Alike r.key (c.walkIn r ns start w).2 (c'.walkIn r ns start' w').2 := by
  have hwalk' : c'.walkIn r ns start' w' = c.walkIn r ns start' w' := by
    unfold walkIn passOver
    rw [hconfig]
  have hstand : (standingAt r start').timeless = (standingAt r start).timeless := rfl
  have htimeless := Pass.timeless_walk World (World.answerCall c.config) (standingAt r start) w
    (p := c.passOver r ns)
  have htimeless' := Pass.timeless_walk World (World.answerCall c.config) (standingAt r start') w'
    (p := c.passOver r ns)
  obtain ⟨hwalked, hleft⟩ := World.alike_run c.config
    (asks_passOver (c := c) hns (standingAt r start).timeless) hw h
  rw [hstand] at htimeless'
  rw [htimeless, htimeless'] at hwalked hleft
  rw [hwalk']
  exact ⟨hwalked, hleft⟩

/-- Walks that end alike have verdicts that are alike. -/
theorem verdictOn_alike (r : Resource) (ns : String)
    {walked walked' : Except Stop Requeue × Standing} (hconfig : c'.config = c.config)
    (h : (walked'.1, walked'.2.timeless) = (walked.1, walked.2.timeless)) :
    (c.verdictOn r ns walked).Alike (c'.verdictOn r ns walked') := by
  have hpass : c'.passOver r ns = c.passOver r ns := by
    unfold passOver
    rw [hconfig]
  obtain ⟨hend, hstatus⟩ := Prod.mk.inj h
  obtain ⟨htold, hrequeue, herror⟩ := Pass.timeless_outcome (p := c.passOver r ns) hend hstatus
  unfold verdictOn
  rw [hpass]
  exact settle_alike htold hrequeue herror

/-- Of a walk in memory that has an end the verdict tells nothing twice. -/
theorem reported_verdictOn {walked : Except Stop Requeue × Standing}
    (hwalked : (c.walkIn r ns start w).1 = some walked) :
    (r.status.getD .blank).Reported 0 8 (c.verdictOn r ns walked).status := by
  have hwalk := Program.runs_trace (World.answerCall c.config)
    ((c.passOver r ns).walk (standingAt r start)) w
  unfold walkIn at hwalked
  rw [hwalked] at hwalk
  exact reported_settle hwalk

/-- A reconciliation depends on the part of its own cluster and on the retries under its own
key. -/
theorem alike_reconcileIn (r : Resource) (start start' : Time) (hw : w.Prompt)
    (h : World.Alike r.key w w') (hconfig : c'.config = c.config)
    (hretries : c'.retriesOf (keyOf r) = c.retriesOf (keyOf r)) :
    let x := c.reconcileIn r start w
    let x' := c'.reconcileIn r start' w'
    x'.result = x.result ∧ x'.committed = x.committed ∧ World.Alike r.key x.world x'.world ∧
      x'.controller.retriesOf (keyOf r) = x.controller.retriesOf (keyOf r) := by
  cases hns : r.metadata.ns with
  | none =>
    rw [reconcileIn_of_unset hns, reconcileIn_of_unset hns]
    exact ⟨rfl, rfl, h, hretries⟩
  | some ns =>
    obtain ⟨hends, hafter⟩ := walkIn_alike start start' hns hw h hconfig
    cases hwalked : (c.walkIn r ns start w).1 with
    | none =>
      rw [hwalked, Option.map_none, Option.map_eq_none_iff] at hends
      rw [reconcileIn_of_broken hns hwalked, reconcileIn_of_broken hns hends]
      exact ⟨rfl, rfl, h, hretries⟩
    | some walked =>
      rw [hwalked, Option.map_some, Option.map_eq_some_iff] at hends
      obtain ⟨walked', hwalked', hsame⟩ := hends
      have halike := verdictOn_alike r ns hconfig hsame
      obtain ⟨hcommits, hleft, hend⟩ :=
        reconcileIn_spec (c := c) start w hns hwalked (· = r.key) (Owns r.key)
      obtain ⟨hcommits', hleft', hend'⟩ :=
        reconcileIn_spec (c := c') start' w' hns hwalked' (· = r.key) (Owns r.key)
      have hwrite := halike.write? r.status (reported_verdictOn hwalked)
        (reported_verdictOn hwalked')
      have hfails : (c'.walkIn r ns start' w').2.writerFails =
          (c.walkIn r ns start w).2.writerFails :=
        congrArg (fun x => x.2.2.2.2.2.2.2.2) hafter.surroundings
      have hwritten : ((c'.verdictOn r ns walked').write? r.status).isSome =
          ((c.verdictOn r ns walked).write? r.status).isSome := by
        rw [← Option.isSome_map, hwrite, Option.isSome_map]
      have hworld : World.Alike r.key (c.reconcileIn r start w).world
          (c'.reconcileIn r start' w').world := (hleft.symm.trans hafter).trans hleft'
      have hcommitted : (c'.reconcileIn r start' w').committed =
          (c.reconcileIn r start w).committed := by
        rw [hcommits, hcommits', hwrite]
      rw [hfails, hwritten] at hend'
      split at hend
      case isTrue hrejected =>
        obtain ⟨hresult, -, hbackoff⟩ := hend
        rw [if_pos hrejected] at hend'
        obtain ⟨hresult', -, hbackoff'⟩ := hend'
        refine ⟨hresult'.trans hresult.symm, hcommitted, hworld, ?_⟩
        rw [retriesOf, hbackoff', retriesOf, hbackoff]
        exact hretries
      case isFalse hwriteable =>
        obtain ⟨finish, hconclude⟩ := hend
        rw [if_neg hwriteable] at hend'
        obtain ⟨finish', hconclude'⟩ := hend'
        obtain ⟨hresult, hrow⟩ :=
          conclude_alike start start' finish finish' halike hconfig hretries
        rw [← hconclude, ← hconclude'] at hresult hrow
        exact ⟨hresult, hcommitted, hworld, hrow⟩

/-! ### Two reconciliations -/

/-- One reconciliation after the other. -/
def reconcileBoth (c : Controller) (r r' : Resource) (start start' : Time) (w : World) :
    Reconciled × Reconciled :=
  let x := c.reconcileIn r start w
  (x, x.controller.reconcileIn r' start' x.world)

/-- Each of two reconciliations comes to the same as the first and as the second, and both
leave the same. -/
structure Commute (both both' : Reconciled × Reconciled) : Prop where
  committed : both'.2.committed = both.1.committed
  committed' : both'.1.committed = both.2.committed
  result : both'.2.result = both.1.result
  result' : both'.1.result = both.2.result
  machines : both'.2.world.provider.machines = both.2.world.provider.machines
  joined : both'.2.world.provider.joined = both.2.world.provider.joined
  deletionRequested :
    both'.2.world.provider.deletionRequested = both.2.world.provider.deletionRequested
  inputs : both'.2.world.installer.inputs = both.2.world.installer.inputs
  backoff : both'.2.controller.backoff = both.2.controller.backoff

theorem Commute.symm {both both' : Reconciled × Reconciled} (h : Commute both both') :
    Commute both' both where
  committed := h.committed'.symm
  committed' := h.committed.symm
  result := h.result'.symm
  result' := h.result.symm
  machines := h.machines.symm
  joined := h.joined.symm
  deletionRequested := h.deletionRequested.symm
  inputs := h.inputs.symm
  backoff := h.backoff.symm

theorem backoff_eq_of_retriesOf (h : ∀ key, c'.retriesOf key = c.retriesOf key) :
    c'.backoff = c.backoff :=
  congrArg BackoffTracker.mk (Table.ext h)

/-- A resource without a namespace is not looked at. -/
theorem commute_of_unset (hns : r.metadata.ns = none) (hw : w.Prompt) {t t' u u' : Time} :
    Commute (c.reconcileBoth r r' t t' w) (c.reconcileBoth r' r u' u w) := by
  obtain ⟨hresult, hcommitted, hpart, hrow⟩ :=
    alike_reconcileIn (c := c) r' t' u' hw (.refl w) rfl rfl
  obtain ⟨hspared, -, hkept⟩ := spares_reconcileIn c r' t' hw
  obtain ⟨hspared', -, hkept'⟩ := spares_reconcileIn c r' u' hw
  have hothers : World.Spares r'.key (c.reconcileIn r' t' w).world (c.reconcileIn r' u' w).world :=
    hspared.symm.trans hspared'
  obtain ⟨hmachines, hjoined, hasked, hinputs⟩ := World.eq_of_parts hpart hpart hothers.both
  have hrows : ∀ key, (c.reconcileIn r' u' w).controller.retriesOf key =
      (c.reconcileIn r' t' w).controller.retriesOf key := by
    intro key
    by_cases hkey : key = keyOf r'
    · rw [hkey]
      exact hrow
    · exact (hkept' key hkey).trans (hkept key hkey).symm
  unfold reconcileBoth
  rw [reconcileIn_of_unset hns]
  dsimp only
  rw [reconcileIn_of_unset hns]
  exact ⟨rfl, hcommitted, rfl, hresult, hmachines, hjoined, hasked, hinputs,
    backoff_eq_of_retriesOf hrows⟩

/-- Two reconciliations of resources with different keys. -/
theorem commute_of_keys (hne : r.key ≠ r'.key) (hr : r.key.Plain) (hr' : r'.key.Plain)
    (hw : w.Prompt) {t t' u u' : Time} :
    Commute (c.reconcileBoth r r' t t' w) (c.reconcileBoth r' r u' u w) := by
  have htexts : keyOf r ≠ keyOf r' := by
    rw [keyOf_eq, keyOf_eq]
    exact fun h => hne (ObjectKey.text_inj hr hr' h)
  unfold reconcileBoth
  dsimp only
  -- What the first of them leaves to the other, in each order.
  obtain ⟨hleft, hconfig, hkept⟩ := spares_reconcileIn c r t hw
  obtain ⟨hleft', hconfig', hkept'⟩ := spares_reconcileIn c r' u' hw
  -- Behind the other one, each comes to what it comes to before it.
  obtain ⟨hresult', hcommitted', hpart', hrow'⟩ := alike_reconcileIn r' u' t' hw
    (hleft.alike hne.symm) hconfig (hkept _ htexts.symm)
  obtain ⟨hresult, hcommitted, hpart, hrow⟩ := alike_reconcileIn r t u hw
    (hleft'.alike hne) hconfig' (hkept' _ htexts)
  -- And the second of them leaves to the first what it found.
  obtain ⟨hlast', -, hkeptlast'⟩ := spares_reconcileIn (c.reconcileIn r t w).controller r' t'
    (hw.of_agree hleft)
  obtain ⟨hlast, -, hkeptlast⟩ := spares_reconcileIn (c.reconcileIn r' u' w).controller r u
    (hw.of_agree hleft')
  have hown := (hlast'.alike hne).symm.trans hpart
  have hown' := hpart'.symm.trans (hlast.alike hne.symm)
  have hothers := (hleft.both.trans hlast'.both').symm.trans (hleft'.both'.trans hlast.both)
  obtain ⟨hmachines, hjoined, hasked, hinputs⟩ := World.eq_of_parts hown hown' hothers
  refine ⟨hcommitted, hcommitted'.symm, hresult, hresult'.symm, hmachines, hjoined, hasked,
    hinputs, backoff_eq_of_retriesOf fun key => ?_⟩
  by_cases hkey : key = keyOf r
  · subst hkey
    exact hrow.trans (hkeptlast' _ htexts).symm
  by_cases hkey' : key = keyOf r'
  · subst hkey'
    exact (hkeptlast _ htexts.symm).trans hrow'.symm
  · rw [hkeptlast key hkey, hkept' key hkey', hkeptlast' key hkey', hkept key hkey]

/-- **Control planes do not interfere.**  Of two resources that differ in their namespace or in
their name, one reconciliation of each comes to the same in either order, by whatever clocks:
the same is committed for each, each returns the same, and the machines, the notes of
deletions, the inputs and the retries that both leave are the same.  It matters neither what
the collaborators and the tracker hold before, nor that one of the clusters is called like a
machine of the other. -/
theorem reconciliations_commute (c : Controller)
    (hne : (r.metadata.ns, r.name) ≠ (r'.metadata.ns, r'.name))
    (hr : r.key.Plain) (hr' : r'.key.Plain) (hw : w.Prompt) (t t' u u' : Time) :
    Commute (c.reconcileBoth r r' t t' w) (c.reconcileBoth r' r u' u w) := by
  cases hns : r.metadata.ns with
  | none => exact commute_of_unset hns hw
  | some ns =>
    cases hns' : r'.metadata.ns with
    | none => exact (commute_of_unset hns' hw).symm
    | some ns' =>
      have hkeys : r.key ≠ r'.key := by
        intro hkey
        unfold Resource.key at hkey
        rw [hns, hns', ObjectKey.mk.injEq] at hkey
        exact hne (Prod.ext (by rw [hns, hns']; exact congrArg some hkey.1) hkey.2)
      exact commute_of_keys hkeys hr hr' hw

theorem reconciliations_commute_neighbours :
    let c := Controller.start .standard
    let both := c.reconcileBoth (Demo.resource none) Demo.neighbour ⟨0, 0⟩ ⟨7, 0⟩ Demo.world
    let both' := c.reconcileBoth Demo.neighbour (Demo.resource none) ⟨3, 0⟩ ⟨5, 0⟩ Demo.world
    both.1.committed.length = 1 ∧ both.2.committed.length = 1 ∧
      both.2.world.provider.machines.keys.length = 8 ∧ Commute both both' := by
  have hprompt : Demo.world.Prompt := ⟨rfl, rfl, rfl⟩
  have hdiffer : ((Demo.resource none).metadata.ns, (Demo.resource none).name) ≠
      (Demo.neighbour.metadata.ns, Demo.neighbour.name) := by decide
  have hplain : (Demo.resource none).key.Plain := by decide
  have hplain' : Demo.neighbour.key.Plain := by decide
  exact ⟨by decide +kernel, by decide +kernel, by decide +kernel,
    reconciliations_commute _ hdiffer hplain hplain' hprompt ⟨0, 0⟩ ⟨7, 0⟩ ⟨5, 0⟩ ⟨3, 0⟩⟩

end Controller

end ControlPlane
