/-
A reconciliation that is repeated.

The second time a pass may go another way than the first: what has joined is not made again,
what is complete is not asked for, and what is ready is left alone.  On that way it comes to
the same end all the same, and finds everything told that it reports.  So it writes nothing.

Three things are said of the parts of a walk.  A part that ends with everything joined
`Continues`: wherever it ends, a later pass goes on to the same.  A step to the machines
`Redoes` what it did.  And of the rest of a walk from such a step on, a pass `Resumes` it, or
goes on behind it.
-/
import ControlPlane.Proofs.History
import ControlPlane.Proofs.Manifests
import ControlPlane.Proofs.Repetition

namespace ControlPlane

open Program (Runs)

/-- Nothing has joined yet. -/
structure Status.Fresh (s : Status) : Prop where
  initialized : s.initialized = false
  ready : s.ready = false

theorem Status.Fresh.of_same {a b : Status} (h : a.Fresh) (hab : a.Same b) : b.Fresh :=
  ⟨hab.initialized.trans h.initialized, hab.ready.trans h.ready⟩

namespace Pass

open Walk Status

variable {α : Type} {p : Pass} {s : Standing} {made : Calls} {z : Status} {m n : Nat}

/-! ### From the machines on

What has joined or is complete is seen in the status that a pass leaves, so a later pass
goes on behind it. -/

/-- The way of a pass whose spec is accepted. -/
def onward (p : Pass) : Walk Requeue := do
  let s ← .status
  if s.ready then p.conclude
  else if s.initialized then p.complete
  else p.provision

theorem repeats_onward_ready {r : Except Stop Requeue} (hready : z.ready = true)
    (h : Repeats made p.conclude z r) : Repeats made p.onward z r := by
  refine repeats_status.bind ?_
  rw [if_pos hready]
  exact h

theorem repeats_onward_complete {r : Except Stop Requeue} (hunready : z.ready = false)
    (hinit : z.initialized = true) (h : Repeats made p.complete z r) :
    Repeats made p.onward z r := by
  refine repeats_status.bind ?_
  rw [hunready, hinit]
  exact h

/-- Whatever a part of a walk ends with, a later pass comes to the same. -/
def Continues (p : Pass) (n : Nat) (w : Walk Requeue) (s : Standing) : Prop :=
  w.Ends s fun log r s' => p.Rests n s.status r s' ∧
    ∀ made z, log ⊆ made → (p.left r s').Same z → Repeats made p.onward z r

theorem continues_tearDown (hunready : s.status.ready = false)
    (hinit : s.status.initialized = true) (hcomplete : s.status.isTrue .bootstrapComplete = true) :
    p.Continues 5 p.tearDown s := by
  -- Unless the machine is seen to be gone, a later pass comes to the deletion again.
  have hagain : ∀ {r : Except Stop Requeue} {s' : Standing} {made : Calls} {z : Status},
      p.Rests 5 s.status r s' → (p.left r s').ready = false → (p.left r s').initialized = true →
      (p.left r s').Same z → Repeats made p.tearDown z r → Repeats made p.onward z r := by
    intro r s' made z hrests hready hinit hz h
    have hstill : z.isTrue .bootstrapComplete = true := by
      rw [hz.isTrue, isTrue_of_told (hrests.keeps.told .bootstrapComplete (by decide)), hcomplete]
    refine repeats_onward_complete (hz.ready.trans hready) (hz.initialized.trans hinit) ?_
    refine repeats_status.bind ?_
    rw [if_pos hstill]
    exact h
  refine ends_bind.mpr (ends_callFor (fun _ asked => ?asked) ?refused)
  case refused =>
    intro reply e he
    have hrests : p.Rests 5 s.status (.error (.on .ready e .backoff) : Except Stop Requeue)
        ⟨s.status, reply.arrival⟩ := rests_blamed (by decide)
    refine ⟨hrests, fun made z hmade hz => ?_⟩
    refine hagain hrests (by simpa using hunready) (by simpa using hinit) hz ?_
    exact (repeats_callFor_failed (hmade List.mem_cons_self) he).bind_error
  case asked =>
    refine ends_bind.mpr (ends_look hcomplete (latch_bootstrapMachineDeleted hinit) ?applied
      ?unseen ?failed)
    case applied =>
      intro gone now hgone
      have hkeeps : p.Keeps 5 s.status
          (p.signalled .bootstrapMachineDeleted { s.status with ready := true } now) :=
        keeps_signalled rfl rfl (by decide)
      refine ends_conclude.mpr ⟨rests_ok (hkeeps.trans (keeps_concluded (by decide))), ?_⟩
      intro made z hmade hz
      exact repeats_onward_ready hz.ready (repeats_conclude hz)
    case unseen =>
      intro gone now hgone
      refine ends_waitFor.mpr ?_
      have hrests : p.Rests 5 s.status (.ok Requeue.poll) ⟨p.waiting .ready
        .waitingForBootstrapDeletion "waiting for the bootstrap machine to be deleted" s.status now,
        now⟩ := rests_waiting (by decide)
      refine ⟨hrests, fun made z hmade hz => hagain hrests hunready hinit hz ?_⟩
      obtain ⟨hasked, hlooked⟩ := List.append_subset.mp hmade
      refine (repeats_call_answered (hasked List.mem_cons_self)).bind ?_
      refine (repeats_look_unseen (hlooked List.mem_cons_self) hgone).bind ?_
      exact repeats_waitFor (by decide) hz
    case failed =>
      intro reply e he
      have hrests : p.Rests 5 s.status (.error (.on .ready e .backoff) : Except Stop Requeue)
          ⟨s.status, reply.arrival⟩ := rests_blamed (by decide)
      refine ⟨hrests, fun made z hmade hz => ?_⟩
      refine hagain hrests (by simpa using hunready) (by simpa using hinit) hz ?_
      obtain ⟨hasked, hlooked⟩ := List.append_subset.mp hmade
      refine (repeats_call_answered (hasked List.mem_cons_self)).bind ?_
      exact (repeats_look_failed (hlooked List.mem_cons_self) he).bind_error

theorem continues_complete (hunready : s.status.ready = false)
    (hinit : s.status.initialized = true) : p.Continues 4 p.complete s := by
  refine ends_bind.mpr (ends_status.mpr ?_)
  dsimp only
  split
  · rename_i hcomplete
    refine (continues_tearDown hunready hinit hcomplete).imp fun log r s' h => ?_
    exact ⟨h.1.mono (by decide), h.2⟩
  · -- What is not complete is looked for again.
    have hagain : ∀ {r : Except Stop Requeue} {made : Calls} {z : Status},
        z.ready = false → z.initialized = true → z.isTrue .bootstrapComplete = false →
        Repeats made (p.look .bootstrapComplete .bootstrapCompleted
          (.bootstrapComplete p.ns p.cluster) id >>= fun done => if done then p.tearDown else
            p.waitFor .bootstrapComplete .waitingForInstaller
              "waiting for the installer to report bootstrap complete") z r →
        Repeats made p.onward z r := by
      intro r made z hready hinit hopen h
      refine repeats_onward_complete hready hinit (repeats_status.bind ?_)
      rw [hopen]
      exact h
    refine ends_bind.mpr (ends_look hinit rfl ?applied ?unseen ?failed)
    case applied =>
      intro done now hdone
      have hkeeps : p.Keeps 4 s.status (p.signalled .bootstrapCompleted s.status now) :=
        keeps_signalled rfl rfl (by decide)
      have hcomplete : (p.signalled .bootstrapCompleted s.status now).isTrue .bootstrapComplete =
          true := isTrue_signalled_condition
      have hrest : p.Continues 5 p.tearDown ⟨p.signalled .bootstrapCompleted s.status now, now⟩ :=
        continues_tearDown hunready hinit hcomplete
      refine hrest.imp fun log r s' h => ⟨.after hkeeps (h.1.mono (by decide)), ?_⟩
      intro made z hmade hz
      exact h.2 made z (fun e he => hmade (List.mem_cons_of_mem _ he)) hz
    case unseen =>
      intro done now hdone
      refine ends_waitFor.mpr ⟨rests_waiting (by decide), fun made z hmade hz => ?_⟩
      refine hagain (hz.ready.trans hunready) (hz.initialized.trans hinit) ?_ ?_
      · rw [hz.isTrue]
        exact isTrue_waiting (by decide) (by decide)
      · refine (repeats_look_unseen (hmade List.mem_cons_self) hdone).bind ?_
        exact repeats_waitFor (by decide) hz
    case failed =>
      intro reply e he
      refine ⟨rests_blamed (by decide), fun made z hmade hz => ?_⟩
      refine hagain (hz.ready.trans (by simpa using hunready))
        (hz.initialized.trans (by simpa using hinit)) ?_ ?_
      · rw [hz.isTrue, left_error, Stop.on, reportError_some,
          isTrue_reportError_none (by decide) (by decide), isTrue_report]
        rfl
      · exact (repeats_look_failed (hmade List.mem_cons_self) he).bind_error

/-! ### To the machines

A pass that starts before anything has joined takes the steps to the machines.  If nothing
has joined at its end, a later pass takes them again; else it goes on behind them. -/

/-- Where a later pass stands that repeats a step: behind a step that was done it knows no
more than that the conditions before a place have stayed. -/
def Later (p : Pass) (n : Nat) (r : Except Stop α) (s : Standing) (z : Status) : Prop :=
  match r with
  | .ok _ => p.Keeps n s.status z
  | .error _ => (p.left r s).Same z

/-- A step to the machines, between two places: it is at rest wherever it ends, nothing has
joined there, and a later pass repeats it. -/
def Redoes (p : Pass) (m n : Nat) (w : Walk α) : Prop :=
  ∀ s, s.status.Fresh → w.Ends s fun log r s' => p.Rests m s.status r s' ∧
    (p.left r s').Fresh ∧ ∀ made z, log ⊆ made → p.Later n r s' z → Repeats made w z r

/-- The rest of a walk from a place on: a later pass repeats it or goes on behind it. -/
def Resumes (p : Pass) (n : Nat) (w : Walk Requeue) : Prop :=
  ∀ s, s.status.Fresh → w.Ends s fun log r s' => p.Rests n s.status r s' ∧
    ∀ made z, log ⊆ made → (p.left r s').Same z →
      (z.Fresh ∧ Repeats made w z r) ∨ Repeats made p.onward z r

/-- A step is repeated once the rest has kept what it told. -/
theorem Redoes.bind {w : Walk α} {f : α → Walk Requeue} (hw : p.Redoes m n w) (hmn : m ≤ n)
    (hf : ∀ a, p.Resumes n (f a)) : p.Resumes m (w >>= f) := by
  intro s hfresh
  refine ends_bind.mpr ((hw s hfresh).imp fun log r s' h => ?_)
  obtain ⟨hrests, hfresh', hredo⟩ := h
  cases r with
  | ok a =>
    refine (hf a s' hfresh').imp fun rest r s'' h => ⟨.after hrests.keeps (h.1.mono hmn), ?_⟩
    intro made z hmade hz
    obtain ⟨hlog, hrest⟩ := List.append_subset.mp hmade
    have hstep : Repeats made w z (.ok a) := hredo made z hlog (h.1.keeps.trans (.of_same hz))
    refine (h.2 made z hrest hz).imp_left fun hagain => ?_
    exact ⟨hagain.1, hstep.bind hagain.2⟩
  | error why =>
    refine ⟨⟨hrests.keeps, hrests.again⟩, fun made z hmade hz => .inl ⟨hfresh'.of_same hz, ?_⟩⟩
    exact (hredo made z hmade hz).bind_error

theorem fresh_stop {status : Status} {why : Stop} {now : Time} (h : status.Fresh) :
    (p.left (.error why : Except Stop α) ⟨status, now⟩).Fresh :=
  ⟨by simpa using h.initialized, by simpa using h.ready⟩

theorem redoes_resolveInstallState : p.Redoes 0 1 p.resolveInstallState := by
  intro s hfresh
  refine ends_resolveInstallState ?found ?failed ?absent ?useless
  case found =>
    intro data install now hinstall
    have hbound : (p.bound install s.status now).boundTemplate =
        some (s.status.boundTemplate.getD p.resource.spec.template) := bind_boundTemplate
    have hkeeps : p.Keeps 0 s.status (p.bound install s.status now) :=
      ⟨fun h => hbound ▸ judge_bound h, nofun, nofun⟩
    refine ⟨rests_ok hkeeps, ⟨bind_initialized.trans hfresh.initialized,
      bind_ready.trans hfresh.ready⟩, fun made z hmade hz => ?_⟩
    have hz : p.Keeps 1 (p.bound install s.status now) z := hz
    refine (repeats_call_answered (hmade List.mem_cons_self)).bind ?_
    dsimp only
    rw [hinstall]
    refine (repeats_change fun _ => ?_).bind ((repeats_report ?_).bind repeats_pure)
    · exact bind_of_bound ((hz.boundTemplate Nat.one_pos).trans hbound)
    · rw [hz.told .templateBound Nat.one_pos, bound, told_report, if_pos rfl]
  case failed =>
    intro reply e he
    exact ⟨rests_blamed (by decide), fresh_stop hfresh, fun made z hmade _ =>
      (repeats_callFor_failed (hmade List.mem_cons_self) he).bind_error⟩
  case absent =>
    intro now
    exact ⟨rests_blamed (by decide), fresh_stop hfresh, fun made z hmade _ =>
      (repeats_call_answered (hmade List.mem_cons_self)).bind repeats_stop⟩
  case useless =>
    intro data e now he
    refine ⟨rests_blamed (by decide), fresh_stop hfresh, fun made z hmade _ => ?_⟩
    refine (repeats_call_answered (hmade List.mem_cons_self)).bind ?_
    dsimp only
    rw [he]
    exact repeats_stop

theorem redoes_resolveManifests : p.Redoes 1 2 p.resolveManifests := by
  intro s hfresh
  refine ends_resolveManifests ?defaults ?found ?unreadable ?failed ?invalid
  case defaults =>
    intro hq
    refine ⟨rests_ok (.report (by decide)), ⟨hfresh.initialized, hfresh.ready⟩,
      fun made z hmade hz => ?_⟩
    unfold resolveManifests
    rw [hq]
    refine (repeats_report ?_).bind repeats_pure
    rw [Keeps.told hz .manifestsResolved (by decide), resolved, told_report, if_pos rfl]
  case found =>
    intro selector secrets manifests now hq hmanifests
    refine ⟨rests_ok (.report (by decide)), ⟨hfresh.initialized, hfresh.ready⟩,
      fun made z hmade hz => ?_⟩
    unfold resolveManifests
    rw [hq]
    refine (repeats_call_answered (hmade List.mem_cons_self)).bind ?_
    rw [hmanifests]
    refine (repeats_report ?_).bind repeats_pure
    rw [Keeps.told hz .manifestsResolved (by decide), resolved, told_report, if_pos rfl,
      manifestsMessage]
  case unreadable =>
    intro e hq
    refine ⟨rests_blamed (by decide), fresh_stop hfresh, fun made z hmade _ => ?_⟩
    unfold resolveManifests
    rw [hq]
    exact repeats_stop
  case failed =>
    intro selector reply e hq he
    refine ⟨rests_blamed (by decide), fresh_stop hfresh, fun made z hmade _ => ?_⟩
    unfold resolveManifests
    rw [hq]
    exact (repeats_callFor_failed (hmade List.mem_cons_self) he).bind_error
  case invalid =>
    intro selector secrets errors now hq herrors
    refine ⟨rests_blamed (by decide), fresh_stop hfresh, fun made z hmade _ => ?_⟩
    unfold resolveManifests
    rw [hq]
    refine (repeats_call_answered (hmade List.mem_cons_self)).bind ?_
    rw [herrors]
    exact repeats_stop

theorem rests_provisioningStop {status : Status} {e : ControllerError} {now : Time} :
    p.Rests 2 status (.error (provisioningStop status e) : Except Stop α) ⟨status, now⟩ :=
  rests_stop (by decide) blamesFrom_provisioningStop

/-- A failure on the way to the machines does not change whether they are asked for, so it is
blamed on the same once more. -/
theorem provisioningStop_of_same {status : Status} {e : ControllerError} {now : Time}
    (hz : (p.left (.error (provisioningStop status e) : Except Stop α) ⟨status, now⟩).Same z) :
    provisioningStop z e = provisioningStop status e := by
  have hstill : z.isTrue .machinesProvisioned = status.isTrue .machinesProvisioned := by
    rw [hz.isTrue, left_error]
    unfold provisioningStop
    split
    · exact isTrue_reportError_none (by decide) (by decide)
    · rename_i hopen
      rw [Stop.on, reportError_some, isTrue_reportError_none (by decide) (by decide),
        isTrue_report]
      simpa using hopen
  unfold provisioningStop
  rw [hstill]

theorem redoes_generateBootConfig {install : InstallState} {manifests : Table String Bytes} :
    p.Redoes 2 2 (p.generateBootConfig install manifests) := by
  intro s hfresh
  refine ends_generateBootConfig ?handed ?failed
  case handed =>
    intro bootSecret now
    exact ⟨rests_ok (.of_same .refl), hfresh, fun made z hmade _ =>
      repeats_call_answered (hmade List.mem_cons_self)⟩
  case failed =>
    intro reply e he
    refine ⟨rests_provisioningStop, fresh_stop hfresh, fun made z hmade hz => ?_⟩
    rw [← provisioningStop_of_same hz]
    exact repeats_callForMachines_failed (hmade List.mem_cons_self) he

theorem redoes_ensureMachines {bootSecret : String} :
    p.Redoes 2 3 (p.ensureMachines bootSecret) := by
  intro s hfresh
  have hrequest : ∀ {z : Status}, z.boundTemplate = s.status.boundTemplate →
      p.request bootSecret z = p.request bootSecret s.status := by
    intro z hz
    unfold request
    rw [hz]
  refine ends_ensureMachines ?made ?failed
  case made =>
    intro now
    refine ⟨rests_ok (.report (by decide)), ⟨hfresh.initialized, hfresh.ready⟩,
      fun made z hmade hz => ?_⟩
    have hz : p.Keeps 3 (p.requested s.status now) z := hz
    have hcall : Repeats made (p.callForMachines (.ensureMachines (p.request bootSecret z))) z
        (.ok ()) := by
      rw [hrequest (hz.boundTemplate (by decide))]
      exact repeats_call_answered (hmade List.mem_cons_self)
    refine repeats_status.bind (hcall.bind (repeats_report ?_))
    rw [hz.told .machinesProvisioned (by decide), requested, told_report, if_pos rfl]
  case failed =>
    intro reply e he
    refine ⟨rests_provisioningStop, fresh_stop hfresh, fun made z hmade hz => ?_⟩
    have hbound : z.boundTemplate = s.status.boundTemplate :=
      hz.boundTemplate.trans reportError_boundTemplate
    have hcall : Repeats made (p.callForMachines (.ensureMachines (p.request bootSecret z))) z
        (.error (provisioningStop z e)) := by
      rw [hrequest hbound]
      exact repeats_callForMachines_failed (hmade List.mem_cons_self) he
    rw [provisioningStop_of_same hz] at hcall
    exact repeats_status.bind hcall.bind_error

/-- With a signal of a machine that has joined, a later pass goes on behind all this. -/
theorem resumes_provision : p.Resumes 0 p.provision := by
  refine redoes_resolveInstallState.bind (by decide) fun install => ?_
  refine redoes_resolveManifests.bind (by decide) fun manifests => ?_
  refine redoes_generateBootConfig.bind (by decide) fun bootSecret => ?_
  refine redoes_ensureMachines.bind (by decide) fun _ s hfresh => ?_
  refine ends_bind.mpr (ends_look rfl rfl ?applied ?unseen ?failed)
  case applied =>
    intro joined now hjoined
    have hkeeps : p.Keeps 3 s.status
        (p.signalled .controlPlaneJoined s.status.markInitialized now) :=
      keeps_signalled rfl rfl (by decide)
    have hrest : p.Continues 4 p.complete
        ⟨p.signalled .controlPlaneJoined s.status.markInitialized now, now⟩ :=
      continues_complete hfresh.ready rfl
    refine hrest.imp fun log r s' h => ⟨.after hkeeps (h.1.mono (by decide)), ?_⟩
    intro made z hmade hz
    exact .inr (h.2 made z (fun e he => hmade (List.mem_cons_of_mem _ he)) hz)
  case unseen =>
    intro joined now hjoined
    refine ends_waitFor.mpr ⟨rests_waiting (by decide), fun made z hmade hz => .inl ⟨?_, ?_⟩⟩
    · exact ⟨hz.initialized.trans hfresh.initialized, hz.ready.trans hfresh.ready⟩
    · refine (repeats_look_unseen (hmade List.mem_cons_self) hjoined).bind ?_
      exact repeats_waitFor (by decide) hz
  case failed =>
    intro reply e he
    refine ⟨rests_blamed (by decide), fun made z hmade hz => .inl ⟨?_, ?_⟩⟩
    · exact (fresh_stop hfresh).of_same hz
    · exact (repeats_look_failed (hmade List.mem_cons_self) he).bind_error

/-! ### The whole way -/

theorem continues_onward : p.Continues 0 p.onward s := by
  refine ends_bind.mpr (ends_status.mpr ?_)
  dsimp only
  split
  · rename_i hready
    refine ends_conclude.mpr ⟨rests_ok (keeps_concluded (by decide)), fun made z hmade hz => ?_⟩
    exact repeats_onward_ready (hz.ready.trans hready) (repeats_conclude hz)
  split
  · rename_i hready hinit
    refine (continues_complete (by simpa using hready) hinit).imp fun log r s' h => ?_
    exact ⟨h.1.mono (by decide), h.2⟩
  · rename_i hready hinit
    have hfresh : s.status.Fresh := ⟨by simpa using hinit, by simpa using hready⟩
    refine (resumes_provision s hfresh).imp fun log r s' h => ⟨h.1, fun made z hmade hz => ?_⟩
    rcases h.2 made z hmade hz with ⟨hfresh, hagain⟩ | hagain
    · refine repeats_status.bind ?_
      rw [hfresh.ready, hfresh.initialized]
      exact hagain
    · exact hagain

theorem repeats_checkSpec (h : p.judge z.boundTemplate = .ok ()) :
    Repeats made p.checkSpec z (.ok ()) := by
  refine repeats_status.bind ?_
  rw [h]
  exact repeats_pure

theorem repeats_checkSpec_refused {why : Stop} (h : p.judge z.boundTemplate = .error why) :
    Repeats made p.checkSpec z (.error why) := by
  refine repeats_status.bind ?_
  rw [h]
  exact repeats_stop

/-- Over a status that is the same as the one that a walk has left, a walk that is answered
as before comes to the same end, and adds nothing to the status. -/
theorem repeats_walk : p.walk.Ends s fun log r s' => p.Rests 0 s.status r s' ∧
    ∀ made z, log ⊆ made → (p.left r s').Same z → Repeats made p.walk z r := by
  refine ends_bind.mpr (ends_checkSpec (fun haccepted => ?accepted) ?refused)
  case accepted =>
    refine continues_onward.imp fun log r s' h => ⟨h.1, fun made z hmade hz => ?_⟩
    have haccepted' : p.judge z.boundTemplate = .ok () := by
      rw [hz.boundTemplate]
      exact h.1.keeps.accepted haccepted
    exact (repeats_checkSpec haccepted').bind (h.2 made z hmade hz)
  case refused =>
    intro why hwhy
    refine ⟨rests_stop (by decide) (blamesFrom_of_refusal hwhy), fun made z hmade hz => ?_⟩
    have hsame : z.boundTemplate = s.status.boundTemplate :=
      hz.boundTemplate.trans reportError_boundTemplate
    rw [← hsame] at hwhy
    exact (repeats_checkSpec_refused hwhy).bind_error

/-- The pass over the resource with another status. -/
def withStatus (p : Pass) (status : Option Status) : Pass :=
  { p with resource := { p.resource with status } }

theorem resolveInstallState_withStatus {status : Option Status} :
    (p.withStatus status).resolveInstallState = p.resolveInstallState := by
  unfold resolveInstallState
  refine congrArg (p.callFor .templateBound p.lookup >>= ·) (funext fun found => ?_)
  cases found <;> rfl

/-- A walk reads the status where it stands, and never the one of the resource. -/
theorem walk_withStatus {status : Option Status} : (p.withStatus status).walk = p.walk := by
  have hprovision : (p.withStatus status).provision = p.provision := by
    unfold provision
    rw [resolveInstallState_withStatus]
    rfl
  unfold walk
  rw [hprovision]
  rfl

/-- What a pass has to say it says again, over a status that is the same and with the answers
of its calls. -/
theorem outcome_repeated {log again : Calls} {walked walked' : Except Stop Requeue × Standing}
    {status : Option Status} {now : Time} (hwalk : Runs (p.walk s) log (some walked))
    (hsame : (p.outcome walked).status.Same z)
    (hagain : Runs ((p.withStatus status).walk ⟨z, now⟩) again (some walked'))
    (hagree : log.Agree again) : ((p.withStatus status).outcome walked').status = z := by
  obtain ⟨r, s'⟩ := walked
  obtain ⟨r', s''⟩ := walked'
  obtain ⟨hrests, hrepeats⟩ := repeats_walk log r s' hwalk
  rw [walk_withStatus] at hagain
  rw [status_outcome] at hsame ⊢
  obtain ⟨hr, hz⟩ := hrepeats log z (List.Subset.refl log) hsame now again r' s'' hagain hagree
  subst hr
  obtain ⟨left, now'⟩ := s''
  cases hz
  exact hrests.again _ now' hsame

end Pass

/-! ### Reconciliations -/

/-- A resource without a namespace is not reconciled. -/
theorem Controller.exists_ns_of_ok {c : Controller} {r : Resource} {start : Time} {log : Effects}
    {result : Returned × Controller} {action : Action} (h : Runs (c.reconcile r start) log result)
    (hok : result.1 = some (.ok action)) :
    ∃ ns, r.metadata.ns = some ns := by
  cases hns : r.metadata.ns with
  | some ns => exact ⟨ns, rfl⟩
  | none =>
    unfold reconcile at h
    rw [hns] at h
    cases h
    cases hok

/-- The installer says that the bootstrap is not done. -/
def Demo.unfinished : Program.Exchange Call Call.Reply :=
  ⟨.bootstrapComplete "clusters" "demo", ⟨.answered false, ⟨0, 0⟩⟩⟩

namespace Turn

variable {t next : Turn} {ns : String} {action : Action} {after last : Option Status}

/-- A turn that writes nothing leaves what it was handed. -/
theorem eq_of_leaves (hwrites : Effects.writes t.log = []) (h : t.Leaves last) :
    last = t.resource.status := by
  cases h with
  | kept _ => rfl
  | stored hw f =>
    rw [hwrites] at hw
    cases hw

/-- After a turn that was no error, what its pass had to say is stored, unless the turn was
handed a broken status. -/
theorem exists_stored (hns : t.resource.metadata.ns = some ns)
    (hsound : (t.resource.status.getD .blank).ready = true →
      (t.resource.status.getD .blank).initialized = true)
    (hok : t.result.1 = some (.ok action)) (hafter : t.Leaves after) :
    ∃ walked z, Runs ((t.controller.passOver t.resource ns).walk
        (Controller.standingAt t.resource t.start)) (Effects.calls t.log) (some walked) ∧
      after = some z ∧
      ((t.controller.passOver t.resource ns).outcome walked).status.Same z := by
  cases hafter with
  | stored hw f =>
    obtain ⟨-, -, -, -, walked, hwalk, hstatus⟩ := Controller.of_mem_writes hns t.runs hw
    exact ⟨walked, _, hwalk, rfl, hstatus ▸ Status.same_withTimes⟩
  | kept hnone =>
    obtain ⟨-, -, hresult⟩ | ⟨walked, hwalk, hend⟩ := Controller.runs_reconcile hns t.runs
    · rw [hresult] at hok
      cases hok
    have hcheck : Status.checkTransition t.resource.status
        ((t.controller.passOver t.resource ns).outcome walked).status = .ok () :=
      Controller.checkTransition_of_follows hsound (Pass.follows_outcome hwalk)
    dsimp only at hend
    rw [Controller.settle_of_ok hcheck] at hend
    rcases hend with ⟨hwrite, -, -⟩ | ⟨s, reply, -, hwrites, hresult⟩
    · have hstored : t.resource.status =
          some ((t.controller.passOver t.resource ns).outcome walked).status := by
        simpa [Controller.Verdict.write?] using hwrite
      exact ⟨walked, _, hwalk, hstored, .refl⟩
    · -- The write has succeeded, or the turn would have come to an error.
      obtain ⟨result, arrival⟩ := reply
      cases result with
      | ok u => exact absurd rfl (hnone _ (hwrites ▸ List.mem_cons_self))
      | error e =>
        rw [hresult] at hok
        cases hok

/-- **A reconciliation that is repeated writes nothing.**  Whatever status, spec and generation
a resource has: if a reconciliation of it returns no error, and the resource is reconciled
again with the status that is stored then, its times kept exactly or not, and every call that
is made again is answered as before, then the second reconciliation writes nothing, whatever
the time is.  So what is stored stays, times included. -/
theorem repeated_without_write (hok : t.result.1 = some (.ok action)) (hafter : t.Leaves after)
    (hconfig : next.controller.config = t.controller.config)
    (hresource : next.resource = { t.resource with status := after })
    (hagree : (Effects.calls t.log).Agree (Effects.calls next.log)) :
    Effects.writes next.log = [] ∧ ∀ last, next.Leaves last → last = after := by
  obtain ⟨ns, hns⟩ := Controller.exists_ns_of_ok t.runs hok
  have hns' : next.resource.metadata.ns = some ns := by rw [hresource, ← hns]
  have hstatus : next.resource.status = after := by rw [hresource]
  suffices hnone : Effects.writes next.log = [] from
    ⟨hnone, fun last hlast => (eq_of_leaves hnone hlast).trans hstatus⟩
  by_cases hsound : (t.resource.status.getD .blank).ready = true →
      (t.resource.status.getD .blank).initialized = true
  · obtain ⟨walked, z, hwalk, rfl, hsame⟩ := exists_stored hns hsound hok hafter
    refine List.eq_nil_iff_forall_not_mem.mpr fun w hw => ?_
    obtain ⟨-, -, hne, -, walked', hwalk', hwritten⟩ := Controller.of_mem_writes hns' next.runs hw
    have hstart : Controller.standingAt next.resource next.start = ⟨z, next.start⟩ := by
      rw [Controller.standingAt, hstatus, Option.getD_some]
    have hpass : next.controller.passOver next.resource ns =
        (t.controller.passOver t.resource ns).withStatus (some z) := by
      rw [Controller.passOver, hconfig, hresource]
      rfl
    rw [hstart, hpass] at hwalk'
    refine hne ?_
    rw [hstatus, hwritten, hpass]
    exact congrArg some (Pass.outcome_repeated hwalk hsame hwalk' hagree).symm
  · -- Over a broken status neither of the two writes anything.
    cases hstored : t.resource.status with
    | none =>
      rw [hstored] at hsound
      exact absurd (fun h => h) hsound
    | some s =>
      rw [hstored, Option.getD_some, Classical.not_imp, Bool.not_eq_true] at hsound
      obtain ⟨hready, hinit⟩ := hsound
      have hquiet := (Controller.reconcile_broken hns hstored hready hinit t.runs).1
      have hsame : next.resource.status = some s :=
        hstatus.trans ((eq_of_leaves hquiet hafter).trans hstored)
      exact (Controller.reconcile_broken hns' hsame hready hinit next.runs).1

/-- The first turn sees that a machine has joined and waits for the end of the bootstrap; the
second one asks for nothing but that. -/
theorem repeated_without_write_joined :
    ∃ s, (History.demoTurn none Demo.joinedWorld).Leaves (some s) ∧ s.initialized = true ∧
      Effects.calls (History.demoTurn (some s) Demo.joinedWorld).log = [Demo.unfinished] ∧
      Effects.writes (History.demoTurn (some s) Demo.joinedWorld).log = [] := by
  have hsecond : (Demo.written none Demo.joinedWorld).map (fun s => (s.initialized,
      Effects.calls (Demo.effects (some (s.withTimes id)) Demo.joinedWorld))) =
        some (true, [Demo.unfinished]) := by decide +kernel
  have hfirst : (Effects.calls (Demo.effects none Demo.joinedWorld)).filter
      (fun e => decide (e.1 = Demo.unfinished.1)) = [Demo.unfinished] := by decide +kernel
  obtain ⟨s, hs, htold⟩ := Option.map_eq_some_iff.mp hsecond
  obtain ⟨hinit, hcalls⟩ := Prod.mk.inj htold
  have hagree : (Effects.calls (Demo.effects none Demo.joinedWorld)).Agree
      (Effects.calls (Demo.effects (some (s.withTimes id)) Demo.joinedWorld)) := by
    intro c a b ha hb
    rw [hcalls, List.mem_singleton] at hb
    have hc : c = Demo.unfinished.1 := congrArg Sigma.fst hb
    have hone : ⟨c, a⟩ ∈ (Effects.calls (Demo.effects none Demo.joinedWorld)).filter
        (fun e => decide (e.1 = Demo.unfinished.1)) := List.mem_filter.mpr ⟨ha, decide_eq_true hc⟩
    rw [hfirst, List.mem_singleton, ← hb] at hone
    cases hone
    rfl
  have hgood : (Demo.result none Demo.joinedWorld).1.any Except.isOk = true := by decide +kernel
  obtain ⟨action, hok⟩ :
      ∃ action, (Demo.result none Demo.joinedWorld).1 = some (.ok action) := by
    rcases hresult : (Demo.result none Demo.joinedWorld).1 with _ | _ | action
    · rw [hresult] at hgood
      cases hgood
    · rw [hresult] at hgood
      cases hgood
    · exact ⟨action, rfl⟩
  have hleaves := History.demoTurn_leaves hs
  have hquiet : Effects.writes (History.demoTurn (some (s.withTimes id)) Demo.joinedWorld).log = [] ∧
      ∀ last, (History.demoTurn (some (s.withTimes id)) Demo.joinedWorld).Leaves last →
        last = some (s.withTimes id) := repeated_without_write hok hleaves rfl rfl hagree
  exact ⟨_, hleaves, hinit, hcalls, hquiet.1⟩

end Turn

end ControlPlane
