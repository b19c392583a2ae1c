/-
No control plane is stuck.

Whatever has become of a bootstrap, one reconciliation that meets with favourable answers only
brings it to its end.  The latches may be set or open in any mixture, and the conditions may
tell anything: none of this leads a pass astray, since every way of a pass that is not cut short
by an answer ends with the bootstrap machine gone.

The ways that are cut short are told apart by the answer that cuts them, and no such answer is
favourable.
-/
import ControlPlane.Proofs.Idempotence
import ControlPlane.Proofs.Requeue
import ControlPlane.Proofs.TearDown
import ControlPlane.Proofs.Vetting

namespace ControlPlane

open Program (Runs)

/-- A status that tells of the end of a bootstrap before anything has joined, of a degradation,
and of two conditions in words of its own. -/
def Demo.stale : Status :=
  let observation (status : String) : Observation := ⟨status, "Stale", "", none, ⟨0, 0⟩⟩
  { Status.blank with
    conditions := .ofList [⟨"BootstrapComplete", observation "True"⟩,
      ⟨"Degraded", observation "True"⟩, ⟨"Progressing", observation "Maybe"⟩,
      ⟨"MachinesProvisioned", observation ""⟩] }

/-! ### Favourable answers -/

/-- The answer brings the bootstrap on. -/
def Call.favours : (c : Call) → c.Answer → Bool
  | .getSecret .., none => false
  | .getSecret .., some data => data.contains installConfigKey || data.contains installStateKey
  | .listSecrets .., secrets => secrets.all fun s => s.data.keys.all isManifestPath
  | .controlPlaneJoined .., seen | .bootstrapComplete .., seen
  | .bootstrapMachineDeleted .., seen => seen
  | .generateBootConfig _, _ | .ensureMachines _, _ | .deleteBootstrapMachine .., _ => true

/-- The call was answered, and the answer brings the bootstrap on. -/
def Call.Reply.favours {c : Call} (reply : c.Reply) : Bool :=
  match reply.outcome with
  | .answered a => c.favours a
  | .failed _ | .timedOut => false

/-- All calls were answered favourably. -/
def Calls.Favourable (log : Calls) : Prop := ∀ e ∈ log, e.2.favours = true

namespace Calls.Favourable

variable {c : Call} {reply : c.Reply} {log : Calls}

theorem cons_iff : Calls.Favourable (⟨c, reply⟩ :: log) ↔
    reply.favours = true ∧ Calls.Favourable log :=
  List.forall_mem_cons

theorem append_iff {l m : Calls} :
    Calls.Favourable (l ++ m) ↔ Calls.Favourable l ∧ Calls.Favourable m :=
  List.forall_mem_append

/-- A favourable answer is no error. -/
theorem not_error {config : Config} {e : ControllerError}
    (h : Calls.Favourable (⟨c, reply⟩ :: log)) : c.result config reply.outcome ≠ .error e := by
  have hfavours : reply.favours = true := (cons_iff.mp h).1
  unfold Call.Reply.favours at hfavours
  cases houtcome : reply.outcome with
  | answered a => nofun
  | failed fault =>
    rw [houtcome] at hfavours
    cases hfavours
  | timedOut =>
    rw [houtcome] at hfavours
    cases hfavours

end Calls.Favourable

namespace Pass

open Calls (Favourable)

variable {p : Pass} {s : Status} {log looks : Calls} {r : Except Stop Requeue} {s' : Standing}

/-! ### Favourable ways -/

theorem exists_install {secret : String} {data : SecretData}
    (h : (data.contains installConfigKey || data.contains installStateKey) = true) :
    ∃ install, InstallState.ofSecret secret data = .ok install := by
  unfold Table.contains at h
  unfold InstallState.ofSecret
  dsimp only
  split
  · rename_i hnone
    simp_all
  · exact ⟨_, rfl⟩

/-- The pass has nothing left to do: the control plane is joined, complete and ready. -/
structure Finished (p : Pass) (r : Except Stop Requeue) (s : Status) : Prop where
  awaits : r = .ok .awaitChange
  initialized : s.initialized = true
  ready : s.ready = true
  settled : s.told .progressing = some (ConditionStatus.text .fails, Reason.text .asExpected,
    "control plane is ready", p.generation)
  calm : s.Calm p.generation

theorem finished_concluded {now : Time} (hinit : s.initialized = true) (hready : s.ready = true) :
    p.Finished (.ok .awaitChange) (p.concluded s now) where
  awaits := rfl
  initialized := hinit
  ready := hready
  settled := by
    unfold concluded Status.clearDegraded
    rw [Status.told_report, if_neg (by decide), Status.told_report, if_pos rfl]
  calm := Status.calm_clearDegraded

theorem finished_of_tearsDown (h : p.TearsDown s log r s') (hinit : s.initialized = true)
    (hfav : Favourable log) : p.Finished r s'.status := by
  cases h with
  | unasked he => exact absurd he hfav.not_error
  | unknown he => exact absurd he (Favourable.cons_iff.mp hfav).2.not_error
  | remains => cases (Favourable.cons_iff.mp (Favourable.cons_iff.mp hfav).2).1
  | gone => exact finished_concluded hinit rfl

theorem finished_of_completes (h : p.Completes s log r s') (hinit : s.initialized = true)
    (hfav : Favourable log) : p.Finished r s'.status := by
  cases h with
  | known _ hrest => exact finished_of_tearsDown hrest hinit hfav
  | unknown he => exact absurd he hfav.not_error
  | unfinished => cases (Favourable.cons_iff.mp hfav).1
  | finished hrest => exact finished_of_tearsDown hrest hinit (Favourable.cons_iff.mp hfav).2

theorem finished_of_joins (h : p.Joins s log r s') (hfav : Favourable log) :
    p.Finished r s'.status := by
  cases h with
  | unknown he => exact absurd he hfav.not_error
  | absent => cases (Favourable.cons_iff.mp hfav).1
  | joined hrest => exact finished_of_completes hrest rfl (Favourable.cons_iff.mp hfav).2

theorem finished_of_hands {bootSecret : String} (h : p.Hands bootSecret s log r s')
    (hfav : Favourable log) : p.Finished r s'.status := by
  cases h with
  | unmade he => exact absurd he hfav.not_error
  | made hrest => exact finished_of_joins hrest (Favourable.cons_iff.mp hfav).2

/-- Look-ups with favourable answers do not stop a pass. -/
theorem not_stumbles {why : Stop} (hfav : Favourable log) : ¬p.Stumbles s log why s' := by
  intro h
  cases h with
  | unanswered he => exact hfav.not_error he
  | absent => cases (Favourable.cons_iff.mp hfav).1
  | @useless data e now he =>
    have hsource : (data.contains installConfigKey || data.contains installStateKey) = true :=
      (Favourable.cons_iff.mp hfav).1
    obtain ⟨install, hinstall⟩ := exists_install hsource
    rw [hinstall] at he
    cases he
  | unlisted _ he => exact (Favourable.cons_iff.mp hfav).2.not_error he
  | @invalid data install now now' selector secrets errors hinstall herrors =>
    have hpaths : (secrets.all fun s => s.data.keys.all isManifestPath) = true :=
      (Favourable.cons_iff.mp (Favourable.cons_iff.mp hfav).2).1
    obtain ⟨m, hm⟩ := exists_collect_iff.mpr (by simpa [List.all_eq_true] using hpaths)
    rw [hm] at herrors
    cases herrors

theorem finished_of_provisions (h : p.Provisions s log r s') (hfav : Favourable log) :
    p.Finished r s'.status := by
  cases h with
  | stumbled h => exact absurd h (not_stumbles hfav)
  | unconfigured _ he => exact absurd he (Favourable.append_iff.mp hfav).2.not_error
  | configured _ hrest =>
    obtain ⟨-, hlater⟩ := Favourable.append_iff.mp hfav
    exact finished_of_hands hrest (Favourable.cons_iff.mp hlater).2

/-- A favourable pass over a spec that is accepted finishes. -/
theorem finished_of_goes {before : Standing} (h : p.Goes before log r s')
    (hsound : before.status.ready = true → before.status.initialized = true)
    (haccepted : p.judge before.status.boundTemplate = .ok ()) (hfav : Favourable log) :
    p.Finished r s'.status := by
  cases h with
  | refused hwhy =>
    rw [haccepted] at hwhy
    cases hwhy
  | ready hready => exact finished_concluded (hsound hready) hready
  | initialized hinit hrest => exact finished_of_completes hrest hinit hfav
  | fresh _ _ hrest => exact finished_of_provisions hrest hfav

end Pass

/-! ### Favourable turns -/

namespace Turn

variable {t : Turn} {ns : String} {after : Option Status}

/-- A turn over an accepted spec whose write, if any, succeeds ends as its pass asks for. -/
theorem exists_concluded (hns : t.resource.metadata.ns = some ns)
    (haccepted : (t.controller.passOver t.resource ns).judge
      (t.resource.status.getD .blank).boundTemplate = .ok ())
    (hsound : (t.resource.status.getD .blank).ready = true →
      (t.resource.status.getD .blank).initialized = true)
    (hwrites : ∀ w ∈ Effects.writes t.log, w.reply.result = .ok ()) :
    ∃ walked finish, Runs ((t.controller.passOver t.resource ns).walk
        (Controller.standingAt t.resource t.start)) (Effects.calls t.log) (some walked) ∧
      let o := (t.controller.passOver t.resource ns).outcome walked
      t.result =
        t.controller.conclude t.resource ⟨o.status, o.requeue, o.error, true⟩ t.start finish := by
  obtain ⟨-, habort, -⟩ | ⟨walked, hwalk, hend⟩ := Controller.runs_reconcile hns t.runs
  · cases haccepted.symm.trans habort
  have hcheck : Status.checkTransition t.resource.status
      ((t.controller.passOver t.resource ns).outcome walked).status = .ok () :=
    Controller.checkTransition_of_follows hsound (Pass.follows_outcome hwalk)
  dsimp only at hend
  rw [Controller.settle_of_ok hcheck] at hend
  obtain ⟨-, -, hresult⟩ | ⟨s, reply, -, hwritten, hresult⟩ := hend
  · exact ⟨walked, _, hwalk, hresult⟩
  · have hok : reply.result = .ok () := hwrites _ (hwritten ▸ List.mem_cons_self)
    rw [hok] at hresult
    exact ⟨walked, _, hwalk, hresult⟩

/-- **No control plane is stuck.**  Take a resource whose spec breaks no rule and keeps to the
template that is bound, and whose stored status is not ready before it is initialized; its
conditions may tell anything.  A reconciliation of it whose calls are all answered favourably
and whose write, if it writes, succeeds leaves the control plane initialized and ready, neither
progressing nor degraded, and waits for a change. -/
theorem becomes_ready (hns : t.resource.metadata.ns = some ns)
    (hsound : (t.resource.status.getD .blank).ready = true →
      (t.resource.status.getD .blank).initialized = true)
    (hspec : specErrors t.resource.spec ns = some [])
    (htemplate : checkTemplateUpdate t.resource.acceptedTemplate t.resource.spec.template = .ok ())
    (hfav : Calls.Favourable (Effects.calls t.log))
    (hwrites : ∀ w ∈ Effects.writes t.log, w.reply.result = .ok ()) (hafter : t.Leaves after) :
    t.result.1 = some (.ok .awaitChange) ∧ ∃ s, after = some s ∧ s.ready = true ∧
      s.initialized = true ∧ s.conditions.isFalse (ConditionType.text .progressing) = true ∧
      s.conditions.isFalse (ConditionType.text .degraded) = true ∧
      Phase.observe after = .ready := by
  have haccepted : (t.controller.passOver t.resource ns).judge
      (t.resource.status.getD .blank).boundTemplate = .ok () :=
    Pass.accepted_iff.mpr ⟨hspec, htemplate⟩
  have hfinished : ∀ walked, Runs ((t.controller.passOver t.resource ns).walk
      (Controller.standingAt t.resource t.start)) (Effects.calls t.log) (some walked) →
      (t.controller.passOver t.resource ns).Finished walked.1 walked.2.status := by
    rintro ⟨r, s'⟩ hwalk
    exact Pass.finished_of_goes (Pass.goes_walk _ r s' hwalk) hsound haccepted hfav
  obtain ⟨⟨r, s'⟩, finish, hwalk, hresult⟩ := exists_concluded hns haccepted hsound hwrites
  obtain ⟨rfl, -, -, -, -⟩ := hfinished _ hwalk
  have hok : t.result.1 = some (.ok .awaitChange) := by rw [hresult]; rfl
  obtain ⟨⟨r, s'⟩, z, hwalk, rfl, hsame⟩ := exists_stored hns hsound hok hafter
  obtain ⟨rfl, hinit, hready, hsettled, hcalm⟩ := hfinished _ hwalk
  have hz : z.ready = true := hsame.ready.trans hready
  refine ⟨hok, z, rfl, hz, hsame.initialized.trans hinit, ?_, ?_, ?_⟩
  · exact (Status.hasStatus_iff_of_told ((hsame.told .progressing).trans hsettled)).mpr rfl
  · exact (Status.hasStatus_iff_of_told ((hsame.told .degraded).trans hcalm)).mpr rfl
  · simp [Phase.observe, Phase.ofStatus, Phase.progress, hz]

/-- From a status that is out of order one turn comes to the end. -/
theorem becomes_ready_stale :
    Demo.stale.initialized = false ∧ Demo.stale.isTrue .bootstrapComplete = true ∧
      Demo.stale.isTrue .degraded = true ∧
    ∃ s, (History.demoTurn (some Demo.stale) Demo.completeWorld).Leaves (some s) ∧
      (History.demoTurn (some Demo.stale) Demo.completeWorld).result.1 = some (.ok .awaitChange) ∧
      s.initialized = true ∧ Phase.observe (some s) = .ready := by
  have hwritten : (Demo.written (some Demo.stale) Demo.completeWorld).isSome = true := by
    decide +kernel
  have hfav : (Effects.calls (Demo.effects (some Demo.stale) Demo.completeWorld)).all
      (·.2.favours) = true := by decide +kernel
  have hwrites : (Effects.writes (Demo.effects (some Demo.stale) Demo.completeWorld)).all
      (fun w => w.reply.result.isOk) = true := by decide +kernel
  obtain ⟨s, hs⟩ := Option.isSome_iff_exists.mp hwritten
  have hleaves := History.demoTurn_leaves hs
  have hok : ∀ w ∈ Effects.writes (Demo.effects (some Demo.stale) Demo.completeWorld),
      w.reply.result = .ok () := by
    intro w hw
    have hgood := List.all_eq_true.mp hwrites w hw
    cases hresult : w.reply.result with
    | ok u => rfl
    | error e =>
      rw [hresult] at hgood
      cases hgood
  obtain ⟨hresult, s', hs', -, hinit, -, -, hphase⟩ :=
    becomes_ready rfl (by decide) (by decide +kernel) rfl (List.all_eq_true.mp hfav) hok hleaves
  cases hs'
  exact ⟨rfl, by decide +kernel, by decide +kernel, _, hleaves, hresult, hinit, hphase⟩

end Turn

end ControlPlane
