/-
The latches of a status through a pass.

A pass sets `initialized` when it sees that a control-plane machine has joined, and
`ready` when it sees that the bootstrap machine is gone; nothing else sets them, and
nothing takes them back.  `Follows` says so of a status, the calls after it and the status
after those, and every step of a pass respects it.  The steps after the join need to be
told where they start: what they see counts only if what goes before it has been seen.
-/
import ControlPlane.Proofs.Pass

namespace ControlPlane

namespace Signal

/-- The outcome of a call tells of the signal. -/
def toldBy : Signal → (c : Call) → Outcome c.Answer → Bool
  | .controlPlaneJoined, .controlPlaneJoined .., .answered seen => seen
  | .bootstrapCompleted, .bootstrapComplete .., .answered seen => seen
  | .bootstrapMachineDeleted, .bootstrapMachineDeleted .., .answered seen => seen
  | _, _, _ => false

/-- The signal was seen in some calls. -/
def seenIn (signal : Signal) (log : Calls) : Bool :=
  log.any fun e => signal.toldBy e.1 e.2.outcome

@[simp] theorem seenIn_nil {signal : Signal} : signal.seenIn [] = false := rfl

@[simp] theorem seenIn_cons {signal : Signal} {c : Call} {reply : c.Reply} {log : Calls} :
    signal.seenIn (⟨c, reply⟩ :: log) = (signal.toldBy c reply.outcome || signal.seenIn log) := rfl

@[simp] theorem seenIn_append {signal : Signal} {l m : Calls} :
    signal.seenIn (l ++ m) = (signal.seenIn l || signal.seenIn m) :=
  List.any_append

/-- A call that came to an error tells of nothing. -/
theorem toldBy_of_result {signal : Signal} {c : Call} {config : Config}
    {outcome : Outcome c.Answer} {e : ControllerError} (h : c.result config outcome = .error e) :
    signal.toldBy c outcome = false := by
  cases outcome with
  | answered a => cases h
  | failed fault => cases signal <;> cases c <;> rfl
  | timedOut => cases signal <;> cases c <;> rfl

end Signal

/-- Each latch is set after some calls if it was before them or its signal was seen in
them, the signal for `ready` is only seen in its turn, and the bound template stays. -/
structure Status.Follows (before : Status) (log : Calls) (after : Status) : Prop where
  initialized : after.initialized =
    (before.initialized || Signal.controlPlaneJoined.seenIn log)
  ready : after.ready = (before.ready || Signal.bootstrapMachineDeleted.seenIn log)
  inTurn : Signal.bootstrapMachineDeleted.seenIn log = true → after.initialized = true
  boundTemplate : ∀ t, before.boundTemplate = some t → after.boundTemplate = some t

namespace Status.Follows

theorem trans {a b c : Status} {l m : Calls} (hab : a.Follows l b) (hbc : b.Follows m c) :
    a.Follows (l ++ m) c where
  initialized := by
    rw [hbc.initialized, hab.initialized, Signal.seenIn_append, Bool.or_assoc]
  ready := by rw [hbc.ready, hab.ready, Signal.seenIn_append, Bool.or_assoc]
  inTurn h := by
    rw [Signal.seenIn_append, Bool.or_eq_true] at h
    rcases h with hl | hm
    · rw [hbc.initialized, hab.inTurn hl, Bool.true_or]
    · exact hbc.inTurn hm
  boundTemplate t ht := hbc.boundTemplate t (hab.boundTemplate t ht)

/-- What leaves the latches and the template, after calls that tell of nothing. -/
theorem quiet {before after : Status} {log : Calls}
    (hjoined : Signal.controlPlaneJoined.seenIn log = false)
    (hremoved : Signal.bootstrapMachineDeleted.seenIn log = false)
    (hinit : after.initialized = before.initialized) (hready : after.ready = before.ready)
    (hbound : after.boundTemplate = before.boundTemplate) : before.Follows log after where
  initialized := by rw [hjoined, Bool.or_false, hinit]
  ready := by rw [hremoved, Bool.or_false, hready]
  inTurn h := by rw [hremoved] at h; cases h
  boundTemplate _ ht := hbound.trans ht

theorem refl {status : Status} : status.Follows [] status := quiet rfl rfl rfl rfl rfl

/-- Nothing follows from a call that came to an error. -/
theorem failed {status : Status} {config : Config} {c : Call} {reply : c.Reply}
    {e : ControllerError} (h : c.result config reply.outcome = .error e) :
    status.Follows [⟨c, reply⟩] status := by
  have htold : ∀ signal : Signal, signal.seenIn [⟨c, reply⟩] = false := by
    intro signal
    rw [Signal.seenIn_cons, Signal.toldBy_of_result h, Signal.seenIn_nil, Bool.or_false]
  exact quiet (htold _) (htold _) rfl rfl rfl

end Status.Follows

namespace Pass

open Walk Status

variable {p : Pass} {s : Standing}

/-! ### The steps -/

theorem follows_resolveInstallState : p.resolveInstallState.Respects Follows s := by
  refine ends_resolveInstallState ?found ?failed ?absent ?useless
  case found =>
    intro data install now _
    refine ⟨?_, ?_, nofun, ?_⟩
    · simp [bound, lookup, Signal.toldBy]
    · simp [bound, lookup, Signal.toldBy]
    · intro t ht
      simp [bound, ht]
  case failed =>
    intro reply e he
    exact .failed he
  case absent =>
    intro now
    exact .quiet rfl rfl rfl rfl rfl
  case useless =>
    intro data e now _
    exact .quiet rfl rfl rfl rfl rfl

theorem follows_resolveManifests : p.resolveManifests.Respects Follows s := by
  refine ends_resolveManifests ?defaults ?found ?unreadable ?failed ?invalid
  case defaults =>
    intro _
    exact .quiet rfl rfl rfl rfl rfl
  case found =>
    intro selector secrets manifests now _ _
    exact .quiet rfl rfl rfl rfl rfl
  case unreadable =>
    intro e _
    exact .refl
  case failed =>
    intro selector reply e _ he
    exact .failed he
  case invalid =>
    intro selector secrets errors now _ _
    exact .quiet rfl rfl rfl rfl rfl

theorem follows_generateBootConfig {install : InstallState} {manifests : Table String Bytes} :
    (p.generateBootConfig install manifests).Respects Follows s := by
  refine ends_generateBootConfig ?handed ?failed
  case handed =>
    intro bootSecret now
    exact .quiet rfl rfl rfl rfl rfl
  case failed =>
    intro reply e he
    exact .failed he

theorem follows_ensureMachines {bootSecret : String} :
    (p.ensureMachines bootSecret).Respects Follows s := by
  refine ends_ensureMachines ?made ?failed
  case made =>
    intro now
    exact .quiet rfl rfl rfl rfl rfl
  case failed =>
    intro reply e he
    exact .failed he

theorem follows_conclude : p.conclude.Respects Follows s :=
  ends_conclude.mpr (.quiet rfl rfl rfl rfl rfl)

theorem follows_waitFor {type : ConditionType} {reason : Reason} {message : String} :
    (p.waitFor type reason message).Respects Follows s :=
  ends_waitFor.mpr (.quiet rfl rfl rfl rfl rfl)

/-! ### The signals -/

/-- A control-plane machine that is seen sets its latch. -/
theorem follows_look_joined :
    (p.look .controlPlaneInitialized .controlPlaneJoined
      (.controlPlaneJoined p.ns p.cluster) id).Ends s fun log r s' =>
        s.status.Follows log s'.status ∧
          ∀ seen, r = .ok seen → seen = true → s'.status.initialized = true := by
  refine ends_look rfl rfl ?applied ?unseen ?failed
  case applied =>
    intro seen now hseen
    have hseen : seen = true := hseen
    refine ⟨⟨?_, ?_, nofun, fun _ ht => ht⟩, fun _ _ _ => rfl⟩
    · simp [signalled, markInitialized, Signal.toldBy, hseen]
    · simp [signalled, markInitialized, Signal.toldBy]
  case unseen =>
    intro seen now hseen
    have hseen : seen = false := hseen
    exact ⟨.quiet (by simp [Signal.toldBy, hseen]) rfl rfl rfl rfl, by simp⟩
  case failed =>
    intro reply e he
    exact ⟨.failed he, by simp⟩

/-- A bootstrap that is seen to be complete sets no latch, but the end may follow. -/
theorem follows_look_completed (hinit : s.status.initialized = true) :
    (p.look .bootstrapComplete .bootstrapCompleted (.bootstrapComplete p.ns p.cluster) id).Ends s
      fun log r s' => s.status.Follows log s'.status ∧
        ∀ seen, r = .ok seen → seen = true →
          s'.status.initialized = true ∧ s'.status.isTrue .bootstrapComplete = true := by
  refine ends_look hinit rfl ?applied ?unseen ?failed
  case applied =>
    intro seen now _
    refine ⟨.quiet rfl rfl rfl rfl rfl, fun _ _ _ => ⟨hinit, ?_⟩⟩
    rw [isTrue_signalled rfl]
    exact if_pos rfl
  case unseen =>
    intro seen now _
    exact ⟨.quiet rfl rfl rfl rfl rfl, by simp⟩
  case failed =>
    intro reply e he
    exact ⟨.failed he, by simp⟩

/-- A bootstrap machine that is seen to be gone sets its latch, since all that goes before
it has been seen. -/
theorem follows_look_removed (hinit : s.status.initialized = true)
    (hcomplete : s.status.isTrue .bootstrapComplete = true) :
    (p.look .ready .bootstrapMachineDeleted (.bootstrapMachineDeleted p.ns p.cluster) id).Respects
      Follows s := by
  have hlatch : s.status.latch .bootstrapMachineDeleted = .ok { s.status with ready := true } :=
    if_pos hinit
  refine ends_look hcomplete hlatch ?applied ?unseen ?failed
  case applied =>
    intro seen now hseen
    have hseen : seen = true := hseen
    refine ⟨?_, ?_, fun _ => hinit, fun _ ht => ht⟩
    · simp [signalled, Signal.toldBy]
    · simp [signalled, Signal.toldBy, hseen]
  case unseen =>
    intro seen now hseen
    have hseen : seen = false := hseen
    exact .quiet rfl (by simp [Signal.toldBy, hseen]) rfl rfl rfl
  case failed =>
    intro reply e he
    exact .failed he

/-! ### The whole way -/

theorem follows_tearDown (hinit : s.status.initialized = true)
    (hcomplete : s.status.isTrue .bootstrapComplete = true) : p.tearDown.Respects Follows s := by
  have hdelete : (p.callFor .ready (.deleteBootstrapMachine p.ns p.cluster)).Ends s
      fun log r s' => s.status.Follows log s'.status ∧ ∀ a, r = .ok a → s'.status = s.status := by
    refine ends_callFor ?_ ?_
    · intro _ now
      exact ⟨.quiet rfl rfl rfl rfl rfl, fun _ _ => rfl⟩
    · intro reply e he
      exact ⟨.failed he, by simp⟩
  refine respects_bind_of Follows.trans hdelete ?_
  intro _ s' hs
  rw [← hs] at hinit hcomplete
  refine respects_bind Follows.trans (follows_look_removed hinit hcomplete) ?_
  intro gone s''
  split
  · exact follows_conclude
  · exact follows_waitFor

theorem follows_complete (hinit : s.status.initialized = true) :
    p.complete.Respects Follows s := by
  unfold complete
  refine ends_bind.mpr (ends_status.mpr ?_)
  dsimp only
  split
  · rename_i hcomplete
    exact follows_tearDown hinit hcomplete
  · refine respects_bind_of Follows.trans (follows_look_completed hinit) ?_
    intro seen s' hs
    split
    · rename_i hseen
      exact follows_tearDown (hs hseen).1 (hs hseen).2
    · exact follows_waitFor

theorem follows_provision : p.provision.Respects Follows s := by
  refine respects_bind Follows.trans follows_resolveInstallState fun install _ => ?_
  refine respects_bind Follows.trans follows_resolveManifests fun manifests _ => ?_
  refine respects_bind Follows.trans follows_generateBootConfig fun bootSecret _ => ?_
  refine respects_bind Follows.trans follows_ensureMachines fun _ _ => ?_
  refine respects_bind_of Follows.trans follows_look_joined fun seen s' hs => ?_
  split
  · rename_i hseen
    exact follows_complete (hs hseen)
  · exact follows_waitFor

/-- A walk sets a latch exactly when it sees its signal, and takes none back. -/
theorem follows_walk : p.walk.Respects Follows s :=
  ends_walk (fun _ _ => .refl) (fun _ => follows_conclude) (fun _ hinit => follows_complete hinit)
    fun _ _ _ => follows_provision

/-- A control plane that is ready is left in peace. -/
theorem ends_walk_of_ready (hready : s.status.ready = true) :
    p.walk.Ends s fun log _ _ => log = [] := by
  have hnot : s.status.ready ≠ false := by simp [hready]
  refine ends_walk ?refused ?ready ?initialized ?waiting
  case refused =>
    intro why _
    rfl
  case ready =>
    intro _
    exact ends_conclude.mpr rfl
  case initialized =>
    intro hunready _
    exact absurd hunready hnot
  case waiting =>
    intro _ hunready _
    exact absurd hunready hnot

/-- The status that a pass has to say follows the one it was given. -/
theorem follows_outcome {log : Calls} {walked : Except Stop Requeue × Standing}
    (hwalk : Program.Runs (p.walk s) log (some walked)) :
    s.status.Follows log (p.outcome walked).status := by
  obtain ⟨r, s'⟩ := walked
  have h : s.status.Follows log s'.status := follows_walk log r s' hwalk
  cases r with
  | ok requeue => exact h
  | error why => exact ⟨by simpa [outcome] using h.initialized, by simpa [outcome] using h.ready,
      by simpa [outcome] using h.inTurn, by simpa [outcome] using h.boundTemplate⟩

end Pass

end ControlPlane
