/-
When the bootstrap machine is torn down.

The bootstrap machine may go only when a control-plane machine has joined and the installer
has reported the end of the bootstrap after that.  What a pass goes by is not the answers
themselves but the latch and the condition that an earlier pass has stored, so the answers
have to be found in the run before: `Earned` says of a status that whatever it tells has
been answered, and `Guarded` of some calls that each one that tears down comes when it is
`Safe`.  A move keeps the one and has the other, and so does a whole run.  That the deletion
comes before the look for its end is no matter of a single move, and is `Requested` of the
calls of a pass.
-/
import ControlPlane.Proofs.History
import ControlPlane.Proofs.Moves

namespace ControlPlane

/-- Collaborators that tell of the end of the bootstrap, too. -/
def Demo.completeWorld : InMemory.World :=
  { joinedWorld with installer := joinedWorld.installer.setComplete "clusters" "demo" true }

/-! ### Answers in a run -/

namespace Signal

variable {signal : Signal} {ns cluster : String} {l m : Calls}

/-- The exchange is an answer that tells of the signal for a cluster. -/
def tells (signal : Signal) (ns cluster : String) (e : Program.Exchange Call Call.Reply) : Bool :=
  decide (e.1 = signal.call ns cluster) && signal.toldBy e.1 e.2.outcome

/-- The signal was told of for a cluster. -/
def heardIn (signal : Signal) (ns cluster : String) (log : Calls) : Bool :=
  log.any (signal.tells ns cluster)

theorem tells_call {reply : (signal.call ns cluster).Reply} :
    signal.tells ns cluster ⟨signal.call ns cluster, reply⟩ =
      signal.toldBy (signal.call ns cluster) reply.outcome := by
  simp [tells]

theorem heardIn_append :
    signal.heardIn ns cluster (l ++ m) = (signal.heardIn ns cluster l || signal.heardIn ns cluster m) :=
  List.any_append

/-- Only a call for the end of a deletion tells of it. -/
theorem call_of_toldBy {c : Call} {outcome : Outcome c.Answer}
    (h : Signal.bootstrapMachineDeleted.toldBy c outcome = true) :
    ∃ ns cluster, c = .bootstrapMachineDeleted ns cluster := by
  cases c with
  | bootstrapMachineDeleted ns cluster => exact ⟨ns, cluster, rfl⟩
  | _ => cases outcome <;> cases h

/-- What was heard of was heard of for a first time. -/
theorem exists_first (h : signal.heardIn ns cluster l = true) :
    ∃ before e after, l = before ++ e :: after ∧ signal.heardIn ns cluster before = false ∧
      signal.tells ns cluster e = true := by
  have hfound : (l.find? (signal.tells ns cluster)).isSome = true := by
    rw [List.find?_isSome]
    exact List.any_eq_true.mp h
  obtain ⟨e, he⟩ := Option.isSome_iff_exists.mp hfound
  obtain ⟨htells, before, after, hl, hbefore⟩ := List.find?_eq_some_iff_append.mp he
  refine ⟨before, e, after, hl, ?_, htells⟩
  rw [heardIn, List.any_eq_false]
  intro x hx
  simpa using hbefore x hx

end Signal

/-- A control-plane machine was seen to have joined, and later than that for the first time
the bootstrap was seen to be complete. -/
def Safe (ns cluster : String) (past : Calls) : Prop :=
  ∃ before joined after, past = before ++ joined :: after ∧
    Signal.controlPlaneJoined.heardIn ns cluster before = false ∧
    Signal.controlPlaneJoined.tells ns cluster joined = true ∧
    Signal.bootstrapCompleted.heardIn ns cluster after = true

namespace Safe

variable {ns cluster : String} {past later : Calls}

theorem append (h : Safe ns cluster past) : Safe ns cluster (past ++ later) := by
  obtain ⟨before, joined, after, rfl, hfirst, hjoined, hcompleted⟩ := h
  refine ⟨before, joined, after ++ later, by simp, hfirst, hjoined, ?_⟩
  rw [Signal.heardIn_append, hcompleted, Bool.true_or]

/-- It is safe once the end of the bootstrap is heard of after a machine has joined. -/
theorem of_heard (hjoined : Signal.controlPlaneJoined.heardIn ns cluster past = true)
    (hcompleted : Signal.bootstrapCompleted.heardIn ns cluster later = true) :
    Safe ns cluster (past ++ later) := by
  obtain ⟨before, joined, after, rfl, hfirst, htells⟩ := Signal.exists_first hjoined
  refine ⟨before, joined, after ++ later, by simp, hfirst, htells, ?_⟩
  rw [Signal.heardIn_append, hcompleted, Bool.or_true]

end Safe

/-! ### Calls that tear down -/

/-- The cluster that a call tears down, or looks for the end of that. -/
def Call.tearsDown : Call → Option (String × String)
  | .deleteBootstrapMachine ns cluster | .bootstrapMachineDeleted ns cluster => some (ns, cluster)
  | _ => none

/-- After some past, no call tears anything down but the cluster, and that only when it is
safe. -/
def Guarded (ns cluster : String) : Calls → Calls → Prop
  | _, [] => True
  | past, e :: log =>
    (∀ target, e.1.tearsDown = some target → target = (ns, cluster) ∧ Safe ns cluster past) ∧
      Guarded ns cluster (past ++ [e]) log

namespace Guarded

variable {ns cluster : String} {past l m : Calls}

theorem append_iff : Guarded ns cluster past (l ++ m) ↔
    Guarded ns cluster past l ∧ Guarded ns cluster (past ++ l) m := by
  induction l generalizing past with
  | nil => simp [Guarded]
  | cons e l ih =>
    show (_ ∧ Guarded ns cluster (past ++ [e]) (l ++ m)) ↔
      (_ ∧ Guarded ns cluster (past ++ [e]) l) ∧ Guarded ns cluster (past ++ e :: l) m
    rw [ih, and_assoc, List.append_assoc, List.singleton_append]

/-- What tears down is safe where it comes. -/
theorem safe {before after : Calls} {e : Program.Exchange Call Call.Reply} {target : String × String}
    (h : Guarded ns cluster past (before ++ e :: after)) (he : e.1.tearsDown = some target) :
    target = (ns, cluster) ∧ Safe ns cluster (past ++ before) :=
  (append_iff.mp h).2.1 target he

theorem of_tearsDown_eq_none (h : ∀ e ∈ l, e.1.tearsDown = none) : Guarded ns cluster past l := by
  induction l generalizing past with
  | nil => trivial
  | cons e l ih =>
    refine ⟨fun target he => ?_, ih fun e' he' => h e' (List.mem_cons_of_mem _ he')⟩
    rw [h e List.mem_cons_self] at he
    cases he

theorem single {e : Program.Exchange Call Call.Reply}
    (h : ∀ target, e.1.tearsDown = some target → target = (ns, cluster) ∧ Safe ns cluster past) :
    Guarded ns cluster past [e] :=
  ⟨h, trivial⟩

end Guarded

/-! ### What a status tells -/

namespace Status

/-- What the status tells of a machine that has joined and of the end of the bootstrap was
answered in the past. -/
structure Earned (ns cluster : String) (past : Calls) (s : Status) : Prop where
  joined : s.initialized = true → Signal.controlPlaneJoined.heardIn ns cluster past = true
  completed : s.isTrue .bootstrapComplete = true → Safe ns cluster past

/-- Whatever was earned before the calls is earned after them, and they are guarded. -/
def Careful (ns cluster : String) (before : Status) (log : Calls) (after : Status) : Prop :=
  ∀ past, before.Earned ns cluster past →
    after.Earned ns cluster (past ++ log) ∧ Guarded ns cluster past log

variable {ns cluster : String} {a b c : Status} {past l m : Calls}

theorem earned_blank : blank.Earned ns cluster past := ⟨nofun, nofun⟩

/-- A status that tells no more has earned it. -/
theorem Earned.append (h : a.Earned ns cluster past)
    (hinit : b.initialized = true → a.initialized = true)
    (hcomplete : b.isTrue .bootstrapComplete = true → a.isTrue .bootstrapComplete = true) :
    b.Earned ns cluster (past ++ l) where
  joined hb := by rw [Signal.heardIn_append, h.joined (hinit hb), Bool.true_or]
  completed hb := (h.completed (hcomplete hb)).append

/-- An error that is reported tells of nothing that was not told before. -/
theorem Earned.reportError {step : Option (ConditionType × Reason)} {error : ControllerError}
    {generation : Option Int} {now : Time} (h : a.Earned ns cluster past) :
    (a.reportError step error generation now).Earned ns cluster (past ++ l) := by
  refine h.append (fun hb => ?_) fun hb => ?_
  · rw [reportError_initialized] at hb
    exact hb
  · exact isTrue_of_isTrue_reportError (by decide) (by decide) hb

theorem Careful.trans (hab : a.Careful ns cluster l b) (hbc : b.Careful ns cluster m c) :
    a.Careful ns cluster (l ++ m) c := by
  intro past ha
  obtain ⟨hb, hl⟩ := hab past ha
  obtain ⟨hc, hm⟩ := hbc (past ++ l) hb
  rw [List.append_assoc] at hc
  exact ⟨hc, Guarded.append_iff.mpr ⟨hl, hm⟩⟩

end Status

namespace Pass

open Status

variable {p : Pass} {a b : Status} {past l : Calls} {signal : Signal}

/-! ### The moves

The deletion is asked for, and its end is looked for, only once the bootstrap is told to be
complete. -/

theorem guarded_call {reply : (signal.call p.ns p.cluster).Reply}
    (h : a.Earned p.ns p.cluster past) (hawaits : a.Awaits signal) :
    Guarded p.ns p.cluster past [⟨signal.call p.ns p.cluster, reply⟩] := by
  refine .single fun target htarget => ?_
  cases signal with
  | controlPlaneJoined => cases htarget
  | bootstrapCompleted => cases htarget
  | bootstrapMachineDeleted =>
    cases htarget
    exact ⟨rfl, h.completed hawaits.2⟩

theorem guarded_deletion {reply : (Call.deleteBootstrapMachine p.ns p.cluster).Reply}
    (h : a.Earned p.ns p.cluster past) (hawaits : a.Awaits .bootstrapMachineDeleted) :
    Guarded p.ns p.cluster past [⟨.deleteBootstrapMachine p.ns p.cluster, reply⟩] := by
  refine .single fun target htarget => ?_
  cases htarget
  exact ⟨rfl, h.completed hawaits.2⟩

/-- A signal that is seen is one that was told of, and the end of the bootstrap is told of
after a machine has joined. -/
theorem earned_signalled {latched : Status} {reply : (signal.call p.ns p.cluster).Reply}
    (h : a.Earned p.ns p.cluster past) (hawaits : a.Awaits signal)
    (hlatch : a.latch signal = .ok latched)
    (htold : signal.toldBy (signal.call p.ns p.cluster) reply.outcome = true) :
    (p.signalled signal latched reply.arrival).Earned p.ns p.cluster
      (past ++ [⟨signal.call p.ns p.cluster, reply⟩]) := by
  have hheard : signal.heardIn p.ns p.cluster [⟨signal.call p.ns p.cluster, reply⟩] = true := by
    rw [Signal.heardIn, List.any_cons, Signal.tells_call, htold, Bool.true_or]
  have htrue : ∀ type : ConditionType, (p.signalled signal latched reply.arrival).isTrue type =
      if type = signal.condition then true else a.isTrue type :=
    fun type => isTrue_signalled (conditions_of_latch hlatch)
  cases signal with
  | controlPlaneJoined =>
    constructor
    · intro _
      rw [Signal.heardIn_append, hheard, Bool.or_true]
    · intro hcomplete
      rw [htrue] at hcomplete
      exact (h.completed hcomplete).append
  | bootstrapCompleted =>
    have hjoined := h.joined hawaits.1
    constructor
    · intro _
      rw [Signal.heardIn_append, hjoined, Bool.true_or]
    · intro _
      exact .of_heard hjoined hheard
  | bootstrapMachineDeleted =>
    refine h.append (fun _ => hawaits.1) fun _ => hawaits.2

theorem careful_of_move (h : p.Move a l b) : a.Careful p.ns p.cluster l b := by
  intro past hearned
  cases h with
  | prepared _ h =>
    refine ⟨hearned.append (fun hb => h.initialized ▸ hb) (fun hb => h.complete ▸ hb), ?_⟩
    refine .of_tearsDown_eq_none fun e he => ?_
    have hpreparation := List.all_eq_true.mp h.calls e he
    revert hpreparation
    cases e.1 <;> simp [Call.isPreparation, Call.tearsDown]
  | refused _ => exact ⟨hearned.reportError, trivial⟩
  | seen signal reply hawaits hlatch htold =>
    exact ⟨earned_signalled hearned hawaits hlatch htold, guarded_call hearned hawaits⟩
  | unseen signal hawaits _ =>
    refine ⟨hearned.append id fun hb => ?_, guarded_call hearned hawaits⟩
    rw [isTrue_waiting (by decide) (by decide)] at hb
    split at hb
    · cases hb
    · exact hb
  | failed signal hawaits _ => exact ⟨hearned.reportError, guarded_call hearned hawaits⟩
  | asked hawaits => exact ⟨hearned.append id id, guarded_deletion hearned hawaits⟩
  | refusedDeletion hawaits => exact ⟨hearned.reportError, guarded_deletion hearned hawaits⟩
  | concluded =>
    refine ⟨hearned.append id fun hb => ?_, trivial⟩
    rw [isTrue_concluded (by decide) (by decide)] at hb
    exact hb

end Pass

/-! ### The deletion comes first

A pass looks for the end of a deletion only behind its own call for it. -/

/-- No end of a deletion is looked for in some calls before the deletion is asked for in
them. -/
def Requested (log : Calls) : Prop :=
  ∀ before ns cluster reply after,
    log = before ++ ⟨.bootstrapMachineDeleted ns cluster, reply⟩ :: after →
      ∃ asked, ⟨.deleteBootstrapMachine ns cluster, asked⟩ ∈ before

namespace Requested

variable {l m : Calls}

theorem append (hl : Requested l) (hm : Requested m) : Requested (l ++ m) := by
  intro before ns cluster reply after hsplit
  rcases List.append_eq_append_iff.mp hsplit with ⟨rest, rfl, hrest⟩ | ⟨rest, rfl, hrest⟩
  · obtain ⟨asked, hmem⟩ := hm rest ns cluster reply after hrest
    exact ⟨asked, List.mem_append_right _ hmem⟩
  · cases rest with
    | nil =>
      obtain ⟨asked, hmem⟩ := hm [] ns cluster reply after hrest.symm
      cases hmem
    | cons e rest =>
      cases hrest
      exact hl before ns cluster reply rest rfl

theorem of_quiet (h : ∀ e ∈ l, ∀ ns cluster, e.1 ≠ .bootstrapMachineDeleted ns cluster) :
    Requested l := by
  intro before ns cluster reply after hsplit
  exact absurd rfl (h _ (hsplit ▸ List.mem_append_right _ List.mem_cons_self) ns cluster)

/-- The deletion and the look for its end. -/
theorem both {ns cluster : String} {asked : (Call.deleteBootstrapMachine ns cluster).Reply}
    {looked : (Call.bootstrapMachineDeleted ns cluster).Reply} :
    Requested [⟨.deleteBootstrapMachine ns cluster, asked⟩,
      ⟨.bootstrapMachineDeleted ns cluster, looked⟩] := by
  intro before ns' cluster' reply after hsplit
  cases before with
  | nil => cases hsplit
  | cons first rest =>
    cases rest with
    | nil =>
      cases hsplit
      exact ⟨asked, List.mem_cons_self⟩
    | cons second rest => cases rest <;> cases hsplit

end Requested

namespace Pass

open Walk Status

variable {p : Pass} {s : Standing}

theorem requested_preparation {α : Type} {w : Walk α} (hw : p.Carries Prepares w s) :
    w.Respects (fun _ log _ => Requested log) s :=
  hw.imp fun log r s' h => .of_quiet fun e he ns cluster hcall => by
    have hpreparation := List.all_eq_true.mp h.calls e he
    rw [hcall] at hpreparation
    cases hpreparation

theorem requested_tearDown (hinit : s.status.initialized = true)
    (hcomplete : s.status.isTrue .bootstrapComplete = true) :
    p.tearDown.Respects (fun _ log _ => Requested log) s := by
  refine ends_bind.mpr (ends_callFor (fun _ asked => ?asked) ?refused)
  case refused =>
    intro reply e _
    exact .of_quiet (by simp)
  case asked =>
    refine ends_bind.mpr (ends_look hcomplete (latch_bootstrapMachineDeleted hinit) ?applied
      ?unseen ?failed)
    case applied =>
      intro gone now _
      exact ends_conclude.mpr .both
    case unseen =>
      intro gone now _
      exact ends_waitFor.mpr .both
    case failed =>
      intro reply e _
      exact .both

theorem requested_complete (hinit : s.status.initialized = true) :
    p.complete.Respects (fun _ log _ => Requested log) s := by
  refine ends_bind.mpr (ends_status.mpr ?_)
  dsimp only
  split
  · rename_i hcomplete
    exact requested_tearDown hinit hcomplete
  · have hquiet : ∀ reply : (Call.bootstrapComplete p.ns p.cluster).Reply,
        Requested [⟨.bootstrapComplete p.ns p.cluster, reply⟩] := fun _ => .of_quiet (by simp)
    refine ends_bind.mpr (ends_look hinit rfl ?applied ?unseen ?failed)
    case applied =>
      intro done now _
      have hcomplete : (p.signalled .bootstrapCompleted s.status now).isTrue .bootstrapComplete =
          true := isTrue_signalled_condition
      have hrest : p.tearDown.Respects (fun _ log _ => Requested log)
          ⟨p.signalled .bootstrapCompleted s.status now, now⟩ := requested_tearDown hinit hcomplete
      exact hrest.imp fun log r s' h => (hquiet _).append h
    case unseen =>
      intro done now _
      exact ends_waitFor.mpr (hquiet _)
    case failed =>
      intro reply e _
      exact hquiet reply

theorem requested_provision : p.provision.Respects (fun _ log _ => Requested log) s := by
  refine respects_bind .append (requested_preparation prepares_resolveInstallState)
    fun install _ => ?_
  refine respects_bind .append (requested_preparation prepares_resolveManifests)
    fun manifests _ => ?_
  refine respects_bind .append (requested_preparation prepares_generateBootConfig)
    fun bootSecret _ => ?_
  refine respects_bind .append (requested_preparation prepares_ensureMachines) fun _ s => ?_
  have hquiet : ∀ reply : (Call.controlPlaneJoined p.ns p.cluster).Reply,
      Requested [⟨.controlPlaneJoined p.ns p.cluster, reply⟩] := fun _ => .of_quiet (by simp)
  refine ends_bind.mpr (ends_look rfl rfl ?applied ?unseen ?failed)
  case applied =>
    intro joined now _
    have hrest : p.complete.Respects (fun _ log _ => Requested log)
        ⟨p.signalled .controlPlaneJoined s.status.markInitialized now, now⟩ :=
      requested_complete rfl
    exact hrest.imp fun log r s' h => (hquiet _).append h
  case unseen =>
    intro joined now _
    exact ends_waitFor.mpr (hquiet _)
  case failed =>
    intro reply e _
    exact hquiet reply

theorem requested_walk : p.walk.Respects (fun _ log _ => Requested log) s :=
  ends_walk (fun _ _ => .of_quiet (by simp)) (fun _ => ends_conclude.mpr (.of_quiet (by simp)))
    (fun _ hinit => requested_complete hinit) fun _ _ _ => requested_provision

end Pass

/-! ### The run -/

/-- The calls of some turns, one turn after the other. -/
def Turn.callsOf (turns : List Turn) : Calls := turns.flatMap fun t => Effects.calls t.log

/-- After a turn, what may be stored has been earned. -/
theorem Turn.careful_of_leaves {t : Turn} {ns name : String} {after : Option Status} {past : Calls}
    (hns : t.resource.metadata.ns = some ns) (hname : t.resource.name = name)
    (hearned : (t.resource.status.getD .blank).Earned ns name past) (hafter : t.Leaves after) :
    (after.getD .blank).Earned ns name (past ++ Effects.calls t.log) ∧
      Guarded ns name past (Effects.calls t.log) := by
  subst hname
  have hguarded : Guarded ns t.resource.name past (Effects.calls t.log) := by
    obtain ⟨hlog, -⟩ | ⟨walked, hwalk⟩ := Controller.walk_cases hns t.runs
    · rw [hlog]
      exact trivial
    · have hcareful := Pass.carries_outcome Status.Careful.trans Pass.careful_of_move hwalk
      exact (hcareful past hearned).2
  refine ⟨?_, hguarded⟩
  cases hafter with
  | kept hwrites => exact hearned.append id id
  | stored hw f =>
    obtain ⟨-, -, -, -, written, hwritten, hstatus⟩ := Controller.of_mem_writes hns t.runs hw
    have hcareful := Pass.carries_outcome Status.Careful.trans Pass.careful_of_move hwritten
    obtain ⟨hwrote, -⟩ := hcareful past hearned
    rw [← hstatus] at hwrote
    exact ⟨hwrote.joined, fun h => hwrote.completed (by simpa using h)⟩

/-- `ready` is set only in a pass in which the bootstrap machine was seen to be gone, after its
deletion was asked for in the pass. -/
theorem Turn.exists_removed {t : Turn} {ns : String} {w : Write}
    (hns : t.resource.metadata.ns = some ns) (hw : w ∈ Effects.writes t.log)
    (hready : w.status.ready = true) (hopen : (t.resource.status.getD .blank).ready = false) :
    ∃ before ns' cluster reply after, Effects.calls t.log =
        before ++ ⟨.bootstrapMachineDeleted ns' cluster, reply⟩ :: after ∧
      Signal.bootstrapMachineDeleted.toldBy (.bootstrapMachineDeleted ns' cluster) reply.outcome =
        true ∧
      ∃ asked, ⟨.deleteBootstrapMachine ns' cluster, asked⟩ ∈ before := by
  obtain ⟨-, -, -, -, walked, hwalk, hstatus⟩ := Controller.of_mem_writes hns t.runs hw
  have hlatch := (Pass.follows_outcome hwalk).ready
  have hstanding : (Controller.standingAt t.resource t.start).status.ready = false := hopen
  rw [← hstatus, hready, hstanding, Bool.false_or] at hlatch
  obtain ⟨⟨c, reply⟩, hmem, htold⟩ := List.any_eq_true.mp hlatch.symm
  obtain ⟨ns', cluster, rfl⟩ := Signal.call_of_toldBy htold
  obtain ⟨before, after, hsplit⟩ := List.append_of_mem hmem
  have hrequested := Pass.requested_walk _ walked.1 walked.2 hwalk
  exact ⟨before, ns', cluster, reply, after, hsplit, htold,
    hrequested before ns' cluster reply after hsplit⟩

namespace History

variable {ns name : String} {start last : Option Status} {turns : List Turn}

/-- Along a run from no status, all that is stored has been earned in the run. -/
theorem careful (h : History ns name none turns last) :
    (last.getD .blank).Earned ns name (Turn.callsOf turns) ∧
      Guarded ns name [] (Turn.callsOf turns) := by
  induction h with
  | start => exact ⟨Status.earned_blank, trivial⟩
  | @turn turns stored after t earlier hns hname hstored hafter ih =>
    obtain ⟨hearned, hguarded⟩ := ih
    rw [← hstored] at hearned
    obtain ⟨hafter, hturn⟩ := Turn.careful_of_leaves hns hname hearned hafter
    have hcalls : Turn.callsOf (turns ++ [t]) = Turn.callsOf turns ++ Effects.calls t.log := by
      simp [Turn.callsOf]
    rw [hcalls]
    exact ⟨hafter, Guarded.append_iff.mpr ⟨hguarded, hturn⟩⟩

/-- **The bootstrap machine is torn down only when it is safe.**  In every run of
reconciliations from no status, with any changes of the spec between them, any answers of
the collaborators and any failures to write, each call that deletes a bootstrap machine is
for the machine of the resource, and before it a control-plane machine was seen to have
joined and later than that for the first time the bootstrap was seen to be complete.  And a
pass sets `ready` only if in it, after all this and after it has asked for the deletion, the
bootstrap machine was seen to be gone. -/
theorem torn_down_safely (h : History ns name none turns last) :
    (∀ past ns' cluster reply future,
      Turn.callsOf turns = past ++ ⟨.deleteBootstrapMachine ns' cluster, reply⟩ :: future →
      ns' = ns ∧ cluster = name ∧ Safe ns name past) ∧
    ∀ earlier t later w, turns = earlier ++ t :: later → w ∈ Effects.writes t.log →
      w.status.ready = true → (t.resource.status.getD .blank).ready = false →
      ∃ before e after, Effects.calls t.log = before ++ e :: after ∧
        Signal.bootstrapMachineDeleted.tells ns name e = true ∧
        Safe ns name (Turn.callsOf earlier ++ before) ∧
        ∃ asked, ⟨.deleteBootstrapMachine ns name, asked⟩ ∈ before := by
  obtain ⟨-, hguarded⟩ := h.careful
  constructor
  · intro past ns' cluster reply future hsplit
    rw [hsplit] at hguarded
    obtain ⟨htarget, hsafe⟩ := hguarded.safe rfl
    cases htarget
    exact ⟨rfl, rfl, hsafe⟩
  · rintro earlier t later w rfl hw hready hopen
    obtain ⟨hns, -⟩ := h.exists_earlier t (by simp)
    obtain ⟨before, ns', cluster, reply, after, hsplit, htold, hasked⟩ :=
      Turn.exists_removed hns hw hready hopen
    have hcalls : Turn.callsOf (earlier ++ t :: later) = (Turn.callsOf earlier ++ before) ++
        ⟨.bootstrapMachineDeleted ns' cluster, reply⟩ :: (after ++ Turn.callsOf later) := by
      simp [Turn.callsOf, hsplit]
    rw [hcalls] at hguarded
    obtain ⟨hown, hsafe⟩ := hguarded.safe rfl
    cases hown
    exact ⟨before, _, after, hsplit, by simp [Signal.tells, Signal.call, htold], hsafe, hasked⟩

/-- In the first turn a machine has joined, the bootstrap is complete, and its machine goes. -/
theorem torn_down_safely_demo :
    ∃ s, History "clusters" "demo" none [demoTurn none Demo.completeWorld] (some s) ∧
      s.ready = true ∧
      (∃ past, Safe "clusters" "demo" past ∧ ∃ reply future,
        Turn.callsOf [demoTurn none Demo.completeWorld] =
          past ++ ⟨.deleteBootstrapMachine "clusters" "demo", reply⟩ :: future) ∧
      ∃ before e after,
        Effects.calls (demoTurn none Demo.completeWorld).log = before ++ e :: after ∧
          Signal.bootstrapMachineDeleted.tells "clusters" "demo" e = true ∧
          Safe "clusters" "demo" before ∧
          ∃ asked, ⟨.deleteBootstrapMachine "clusters" "demo", asked⟩ ∈ before := by
  have hready : (Demo.written none Demo.completeWorld).map (·.ready) = some true := by
    decide +kernel
  have hdeletes : (Turn.callsOf [demoTurn none Demo.completeWorld]).any (fun e =>
      decide (e.1 = .deleteBootstrapMachine "clusters" "demo")) = true := by decide +kernel
  obtain ⟨s, hs, hset⟩ := Option.map_eq_some_iff.mp hready
  obtain ⟨w, hmem, rfl⟩ := Demo.exists_write hs
  have hrun : History "clusters" "demo" none [demoTurn none Demo.completeWorld]
      (some (w.status.withTimes id)) := .turn .start rfl rfl rfl (demoTurn_leaves hs)
  obtain ⟨hdeletion, hremoval⟩ := torn_down_safely hrun
  obtain ⟨⟨c, reply⟩, hcall, hc⟩ := List.any_eq_true.mp hdeletes
  have hc : c = .deleteBootstrapMachine "clusters" "demo" := by simpa using hc
  subst hc
  obtain ⟨past, future, hsplit⟩ := List.append_of_mem hcall
  obtain ⟨-, -, hsafe⟩ := hdeletion past _ _ reply future hsplit
  exact ⟨_, hrun, hset, ⟨past, hsafe, reply, future, hsplit⟩,
    hremoval [] _ [] w rfl hmem hset rfl⟩

end History

end ControlPlane
