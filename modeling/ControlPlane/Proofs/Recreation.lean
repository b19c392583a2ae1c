/-
Whether a bootstrap machine that was deleted comes back.

A turn deletes the bootstrap machine only after a machine has joined, so by its end the
status is initialized, and no turn asks for machines over a status that is.  But the status
is written at the end of the turn alone.  If that write is lost, the next turn starts from a
status that knows of nothing, asks for all machines once more, and the bootstrap machine,
which is not found any more, is made again.

So the machine stays deleted exactly if what is stored after the turn is initialized.  What
the requests of the later turns are does not matter for one direction; for the other one the
same turn is taken again, with the one reply that the machine is not there.
-/
import ControlPlane.Proofs.OwnWrites
import ControlPlane.Proofs.Progress
import ControlPlane.Proofs.Sends

namespace ControlPlane

open Program (Runs)
open Kubernetes

/-! ### Before and after the join -/

/-- Nothing is prepared once a machine has joined, and nothing is deleted before. -/
structure Status.Staged (before : Status) (log : Calls) (after : Status) : Prop where
  initialized : before.initialized = true → after.initialized = true
  preparation : before.initialized = true → ∀ e ∈ log, e.1.isPreparation = false
  deletion : ∀ e ∈ log, ∀ ns cluster, e.1 = .deleteBootstrapMachine ns cluster →
    after.initialized = true

namespace Status.Staged

variable {a b c : Status} {l m : Calls}

theorem trans (hab : a.Staged l b) (hbc : b.Staged m c) : a.Staged (l ++ m) c where
  initialized h := hbc.initialized (hab.initialized h)
  preparation h :=
    List.forall_mem_append.mpr ⟨hab.preparation h, hbc.preparation (hab.initialized h)⟩
  deletion := by
    refine List.forall_mem_append.mpr ⟨fun e he ns cluster hdelete => ?_, hbc.deletion⟩
    exact hbc.initialized (hab.deletion e he ns cluster hdelete)

/-- A call that neither prepares nor deletes. -/
theorem single {e : Program.Exchange Call Call.Reply} (hpreparation : e.1.isPreparation = false)
    (hinit : a.initialized = true → b.initialized = true)
    (hdeletion : ∀ ns cluster, e.1 = .deleteBootstrapMachine ns cluster → b.initialized = true) :
    a.Staged [e] b :=
  ⟨hinit, fun _ => by simpa using hpreparation, by simpa using hdeletion⟩

theorem of_move {p : Pass} (h : p.Move a l b) : a.Staged l b := by
  have hcall : ∀ {signal : Signal},
      (signal.call p.ns p.cluster).isPreparation = false ∧
        ∀ ns cluster, signal.call p.ns p.cluster ≠ .deleteBootstrapMachine ns cluster := by
    intro signal
    cases signal <;> exact ⟨rfl, nofun⟩
  cases h with
  | prepared hinit h =>
    refine ⟨fun hset => ?_, fun hset => ?_, fun e he ns cluster hdelete => ?_⟩
    · rw [hinit] at hset
      cases hset
    · rw [hinit] at hset
      cases hset
    · have hpreparation := List.all_eq_true.mp h.calls e he
      rw [hdelete] at hpreparation
      cases hpreparation
  | refused _ => exact ⟨by simp, by simp, by simp⟩
  | seen signal reply _ hlatch _ =>
    refine single hcall.1 (fun hset => ?_) fun ns cluster hdelete => absurd hdelete (hcall.2 ns cluster)
    rw [Pass.signalled_initialized]
    exact initialized_of_latch hlatch hset
  | unseen signal _ _ =>
    exact single hcall.1 id fun ns cluster hdelete => absurd hdelete (hcall.2 ns cluster)
  | failed signal _ _ =>
    exact single hcall.1 (by simp) fun ns cluster hdelete => absurd hdelete (hcall.2 ns cluster)
  | asked hawaits => exact single rfl id fun _ _ _ => hawaits.1
  | refusedDeletion hawaits =>
    exact single rfl (by simp) fun _ _ _ => by simpa using hawaits.1
  | concluded => exact ⟨id, by simp, by simp⟩

end Status.Staged

namespace Pass

open Walk Status

variable {p : Pass} {s : Standing}

/-- The machines of the cluster were asked for, and the call was answered. -/
def Made (p : Pass) (log : Calls) : Prop :=
  ∃ request now, request.ns = p.ns ∧ request.cluster = p.cluster ∧
    ⟨.ensureMachines request, ⟨.answered (), now⟩⟩ ∈ log

/-- A preparation that stops leaves a status that is not initialized. -/
theorem ends_preparation {α : Type} {w : Walk α} (hw : p.Carries Prepares w s)
    (hinit : s.status.initialized = false) :
    w.Ends s fun _ r s' => (p.left r s').initialized = false :=
  hw.imp fun _ _ _ h => h.initialized.trans hinit

/-- Nothing has joined before the machines are there. -/
theorem made_of_provision (hinit : s.status.initialized = false) :
    p.provision.Ends s fun log r s' => (p.left r s').initialized = true → p.Made log := by
  have hstopped : ∀ {status : Status} {log : Calls}, status.initialized = false →
      status.initialized = true → p.Made log := by
    intro status log hfalse htrue
    rw [hfalse] at htrue
    cases htrue
  refine ends_bind.mpr ((ends_preparation prepares_resolveInstallState hinit).imp
    fun l₁ r₁ s₁ h₁ => ?_)
  cases r₁ with
  | error why => exact hstopped h₁
  | ok install =>
  refine ends_bind.mpr ((ends_preparation prepares_resolveManifests h₁).imp fun l₂ r₂ s₂ h₂ => ?_)
  cases r₂ with
  | error why => exact hstopped h₂
  | ok manifests =>
  refine ends_bind.mpr ((ends_preparation prepares_generateBootConfig h₂).imp
    fun l₃ r₃ s₃ h₃ => ?_)
  cases r₃ with
  | error why => exact hstopped h₃
  | ok bootSecret =>
  refine ends_bind.mpr (ends_ensureMachines ?made ?failed)
  case made =>
    intro now log r s' _ _
    exact ⟨p.request bootSecret s₃.status, now, rfl, rfl, by simp⟩
  case failed =>
    intro reply e _
    refine hstopped ?_
    rw [left_error, reportError_initialized]
    exact h₃

theorem made_of_walk (hinit : s.status.initialized = false) :
    p.walk.Ends s fun log r s' => (p.left r s').initialized = true → p.Made log := by
  refine ends_walk ?refused ?ready ?initialized ?waiting
  case refused =>
    intro why _ hset
    rw [left_error, reportError_initialized, hinit] at hset
    cases hset
  case ready =>
    intro _
    refine ends_conclude.mpr fun hset => ?_
    have hset : s.status.initialized = true := hset
    rw [hinit] at hset
    cases hset
  case initialized =>
    intro _ hset
    rw [hinit] at hset
    cases hset
  case waiting =>
    intro _ _ _
    exact made_of_provision hinit

end Pass

/-! ### The bootstrap machine in the requests -/

namespace Kubernetes

/-- The path of a cluster's bootstrap machine. -/
def bootstrapPath (ns cluster : String) : String :=
  ObjectType.machines.objectPath ns (Cluster.bootstrapMachine cluster)

/-- The deletion of the bootstrap machine is among the requests. -/
def Deletes (ns cluster : String) (sent : Requests) : Prop :=
  ∃ e ∈ sent, e.1.method = .delete ∧ e.1.path = bootstrapPath ns cluster

/-- The bootstrap machine is made by one of the requests. -/
def Makes (ns cluster : String) (sent : Requests) : Prop :=
  ∃ e ∈ sent, e.1.method = .patch ∧ e.1.path = bootstrapPath ns cluster

/-- The parameters with which an object is made. -/
def applyQuery : List (String × String) :=
  [("force", "true"), ("fieldManager", Client.fieldManager)]

/-- The request that makes the bootstrap machine can be written down. -/
def Makable (ns cluster : String) : Prop :=
  ∃ target, Target.ofUrl? (urlOf (bootstrapPath ns cluster) (some applyQuery)) = some target

variable {ns cluster : String} {log : Effects} {sent : Requests}

theorem length_applyQuery : (formOf (some applyQuery)).length ≤ 100 := by decide

/-- Names far longer than the API takes are short enough. -/
theorem makable_of_isName (hns : IsName ns) (hcluster : IsName cluster)
    (hlen : ns.length + cluster.length ≤ 15000) : Makable ns cluster := by
  have hquery := length_applyQuery
  have hname : (Cluster.bootstrapMachine cluster).length = cluster.length + 10 := by
    rw [Cluster.bootstrapMachine, String.length_append]
    rfl
  exact ⟨_, ObjectType.fits_machines.target_objectPath hns hcluster.bootstrapMachine (by omega)⟩

theorem stays_bootstrapPath (hns : IsName ns) (hcluster : IsName cluster) :
    staysInPath (bootstrapPath ns cluster).toList :=
  ObjectType.fits_machines.stays_objectPath hns hcluster.bootstrapMachine

/-- A request goes where its path starts. -/
theorem prefix_target {start : List Char} {path : String} {query : Option (List (String × String))}
    {target : Target} (hstart : staysInPath start) (hpath : start <+: path.toList)
    (h : Target.ofUrl? (urlOf path query) = some target) : start <+: target.path.toList := by
  obtain ⟨rest, hrest⟩ := hpath
  unfold urlOf at h
  rw [← hrest] at h
  cases query with
  | none => exact Target.prefix_of_ofUrl? hstart h
  | some q =>
    dsimp only at h
    rw [List.append_assoc] at h
    exact Target.prefix_of_ofUrl? hstart h

/-- Statuses are written, and elsewhere. -/
theorem asks_writeStatus {ns' name : String} {status : Status} :
    (writeStatus ns' name status).Asks fun r =>
      r.method = .patch ∧ r.path ≠ bootstrapPath ns cluster := by
  have helsewhere : "/apis/cluster.o".toList <+:
      (ObjectType.controlPlanes.objectPath ns' name ++ "/status").toList := by
    simp only [ObjectType.objectPath, ObjectType.path, ObjectType.controlPlanes,
      String.toList_append, List.append_assoc]
    exact List.IsPrefix.trans (by decide) (List.prefix_append _ _)
  have hmachines : "/apis/cluster.x".toList <+: (bootstrapPath ns cluster).toList := by
    simp only [bootstrapPath, ObjectType.objectPath, ObjectType.path, ObjectType.machines,
      String.toList_append, List.append_assoc]
    exact List.IsPrefix.trans (by decide) (List.prefix_append _ _)
  refine Program.asks_bind (asks_named (asks_client_bind (asks_send fun target htarget => ⟨rfl, ?_⟩)
    fun _ => .done _)) fun _ => .done _
  intro hpath
  have hstart := prefix_target (staysInPath_of_all (by decide)) helsewhere htarget
  have hpath : target.path = bootstrapPath ns cluster := hpath
  rw [hpath] at hstart
  have hboth := List.prefix_of_prefix_length_le hstart hmachines (by decide)
  revert hboth
  decide

/-- A turn that prepares nothing makes no bootstrap machine. -/
theorem not_makes (h : Sends log sent)
    (hcalls : ∀ e ∈ Effects.calls log, e.1.isPreparation = false) : ¬ Makes ns cluster sent := by
  rintro ⟨e, he, hmethod, hpath⟩
  have hnot : ¬ (e.1.method = .patch ∧ e.1.path = bootstrapPath ns cluster) := by
    refine h.forall (P := fun r => ¬ (r.method = .patch ∧ r.path = bootstrapPath ns cluster))
      (fun x hx => ?_) (fun _ _ _ => ?_) e he
    · refine asks_perform_sends.imp fun r hr hpatch => ?_
      rw [hpatch.1] at hr
      have hquiet := hcalls x hx
      revert hr hquiet
      cases x.1 <;> simp [sends, Call.isPreparation]
    · exact asks_writeStatus.imp fun r hr hpatch => hr.2 hpatch.2
  exact hnot ⟨hmethod, hpath⟩

/-- A deletion comes from the call for it. -/
theorem exists_deletion (h : Sends log sent) (hdeletes : Deletes ns cluster sent) :
    ∃ e ∈ Effects.calls log, ∃ ns' cluster', e.1 = .deleteBootstrapMachine ns' cluster' := by
  refine Classical.byContradiction fun hnone => ?_
  obtain ⟨e, he, hmethod, -⟩ := hdeletes
  have hnot : e.1.method ≠ .delete := by
    refine h.forall (P := fun r => r.method ≠ .delete) (fun x hx => ?_)
      (fun ns' name status => ?_) e he
    · refine asks_perform_sends.imp fun r hr hdelete => ?_
      rw [hdelete] at hr
      cases hcall : x.1 with
      | deleteBootstrapMachine ns' cluster' => exact hnone ⟨x, hx, ns', cluster', hcall⟩
      | _ =>
        rw [hcall] at hr
        cases hr
    · have hasks : (writeStatus ns' name status).Asks fun r =>
          r.method = .patch ∧ r.path ≠ bootstrapPath ns cluster := asks_writeStatus
      refine hasks.imp fun r hr hdelete => ?_
      rw [hr.1] at hdelete
      cases hdelete
  exact hnot hmethod

/-! ### The machine that is not there -/

open Json

/-- A machine that is looked up and not there is made. -/
theorem runs_ensureMachine {r : MachineSetRequest} (machine : MachineRole × String)
    {looked target : Target} (hname : machine.2 ≠ "")
    (hlooked : Target.ofUrl? (urlOf (ObjectType.machines.objectPath r.ns machine.2) none) = some looked)
    (htarget : Target.ofUrl? (urlOf (ObjectType.machines.objectPath r.ns machine.2)
      (some applyQuery)) = some target) :
    ∃ body, Runs (ensureMachine r machine).run
      ([⟨⟨.get, looked.path, looked.query, none, none⟩, absent⟩] ++
        [⟨⟨.patch, target.path, target.query, some "application/apply-patch+yaml", body⟩,
          Scripted.ok (.obj [])⟩]) (.ok ()) := by
  obtain ⟨fault, hread, hmissing⟩ := read_absent decodeObject
  obtain ⟨object, hobject⟩ := read_object
  refine ⟨some (machineObject r machine.1 machine.2), ?_⟩
  exact runs_client_bind (runs_get?_missing hname hlooked hread hmissing)
    (runs_apply hname rfl htarget hobject)

/-- A call for the machines that was answered may be answered the same without the bootstrap
machine, and then makes it. -/
theorem Sent.remade {r : MachineSetRequest} (hstays : staysInPath (bootstrapPath r.ns r.cluster).toList)
    (hmakable : Makable r.ns r.cluster) (h : Sent (.ensureMachines r) (.answered ()) sent) :
    ∃ sent', Sent (.ensureMachines r) (.answered ()) sent' ∧ Makes r.ns r.cluster sent' := by
  obtain ⟨target, htarget⟩ := hmakable
  cases h with
  | answered hruns =>
    obtain ⟨_, first, rest, rfl, hfirst, hrest⟩ := runs_of_client_bind (runs_of_asCollaborator hruns)
    obtain ⟨found, looked, _, rfl, hget, -⟩ := runs_of_client_bind hfirst
    obtain ⟨hname, sought, hsought⟩ := exists_target_of_get? hget
    obtain ⟨body, hmade⟩ := runs_ensureMachine (r := r)
      (.bootstrap, Cluster.bootstrapMachine r.cluster) hname hsought htarget
    refine ⟨_, .answered (runs_asCollaborator (runs_client_bind hmade hrest)), ?_⟩
    refine ⟨_, List.mem_append_left _ (List.mem_append_right _ (List.mem_singleton_self _)), rfl, ?_⟩
    exact Target.path_eq hstays htarget

/-- So may all requests of a turn that has made such a call. -/
theorem Sends.remade {r : MachineSetRequest} {now : Time}
    (hstays : staysInPath (bootstrapPath r.ns r.cluster).toList) (hmakable : Makable r.ns r.cluster)
    (h : Sends log sent)
    (hmade : ⟨.ensureMachines r, ⟨.answered (), now⟩⟩ ∈ Effects.calls log) :
    ∃ sent', Sends log sent' ∧ Makes r.ns r.cluster sent' := by
  induction h with
  | nil => cases hmade
  | @call c budget reply log sent more hsent rest ih =>
    rcases List.mem_cons.mp hmade with heq | hlater
    · cases heq
      obtain ⟨sent', hsent', e, he, hmakes⟩ := Sent.remade hstays hmakable hsent
      exact ⟨_, .call hsent' rest, e, List.mem_append_left _ he, hmakes⟩
    · obtain ⟨more', hmore, e, he, hmakes⟩ := ih hlater
      exact ⟨_, .call hsent hmore, e, List.mem_append_right _ he, hmakes⟩
  | write hwritten rest ih =>
    obtain ⟨more', hmore, e, he, hmakes⟩ := ih hmade
    exact ⟨_, .write hwritten hmore, e, List.mem_append_right _ he, hmakes⟩

end Kubernetes

/-! ### One turn and those after it -/

namespace Turn

variable {t : Turn} {ns : String} {after : Option Status} {sent : Requests}

/-- What is written by a turn that deletes is initialized. -/
theorem initialized_of_write (hns : t.resource.metadata.ns = some ns) (hsends : Sends t.log sent)
    {cluster : String} (hdeletes : Deletes ns cluster sent) {w : Write}
    (hw : w ∈ Effects.writes t.log) : w.status.initialized = true := by
  obtain ⟨-, -, -, -, walked, hwalk, hstatus⟩ := Controller.of_mem_writes hns t.runs hw
  have hstaged := Pass.carries_outcome Status.Staged.trans Status.Staged.of_move hwalk
  obtain ⟨e, he, ns', cluster', hcall⟩ := exists_deletion hsends hdeletes
  rw [hstatus]
  exact hstaged.deletion e he ns' cluster' hcall

/-- Over an initialized status no turn makes the bootstrap machine, and neither does any turn
after it. -/
theorem not_makes_later {name : String} {turns : List Turn} {last : Option Status}
    (h : History ns name after turns last) (hinit : (after.getD .blank).initialized = true)
    {later : Turn} (hlater : later ∈ turns) (hsends : Sends later.log sent) {cluster : String} :
    ¬ Makes ns cluster sent := by
  obtain ⟨hns, earlier, hearlier⟩ := h.exists_earlier later hlater
  refine not_makes hsends ?_
  obtain ⟨hlog, -⟩ | ⟨walked, hwalk⟩ := Controller.walk_cases hns later.runs
  · rw [hlog]
    exact nofun
  · have hstaged := Pass.carries_outcome Status.Staged.trans Status.Staged.of_move hwalk
    exact hstaged.preparation (hearlier.advances.initialized hinit)

/-- A turn that has deleted the bootstrap machine over a status that is not initialized may be
taken again, and makes the machine. -/
theorem makes_again (hnamed : t.Named ns) (hmakable : Makable ns t.resource.name)
    (hsends : Sends t.log sent) (hdeletes : Deletes ns t.resource.name sent)
    (hinit : (t.resource.status.getD .blank).initialized = false) :
    ∃ sent', Sends t.log sent' ∧ Makes ns t.resource.name sent' := by
  obtain ⟨e, he, ns', cluster', hcall⟩ := exists_deletion hsends hdeletes
  obtain ⟨walked, hwalk⟩ :=
    Controller.exists_walk_of_calls hnamed.ns_eq t.runs (List.ne_nil_of_mem he)
  have hstaged := Pass.carries_outcome Status.Staged.trans Status.Staged.of_move hwalk
  have hset := hstaged.deletion e he ns' cluster' hcall
  rw [Pass.status_outcome] at hset
  obtain ⟨request, now, hns, hcluster, hmade⟩ :=
    Pass.made_of_walk hinit _ walked.1 walked.2 hwalk hset
  have hpath : bootstrapPath request.ns request.cluster = bootstrapPath ns t.resource.name := by
    rw [hns, hcluster]
    rfl
  have hstays : staysInPath (bootstrapPath request.ns request.cluster).toList := by
    rw [hpath]
    exact stays_bootstrapPath hnamed.ns_isName hnamed.isName
  have hmakable : Makable request.ns request.cluster := by
    rw [Makable, hpath]
    exact hmakable
  obtain ⟨sent', hsent', e', he', hmethod, hmakes⟩ := hsends.remade hstays hmakable hmade
  exact ⟨sent', hsent', e', he', hmethod, hmakes.trans hpath⟩

/-- **When a deleted bootstrap machine stays deleted.**  In a turn the bootstrap machine is
deleted.  No turn after it makes the machine again, whatever the answers, the changes of the
spec and the writes that fail, if and only if the status stored after the turn is
initialized.  It is not only if the turn was handed a status that was not, and its own write
was lost. -/
theorem stays_deleted_iff (hnamed : t.Named ns) (hmakable : Makable ns t.resource.name)
    (hsends : Sends t.log sent) (hdeletes : Deletes ns t.resource.name sent)
    (hafter : t.Leaves after) :
    ((∀ turns last, History ns t.resource.name after turns last → ∀ later ∈ turns, ∀ sent',
        Sends later.log sent' → ¬ Makes ns t.resource.name sent') ↔
      (after.getD .blank).initialized = true) ∧
    ((after.getD .blank).initialized = false →
      (t.resource.status.getD .blank).initialized = false ∧ after = t.resource.status ∧
        ∀ w ∈ Effects.writes t.log, w.reply.result ≠ .ok ()) := by
  have hlost : (after.getD .blank).initialized = false →
      after = t.resource.status ∧ ∀ w ∈ Effects.writes t.log, w.reply.result ≠ .ok () := by
    intro hfalse
    cases hafter with
    | kept hwrites => exact ⟨rfl, hwrites⟩
    | @stored w hw f =>
      have hset : w.status.initialized = false := hfalse
      rw [initialized_of_write hnamed.ns_eq hsends hdeletes hw] at hset
      cases hset
  refine ⟨⟨fun hnever => ?_, fun hinit turns last h later hlater sent' hsends' =>
    not_makes_later h hinit hlater hsends'⟩, fun hfalse => ?_⟩
  · cases hinit : (after.getD .blank).initialized with
    | true => rfl
    | false =>
      obtain ⟨hsame, -⟩ := hlost hinit
      rw [hsame] at hinit
      obtain ⟨sent', hsends', hmakes⟩ := makes_again hnamed hmakable hsends hdeletes hinit
      have hagain : History ns t.resource.name after [t] after :=
        .turn .start hnamed.ns_eq rfl hsame.symm hafter
      exact absurd hmakes (hnever [t] after hagain t (List.mem_singleton_self t) sent' hsends')
  · obtain ⟨hsame, hwrites⟩ := hlost hfalse
    exact ⟨hsame ▸ hfalse, hsame, hwrites⟩

end Turn

/-! ### A write that is lost

A new cluster comes up within one turn: a machine joins, the bootstrap is complete, and its
machine is deleted and gone.  Then the write of the status is refused. -/

namespace Kubernetes

/-- Machines that are all missing are all made. -/
theorem exists_runs_ensureEach {r : MachineSetRequest} {machines : List (MachineRole × String)}
    (hns : IsName r.ns) (h : ∀ machine ∈ machines, IsName machine.2 ∧
      r.ns.length + machine.2.length ≤ 15000) :
    ∃ sent, Runs (ensureEach r machines).run sent (.ok ()) := by
  induction machines with
  | nil => exact ⟨[], .done _⟩
  | cons machine rest ih =>
    obtain ⟨⟨hname, hlen⟩, hothers⟩ := List.forall_mem_cons.mp h
    have hnone : (formOf none).length = 0 := rfl
    have hquery := length_applyQuery
    have hlooked : Target.ofUrl? (urlOf (ObjectType.machines.objectPath r.ns machine.2) none) = some _ :=
      ObjectType.fits_machines.target_objectPath hns hname (by omega)
    have htarget : Target.ofUrl? (urlOf (ObjectType.machines.objectPath r.ns machine.2)
        (some applyQuery)) = some _ :=
      ObjectType.fits_machines.target_objectPath hns hname (by omega)
    obtain ⟨body, hmade⟩ := runs_ensureMachine (r := r) machine hname.1 hlooked htarget
    obtain ⟨more, hmore⟩ := ih hothers
    exact ⟨_, runs_client_bind hmade hmore⟩

/-- All machines of a cluster may be missing, and are all made then. -/
theorem exists_sent_ensureMachines {r : MachineSetRequest} (hns : IsName r.ns)
    (hcluster : IsName r.cluster) (hlen : r.ns.length + r.cluster.length + r.replicas ≤ 14000) :
    ∃ sent, Sent (.ensureMachines r) (.answered ()) sent := by
  obtain ⟨sent, hruns⟩ := exists_runs_ensureEach hns fun machine hmachine => by
    obtain ⟨hname, hshort⟩ := isName_of_mem_machines hcluster machine hmachine
    exact ⟨hname, by omega⟩
  exact ⟨sent, .answered (runs_asCollaborator hruns)⟩

/-- Whatever a call asks for may go unanswered. -/
theorem exists_sent_timedOut (c : Call) : ∃ sent, Sent c .timedOut sent := by
  have hruns := Program.runs_trace (fun _ s => (absent, s)) (perform c) ()
  exact ⟨[], .timedOut hruns⟩

end Kubernetes

namespace Demo

open Json

/-- The machines of the cluster. -/
def machines : MachineSetRequest :=
  { ns := "clusters", cluster := "demo", template, replicas := 3, bootSecret := inputsName }

/-- The cluster that calls are answered for. -/
def isDemo (ns cluster : String) : Bool := ns = "clusters" && cluster = "demo"

/-- An answer to some calls; the others are not answered. -/
def answeredIf {α : Type} (c : Bool) (a : α) : Outcome α := if c then .answered a else .timedOut

/-- The calls of a cluster that comes up at once. -/
def outcome : (c : Call) → Outcome c.Answer
  | .getSecret ns name => answeredIf (ns = "clusters" && name = "demo-install") (some installStored.data)
  | .generateBootConfig i => answeredIf (i = inputs) inputsName
  | .ensureMachines r => answeredIf (r = machines) ()
  | .controlPlaneJoined ns cluster => answeredIf (isDemo ns cluster) true
  | .bootstrapComplete ns cluster => answeredIf (isDemo ns cluster) true
  | .deleteBootstrapMachine ns cluster => answeredIf (isDemo ns cluster) ()
  | .bootstrapMachineDeleted ns cluster => answeredIf (isDemo ns cluster) true
  | .listSecrets .. => .timedOut

/-- Every write is refused. -/
def answerLosing : (e : Effect) → Unit → e.Reply × Unit
  | .call c _, s => (⟨outcome c, ⟨0, 0⟩⟩, s)
  | .writeStatus ns name status, s =>
    (⟨((writeStatus ns name status).run (fun _ s => (refused, s)) s).1, ⟨0, 0⟩⟩, s)

/-- A turn that loses its write. -/
def losingTurn (status : Option Status) : Turn where
  controller := .start .standard
  resource := resource status
  start := ⟨0, 0⟩
  log := (reconcile status).trace answerLosing ()
  result := ((reconcile status).run answerLosing ()).1
  runs := Program.runs_trace _ _ _

/-! The requests behind each answer -/

theorem exists_sent_machines : ∃ sent, Sent (.ensureMachines machines) (.answered ()) sent :=
  exists_sent_ensureMachines isName_clusters isName_demo (by decide)

/-- A reply with one machine, which has joined. -/
def joined : Reply :=
  Scripted.ok (objectOf [field "items"
    (.arr [objectOf [field "status" (objectOf [field "nodeRef" (objectOf [])])]])])

theorem exists_sent_joined :
    ∃ sent, Sent (.controlPlaneJoined "clusters" "demo") (.answered true) sent := by
  have hread : (joined.read (decodeItems decodeObject)).toOption.map (·.any hasNode) =
      some true := by
    unfold joined
    rw [read_ok]
    decide +kernel
  have hlen : "clusters".length +
      (formOf (some [("labelSelector", roleQuery "demo" .master)])).length ≤ 16000 := by
    decide +kernel
  obtain ⟨found, hfound, hany⟩ := exists_of_toOption hread
  have htarget := ObjectType.fits_machines.target_path isName_clusters hlen
  have hjoined : Runs (controlPlaneJoined "clusters" "demo").run _ (.ok (found.any hasNode)) :=
    runs_client_bind (runs_send htarget hfound) (.done _)
  rw [hany] at hjoined
  exact ⟨_, .answered (runs_asCollaborator hjoined)⟩

theorem exists_sent_complete :
    ∃ sent, Sent (.bootstrapComplete "clusters" "demo") (.answered true) sent := by
  have hread : ((Scripted.ok (objectOf [field "data" (objectOf
      [field progressKey (.str progressDone)])])).read decodeConfigMap).toOption.map
        (fun map => decide (map.2.get? progressKey = some progressDone)) = some true := by
    rw [read_ok]
    decide +kernel
  obtain ⟨map, hmap, hdone⟩ := exists_of_toOption hread
  have hname : IsName (Cluster.progressConfigMap "demo") := isName_demo.bootstrapMachine
  have hget := runs_get?_found hname.1
    (ObjectType.fits_configMaps.target_objectPath isName_clusters hname (by decide)) hmap
  have hcomplete : Runs (bootstrapComplete "clusters" "demo").run _ (.ok ((some map).any
      fun map => decide (map.2.get? progressKey = some progressDone))) :=
    runs_client_bind hget (.done _)
  rw [Option.any_some, hdone] at hcomplete
  exact ⟨_, .answered (runs_asCollaborator hcomplete)⟩

theorem exists_sent_deletion :
    ∃ sent, Sent (.deleteBootstrapMachine "clusters" "demo") (.answered ()) sent ∧
      Deletes "clusters" "demo" sent := by
  have hread : (Scripted.deleted.read decodeDeletion).toOption.map (fun _ => ()) = some () := by
    unfold Scripted.deleted
    rw [read_ok]
    decide +kernel
  have hname : IsName (Cluster.bootstrapMachine "demo") := isName_demo.bootstrapMachine
  obtain ⟨_, hdeleted, -⟩ := exists_of_toOption hread
  obtain ⟨object, hobject⟩ := read_object
  have hlooked : Target.ofUrl? (urlOf (bootstrapPath "clusters" "demo") none) = some _ :=
    ObjectType.fits_machines.target_objectPath isName_clusters hname (by decide)
  have htarget : Target.ofUrl? (urlOf (bootstrapPath "clusters" "demo") (some [])) = some _ :=
    ObjectType.fits_machines.target_objectPath isName_clusters hname (by decide)
  obtain ⟨body, hdelete⟩ := runs_delete hname.1 htarget hdeleted
  have hboth : Runs (deleteBootstrapMachine "clusters" "demo").run _ _ :=
    runs_client_bind (runs_get?_found hname.1 hlooked hobject) hdelete
  exact ⟨_, .answered (runs_asCollaborator hboth), _,
    List.mem_append_right _ (List.mem_singleton_self _), rfl, rfl⟩

theorem exists_sent_deleted :
    ∃ sent, Sent (.bootstrapMachineDeleted "clusters" "demo") (.answered true) sent := by
  obtain ⟨fault, hread, hmissing⟩ := read_absent decodeObject
  have hname : IsName (Cluster.bootstrapMachine "demo") := isName_demo.bootstrapMachine
  have hget := runs_get?_missing hname.1
    (ObjectType.fits_machines.target_objectPath isName_clusters hname (by decide)) hread hmissing
  have hgone : Runs (bootstrapMachineDeleted "clusters" "demo").run _ (.ok true) :=
    runs_client_bind hget (.done _)
  exact ⟨_, .answered (runs_asCollaborator hgone)⟩

theorem exists_sent_answeredIf {c : Call} {a : c.Answer} {condition : Bool}
    (h : condition = true → ∃ sent, Sent c (.answered a) sent) :
    ∃ sent, Sent c (answeredIf condition a) sent := by
  unfold answeredIf
  split
  · rename_i hcondition
    exact h hcondition
  · exact exists_sent_timedOut c

theorem eq_of_isDemo {ns cluster : String} (h : isDemo ns cluster = true) :
    ns = "clusters" ∧ cluster = "demo" := by
  simpa [isDemo] using h

/-- Every answer is carried out by requests. -/
theorem exists_sent (c : Call) : ∃ sent, Sent c (outcome c) sent := by
  cases c with
  | getSecret ns name =>
    refine exists_sent_answeredIf fun h => ?_
    obtain ⟨rfl, rfl⟩ : ns = "clusters" ∧ name = "demo-install" := by simpa using h
    have hruns := Program.runs_trace api.reply (perform (.getSecret "clusters" "demo-install")) false
    rw [run_getSecret] at hruns
    exact ⟨_, .answered hruns⟩
  | listSecrets ns selector => exact exists_sent_timedOut _
  | generateBootConfig i =>
    refine exists_sent_answeredIf fun h => ?_
    obtain rfl : i = inputs := by simpa using h
    have hruns := Program.runs_trace api.reply (perform (.generateBootConfig inputs)) false
    rw [run_generateBootConfig] at hruns
    exact ⟨_, .answered hruns⟩
  | ensureMachines r =>
    refine exists_sent_answeredIf fun h => ?_
    obtain rfl : r = machines := by simpa using h
    exact exists_sent_machines
  | controlPlaneJoined ns cluster =>
    refine exists_sent_answeredIf fun h => ?_
    obtain ⟨rfl, rfl⟩ := eq_of_isDemo h
    exact exists_sent_joined
  | bootstrapComplete ns cluster =>
    refine exists_sent_answeredIf fun h => ?_
    obtain ⟨rfl, rfl⟩ := eq_of_isDemo h
    exact exists_sent_complete
  | deleteBootstrapMachine ns cluster =>
    refine exists_sent_answeredIf fun h => ?_
    obtain ⟨rfl, rfl⟩ := eq_of_isDemo h
    obtain ⟨sent, hsent, -⟩ := exists_sent_deletion
    exact ⟨sent, hsent⟩
  | bootstrapMachineDeleted ns cluster =>
    refine exists_sent_answeredIf fun h => ?_
    obtain ⟨rfl, rfl⟩ := eq_of_isDemo h
    exact exists_sent_deleted

/-- So is everything that is answered so, and a deletion of the bootstrap machine deletes it. -/
theorem exists_sends {α : Type} (p : Program Effect Effect.Reply α) :
    ∃ sent, Sends (p.trace answerLosing ()) sent ∧
      ((Effects.calls (p.trace answerLosing ())).any
        (fun e => decide (e.1 = .deleteBootstrapMachine "clusters" "demo")) = true →
        Deletes "clusters" "demo" sent) := by
  induction p with
  | done a => exact ⟨[], .nil, by simp [Program.trace, Effects.calls]⟩
  | ask e next ih =>
    cases e with
    | writeStatus ns name status =>
      obtain ⟨more, hmore, hdeletes⟩ := ih (answerLosing (.writeStatus ns name status) ()).1
      have hwritten := Program.runs_trace (fun _ s => (refused, s)) (writeStatus ns name status) ()
      refine ⟨_, .write hwritten hmore, fun hany => ?_⟩
      obtain ⟨x, hx, hdelete⟩ := hdeletes hany
      exact ⟨x, List.mem_append_right _ hx, hdelete⟩
    | call c budget =>
      obtain ⟨more, hmore, hdeletes⟩ := ih (answerLosing (.call c budget) ()).1
      by_cases hc : c = .deleteBootstrapMachine "clusters" "demo"
      · subst hc
        obtain ⟨sent, hsent, x, hx, hdelete⟩ := exists_sent_deletion
        exact ⟨_, .call hsent hmore, fun _ => ⟨x, List.mem_append_left _ hx, hdelete⟩⟩
      · obtain ⟨sent, hsent⟩ := exists_sent c
        refine ⟨_, .call hsent hmore, fun hany => ?_⟩
        have hrest : (Effects.calls ((next (answerLosing (.call c budget) ()).1).trace
            answerLosing ())).any
              (fun e => decide (e.1 = .deleteBootstrapMachine "clusters" "demo")) = true := by
          have hfirst : decide (c = .deleteBootstrapMachine "clusters" "demo") = false := by
            simpa using hc
          have hor : (decide (c = .deleteBootstrapMachine "clusters" "demo") || _) = true := hany
          rw [hfirst, Bool.false_or] at hor
          exact hor
        obtain ⟨x, hx, hdelete⟩ := hdeletes hrest
        exact ⟨x, List.mem_append_right _ hx, hdelete⟩

/-- The bootstrap machine is deleted and gone, and nothing is stored. -/
theorem exists_losing_sends : ∃ sent, Sends (losingTurn none).log sent ∧
    Deletes "clusters" "demo" sent ∧ (losingTurn none).Leaves none ∧
    Signal.bootstrapMachineDeleted.seenIn (Effects.calls (losingTurn none).log) = true := by
  have hdeletes : (Effects.calls (losingTurn none).log).any
      (fun e => decide (e.1 = .deleteBootstrapMachine "clusters" "demo")) = true := by decide +kernel
  have hgone : Signal.bootstrapMachineDeleted.seenIn (Effects.calls (losingTurn none).log) = true := by
    decide +kernel
  have hlost : (Effects.writes (losingTurn none).log).all (fun w => !w.reply.result.isOk) = true := by
    decide +kernel
  obtain ⟨sent, hsends, hdeleted⟩ := exists_sends (reconcile none)
  refine ⟨sent, hsends, hdeleted hdeletes, .kept fun w hw hok => ?_, hgone⟩
  have hrefused := List.all_eq_true.mp hlost w hw
  rw [hok] at hrefused
  cases hrefused

theorem named_losingTurn : (losingTurn none).Named "clusters" :=
  ⟨rfl, isName_clusters, isName_demo⟩

theorem makable : Makable "clusters" "demo" :=
  makable_of_isName isName_clusters isName_demo (by decide)

end Demo

namespace Turn

/-- The bootstrap machine is deleted and gone after one turn, and the next turn makes it. -/
theorem deleted_machine_comes_back :
    ∃ (first second : Turn) (sent sent' : Requests),
      History "clusters" "demo" none [first, second] none ∧ Sends first.log sent ∧
        Deletes "clusters" "demo" sent ∧
        Signal.bootstrapMachineDeleted.seenIn (Effects.calls first.log) = true ∧
        Sends second.log sent' ∧ Makes "clusters" "demo" sent' := by
  obtain ⟨sent, hsends, hdeletes, hleaves, hgone⟩ := Demo.exists_losing_sends
  obtain ⟨sent', hsends', hmakes⟩ :=
    makes_again Demo.named_losingTurn Demo.makable hsends hdeletes rfl
  have hone : History "clusters" "demo" none [Demo.losingTurn none] none :=
    .turn .start rfl rfl rfl hleaves
  exact ⟨_, _, sent, sent', .turn hone rfl rfl rfl hleaves, hsends, hdeletes, hgone, hsends', hmakes⟩

/-- Nothing is stored after the turn that loses its write. -/
theorem stays_deleted_iff_losing :
    (Demo.losingTurn none).Leaves none ∧
      ¬ ∀ turns last, History "clusters" "demo" none turns last → ∀ later ∈ turns, ∀ sent,
        Sends later.log sent → ¬ Makes "clusters" "demo" sent := by
  obtain ⟨sent, hsends, hdeletes, hleaves, -⟩ := Demo.exists_losing_sends
  have hiff := (stays_deleted_iff Demo.named_losingTurn Demo.makable hsends hdeletes hleaves).1
  refine ⟨hleaves, fun hnever => ?_⟩
  have hinit := hiff.mp hnever
  cases hinit

end Turn

end ControlPlane
