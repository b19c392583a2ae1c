/-
Reconciliations against the cluster API.

Effects play against the API when each of them ends as the API lets it: a call by the
requests behind it, in time or not, and a write by its own request.  Up to the hand-over of
its inputs a reconciliation leaves all secrets, and with it it changes the secret of the
cluster's inputs at most.  So over any number of turns every secret stays as it is, or
comes to hold the inputs of some cluster.
-/
import ControlPlane.Proofs.Api
import ControlPlane.Proofs.History
import ControlPlane.Proofs.Resolution

namespace ControlPlane

open Program (Runs)

/-- Every question of a run is of the kind of its program. -/
theorem Program.Asks.of_runs {Q : Type} {A : Q → Type} {α : Type} {P : Q → Prop}
    {p : Program Q A α} {log : List (Exchange Q A)} {a : α} (h : p.Asks P) (hrun : Runs p log a) :
    ∀ e ∈ log, P e.1 := by
  induction hrun with
  | done a => exact fun _ he => by cases he
  | ask rest ih =>
    cases h with
    | ask hq hrest => exact List.forall_mem_cons.mpr ⟨hq, ih (hrest _)⟩

/-! ### What a pass is about -/

/-- The call looks something up, or it is about a cluster. -/
def Call.Concerns (k : ObjectKey) : Call → Prop
  | .getSecret .. | .listSecrets .. => True
  | .generateBootConfig inputs => ⟨inputs.ns, inputs.cluster⟩ = k
  | .ensureMachines request => ⟨request.ns, request.cluster⟩ = k
  | .controlPlaneJoined ns cluster | .bootstrapComplete ns cluster
  | .deleteBootstrapMachine ns cluster | .bootstrapMachineDeleted ns cluster => ⟨ns, cluster⟩ = k

namespace Walk

variable {α β : Type} {P : Call → Prop}

/-- Every call of a step is of a kind, wherever it stands. -/
def Asks (P : Call → Prop) (w : Walk α) : Prop := ∀ s, (w s).Asks P

theorem asks_bind {w : Walk α} {f : α → Walk β} (hw : w.Asks P) (hf : ∀ a, (f a).Asks P) :
    (w >>= f).Asks P := by
  intro s
  refine Program.asks_bind (hw s) fun ended => ?_
  cases ended with
  | none => exact .done _
  | some ended =>
    obtain ⟨r, s'⟩ := ended
    cases r with
    | ok a => exact hf a s'
    | error why => exact .done _

theorem asks_pure {a : α} : (pure a : Walk α).Asks P := fun _ => .done _

theorem asks_stop {why : Stop} : (stop why : Walk α).Asks P := fun _ => .done _

theorem asks_abort : (abort : Walk α).Asks P := fun _ => .done _

theorem asks_status : status.Asks P := fun _ => .done _

theorem asks_change {f : Status → Time → Status} : (change f).Asks P := fun _ => .done _

theorem asks_ask {c : Call} (hc : P c) : (ask c).Asks P := fun _ => .ask hc fun _ => .done _

end Walk

namespace Pass

open Walk

variable {p : Pass} {P : Call → Prop}

/-- The cluster of a pass. -/
def key (p : Pass) : ObjectKey := ⟨p.ns, p.cluster⟩

theorem asks_call {c : Call} {failure : ControllerError → Walk c.Answer} (hc : P c)
    (hfailure : ∀ e, (failure e).Asks P) : (p.call c failure).Asks P := by
  refine asks_bind (asks_ask hc) ?_
  intro outcome
  split
  · exact asks_pure
  · exact hfailure _

theorem asks_callFor {type : ConditionType} {c : Call} (hc : P c) : (p.callFor type c).Asks P :=
  asks_call hc fun _ => asks_stop

theorem asks_callForMachines {c : Call} (hc : P c) : (p.callForMachines c).Asks P := by
  refine asks_call hc fun e => asks_bind asks_status fun s => ?_
  split <;> exact asks_stop

theorem asks_look {type : ConditionType} {signal : Signal} {c : Call} {seen : c.Answer → Bool}
    (hc : P c) : (p.look type signal c seen).Asks P := by
  refine asks_bind (asks_callFor hc) ?_
  intro answer
  split
  · refine asks_bind (fun s => ?_) fun _ => asks_pure
    unfold receive
    split <;> exact .done _
  · exact asks_pure

theorem asks_waitFor {type : ConditionType} {reason : Reason} {message : String} :
    (p.waitFor type reason message).Asks P :=
  asks_bind asks_change fun _ => asks_bind asks_change fun _ => asks_pure

theorem asks_conclude : p.conclude.Asks P :=
  asks_bind asks_change fun _ => asks_bind asks_change fun _ => asks_pure

theorem asks_tearDown : p.tearDown.Asks (Call.Concerns p.key) := by
  refine asks_bind (asks_callFor rfl) fun _ => ?_
  refine asks_bind (asks_look rfl) fun gone => ?_
  split
  · exact asks_conclude
  · exact asks_waitFor

theorem asks_complete : p.complete.Asks (Call.Concerns p.key) := by
  refine asks_bind asks_status fun s => ?_
  split
  · exact asks_tearDown
  · refine asks_bind (asks_look rfl) fun seen => ?_
    split
    · exact asks_tearDown
    · exact asks_waitFor

theorem asks_resolveInstallState : p.resolveInstallState.Asks (Call.Concerns p.key) := by
  refine asks_bind (asks_callFor trivial) ?_
  intro answer
  cases answer with
  | none => exact asks_stop
  | some data =>
    dsimp only
    split
    · exact asks_stop
    · exact asks_bind asks_change fun _ => asks_bind asks_change fun _ => asks_pure

theorem asks_resolveManifests : p.resolveManifests.Asks (Call.Concerns p.key) := by
  unfold resolveManifests
  split
  · exact asks_stop
  · exact asks_bind asks_change fun _ => asks_pure
  · refine asks_bind (asks_callFor trivial) ?_
    intro secrets
    split
    · exact asks_stop
    · exact asks_bind asks_change fun _ => asks_pure

theorem asks_provision : p.provision.Asks (Call.Concerns p.key) := by
  refine asks_bind asks_resolveInstallState fun install => ?_
  refine asks_bind asks_resolveManifests fun manifests => ?_
  refine asks_bind (asks_callForMachines rfl) fun bootSecret => ?_
  refine asks_bind (asks_bind asks_status fun s => asks_bind (asks_callForMachines rfl) fun _ =>
    asks_change) fun _ => ?_
  refine asks_bind (asks_look rfl) fun joined => ?_
  split
  · exact asks_complete
  · exact asks_waitFor

/-- Past its look-ups a pass speaks of the cluster of its resource and of no other. -/
theorem asks_walk : p.walk.Asks (Call.Concerns p.key) := by
  have hcheck : p.checkSpec.Asks (Call.Concerns p.key) := by
    refine asks_bind asks_status ?_
    intro s
    split
    · exact asks_pure
    · exact asks_stop
    · exact asks_abort
  refine asks_bind hcheck fun _ => asks_bind asks_status fun s => ?_
  split
  · exact asks_conclude
  split
  · exact asks_complete
  · exact asks_provision

end Pass

/-! ### Effects against the API -/

namespace Kubernetes

variable {σ : Type} {api : Api σ} {s s' s'' : σ} {log : Effects} {turns : List Turn}

/-- Effects that end as the API lets them, from one of its states to another. -/
inductive Api.Plays (api : Api σ) : Effects → σ → σ → Prop where
  | nil (s : σ) : Plays api [] s s
  | call {c : Call} {budget : Duration} {reply : c.Reply} {log : Effects} {s s' s'' : σ}
      (h : Carried api (perform c) s reply.outcome s') (rest : Plays api log s' s'') :
      Plays api (⟨.call c budget, reply⟩ :: log) s s''
  | write {ns name : String} {status : Status} {reply : WriteReply} {log : Effects} {s s' s'' : σ}
      (h : (writeStatus ns name status).run api.reply s = (reply.result, s'))
      (rest : Plays api log s' s'') :
      Plays api (⟨.writeStatus ns name status, reply⟩ :: log) s s''

/-- A write of a status leaves the secrets. -/
theorem secrets_of_write (hlaw : api.Lawful) {ns name : String} {status : Status}
    {result : Except ControllerError Unit}
    (h : (writeStatus ns name status).run api.reply s = (result, s')) :
    api.secrets s' = api.secrets s := by
  have hreach := Program.reaches_run api.reply (writeStatus ns name status) s
  rw [h] at hreach
  exact hreach.unchanged spares_writeStatus hlaw.spared

namespace Api.Plays

/-- A call before any hand-over finds the secrets of the start. -/
theorem carried (hlaw : api.Lawful) (h : api.Plays log s s') {pre post : Calls} {c : Call}
    {reply : c.Reply} (hlog : Effects.calls log = pre ++ ⟨c, reply⟩ :: post)
    (hpre : ∀ e ∈ pre, ∀ i, e.1 ≠ .generateBootConfig i) :
    ∃ s₁ s₂, api.secrets s₁ = api.secrets s ∧ Carried api (perform c) s₁ reply.outcome s₂ := by
  induction h generalizing pre with
  | nil s => simp [Effects.calls] at hlog
  | @call c' budget reply' log s s' s'' h rest ih =>
    cases pre with
    | nil =>
      cases hlog
      exact ⟨s, s', rfl, h⟩
    | cons e pre =>
      obtain ⟨rfl, htail⟩ := List.cons.inj hlog
      obtain ⟨hfirst, hrest⟩ := List.forall_mem_cons.mp hpre
      obtain ⟨s₁, s₂, hs₁, hcarried⟩ := ih htail hrest
      exact ⟨s₁, s₂, hs₁.trans (h.secrets_eq hlaw hfirst), hcarried⟩
  | write h rest ih =>
    obtain ⟨s₁, s₂, hs₁, hcarried⟩ := ih hlog hpre
    exact ⟨s₁, s₂, hs₁.trans (secrets_of_write hlaw h), hcarried⟩

theorem overwrites (hlaw : api.Lawful) (h : api.Plays log s s')
    (hnames : ∀ e ∈ Effects.calls log, ∀ i, e.1 = .generateBootConfig i →
      IsName i.ns ∧ IsName i.cluster) : api.Overwrites s s' := by
  induction h with
  | nil s => exact .of_eq rfl
  | call h rest ih =>
    obtain ⟨hfirst, hrest⟩ := List.forall_mem_cons.mp hnames
    exact (h.overwrites hlaw hfirst).trans (ih hrest)
  | write h rest ih => exact (Overwrites.of_eq (secrets_of_write hlaw h)).trans (ih hnames)

end Api.Plays

/-- What is answered as the API lets it plays against the API. -/
theorem Api.plays_trace {α : Type} {answer : (e : Effect) → σ → e.Reply × σ}
    (hcall : ∀ c budget s, Carried api (perform c) s (answer (.call c budget) s).1.outcome
      (answer (.call c budget) s).2)
    (hwrite : ∀ ns name status s, (writeStatus ns name status).run api.reply s =
      ((answer (.writeStatus ns name status) s).1.result, (answer (.writeStatus ns name status) s).2))
    (p : Program Effect Effect.Reply α) (s : σ) :
    api.Plays (p.trace answer s) s (p.run answer s).2 := by
  induction p generalizing s with
  | done a => exact .nil s
  | ask e next ih =>
    cases e with
    | call c budget => exact .call (hcall c budget s) (ih _ _)
    | writeStatus ns name status => exact .write (hwrite ns name status s) (ih _ _)

/-- Turns that play against the API, one after the other. -/
inductive Api.Played (api : Api σ) : List Turn → σ → σ → Prop where
  | nil (s : σ) : Played api [] s s
  | cons {t : Turn} {turns : List Turn} {s s' s'' : σ} (h : api.Plays t.log s s')
      (rest : Played api turns s' s'') : Played api (t :: turns) s s''

end Kubernetes

open Kubernetes

/-- The resource of a turn is in a namespace, and both have names. -/
structure Turn.Named (t : Turn) (ns : String) : Prop where
  ns_eq : t.resource.metadata.ns = some ns
  ns_isName : IsName ns
  isName : IsName t.resource.name

/-- What a turn hands over goes to a secret that has a name. -/
theorem Turn.Named.names {t : Turn} {ns : String} (h : t.Named ns) :
    ∀ e ∈ Effects.calls t.log, ∀ i, e.1 = .generateBootConfig i →
      IsName i.ns ∧ IsName i.cluster := by
  intro e he i hi
  obtain ⟨walked, hwalk⟩ := Controller.exists_walk_of_calls h.ns_eq t.runs (List.ne_nil_of_mem he)
  have hconcerns := (Pass.asks_walk _).of_runs hwalk e he
  rw [hi] at hconcerns
  obtain ⟨hns, hcluster⟩ := ObjectKey.mk.inj hconcerns
  rw [hns, hcluster]
  exact ⟨h.ns_isName, h.isName⟩

/-- **What the controller does to secrets.**  Over any number of turns every secret stays as
it is, or comes to hold the inputs of a cluster. -/
theorem Kubernetes.Api.Played.overwrites {σ : Type} {api : Api σ} {turns : List Turn} {s s' : σ}
    (hlaw : api.Lawful) (h : api.Played turns s s')
    (hnamed : ∀ t ∈ turns, ∃ ns, t.Named ns) : api.Overwrites s s' := by
  induction h with
  | nil s => exact .of_eq rfl
  | cons h rest ih =>
    obtain ⟨⟨ns, hfirst⟩, hrest⟩ := List.forall_mem_cons.mp hnamed
    exact (h.overwrites hlaw hfirst.names).trans (ih hrest)

end ControlPlane
