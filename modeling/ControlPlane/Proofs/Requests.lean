/-
The requests that carry out a call.

A call is carried out by requests to the cluster API, and it may run out of time with some
of them sent.  `Reaches` is a world after some questions of a program, and `Asks` says
that all questions of a program are of a kind; what such questions leave alone is the same
wherever the program is given up.

All but one of the calls only read, or write to objects of other groups than that of
secrets.
-/
import ControlPlane.Kubernetes.Collaborators
import Mathlib.Data.List.TakeWhile

namespace ControlPlane

namespace Program

variable {Q : Type} {A : Q → Type} {α β σ τ : Type} {answer : (q : Q) → σ → A q × σ}

/-- A world after some of the questions of a program, or all of them. -/
inductive Reaches (answer : (q : Q) → σ → A q × σ) : Program Q A α → σ → σ → Prop where
  | stopped (p : Program Q A α) (s : σ) : Reaches answer p s s
  | asked {q : Q} {next : A q → Program Q A α} {s s' : σ}
      (rest : Reaches answer (next (answer q s).1) (answer q s).2 s') :
      Reaches answer (.ask q next) s s'

/-- The world at the end is reached. -/
theorem reaches_run (answer : (q : Q) → σ → A q × σ) (p : Program Q A α) (s : σ) :
    Reaches answer p s (p.run answer s).2 := by
  induction p generalizing s with
  | done a => exact .stopped _ s
  | ask q next ih => exact .asked (ih _ _)

/-- A sequence that is given up has come to some point of its first part, or of what follows
all of it. -/
theorem Reaches.of_bind {p : Program Q A α} {f : α → Program Q A β} {s s' : σ}
    (h : Reaches answer (p.bind f) s s') :
    Reaches answer p s s' ∨ Reaches answer (f (p.run answer s).1) (p.run answer s).2 s' := by
  induction p generalizing s with
  | done a => exact .inr h
  | ask q next ih =>
    cases h with
    | stopped => exact .inl (.stopped _ _)
    | asked rest =>
      rcases ih _ rest with hfirst | hsecond
      · exact .inl (.asked hfirst)
      · exact .inr hsecond

theorem Reaches.of_done {a : α} {s s' : σ} (h : Reaches answer (.done a : Program Q A α) s s') :
    s' = s := by
  cases h
  rfl

/-- A program of one question has asked it or not. -/
theorem Reaches.of_question {q : Q} {f : A q → α} {s s' : σ}
    (h : Reaches answer (.ask q fun a => .done (f a)) s s') : s' = s ∨ s' = (answer q s).2 := by
  cases h with
  | stopped => exact .inl rfl
  | asked rest => exact .inr rest.of_done

/-- Every question of a program is of a kind, whatever the answers. -/
inductive Asks (P : Q → Prop) : Program Q A α → Prop where
  | done (a : α) : Asks P (.done a)
  | ask {q : Q} {next : A q → Program Q A α} (hq : P q) (rest : ∀ a, Asks P (next a)) :
      Asks P (.ask q next)

theorem Asks.imp {P P' : Q → Prop} {p : Program Q A α} (h : p.Asks P)
    (himp : ∀ q, P q → P' q) : p.Asks P' := by
  induction h with
  | done a => exact .done a
  | ask hq rest ih => exact .ask (himp _ hq) ih

theorem asks_bind {P : Q → Prop} {p : Program Q A α} {f : α → Program Q A β} (hp : p.Asks P)
    (hf : ∀ a, (f a).Asks P) : (p.bind f).Asks P := by
  induction hp with
  | done a => exact hf a
  | ask hq rest ih => exact .ask hq ih

/-- A relation that every question of the kind keeps to holds of every world that is reached. -/
theorem Reaches.related {P : Q → Prop} {R : σ → σ → Prop} {p : Program Q A α} {s s' : σ}
    (h : Reaches answer p s s') (hasks : p.Asks P) (hrefl : ∀ s, R s s)
    (htrans : ∀ {a b c}, R a b → R b c → R a c) (hstep : ∀ q s, P q → R s (answer q s).2) :
    R s s' := by
  induction h with
  | stopped p s => exact hrefl s
  | asked rest ih =>
    cases hasks with
    | ask hq hrest => exact htrans (hstep _ _ hq) (ih (hrest _))

/-- What no question of the kind changes is the same in every world that is reached. -/
theorem Reaches.unchanged {P : Q → Prop} {view : σ → τ} {p : Program Q A α} {s s' : σ}
    (h : Reaches answer p s s') (hasks : p.Asks P)
    (hview : ∀ q s, P q → view (answer q s).2 = view s) : view s' = view s :=
  h.related (R := fun s s' => view s' = view s) hasks (fun _ => rfl)
    (fun hab hbc => hbc.trans hab) hview

end Program

namespace Kubernetes

/-! ### Where a request goes

A text without a question mark and a number sign at the start of a path stays where it is. -/

/-- The text ends no path. -/
def staysInPath (cs : List Char) : Prop := ∀ c ∈ cs, c ≠ '?' ∧ c ≠ '#'

/-- Written with `List.all`, so that it is decided by running over `cs`. -/
theorem staysInPath_of_all {cs : List Char} (h : cs.all (fun c => c ≠ '?' ∧ c ≠ '#') = true) :
    staysInPath cs := by
  intro c hc
  exact of_decide_eq_true (List.all_eq_true.mp h c hc)

theorem takeWhile_append_of_stays {stop : Char} {cs rest : List Char} (h : ∀ c ∈ cs, c ≠ stop) :
    (cs ++ rest).takeWhile (· ≠ stop) = cs ++ rest.takeWhile (· ≠ stop) :=
  List.takeWhile_append_of_pos fun c hc => by simpa using h c hc

theorem takeWhile_of_stays {stop : Char} {cs : List Char} (h : ∀ c ∈ cs, c ≠ stop) :
    cs.takeWhile (· ≠ stop) = cs := by
  have happend : (cs ++ []).takeWhile (· ≠ stop) = cs ++ [].takeWhile (· ≠ stop) :=
    takeWhile_append_of_stays h
  rwa [List.takeWhile_nil, List.append_nil] at happend

theorem Target.path_of_ofUrl? {url : List Char} {target : Target}
    (h : Target.ofUrl? url = some target) :
    target.path.toList = (url.takeWhile (· ≠ '#')).takeWhile (· ≠ '?') := by
  unfold Target.ofUrl? at h
  dsimp only at h
  split at h
  · cases h
  · split at h
    · cases h
      exact String.toList_ofList
    · cases h

/-- A target begins as its URL does. -/
theorem Target.prefix_of_ofUrl? {start rest : List Char} {target : Target}
    (hstart : staysInPath start) (h : Target.ofUrl? (start ++ rest) = some target) :
    start <+: target.path.toList := by
  rw [Target.path_of_ofUrl? h, takeWhile_append_of_stays fun c hc => (hstart c hc).2,
    takeWhile_append_of_stays fun c hc => (hstart c hc).1]
  exact List.prefix_append _ _

/-- Where the requests for a path go: a question mark or a number sign ends it. -/
def placeOf (path : String) : String :=
  String.ofList (path.toList.takeWhile fun c => c ≠ '?' ∧ c ≠ '#')

theorem takeWhile_append_of_neg {p : Char → Bool} {cs rest : List Char} {stop : Char}
    (h : p stop = false) : (cs ++ stop :: rest).takeWhile p = cs.takeWhile p := by
  rw [List.takeWhile_append, List.takeWhile_cons_of_neg (by rw [h]; decide), List.append_nil]
  split
  · rename_i hall
    exact ((List.takeWhile_prefix p).eq_of_length hall).symm
  · rfl

/-- Every request for a path goes to its place, whatever its parameters. -/
theorem Target.path_eq_placeOf {path : String} {query : Option (List (String × String))}
    {target : Target} (h : Target.ofUrl? (urlOf path query) = some target) :
    target.path = placeOf path := by
  have hchars := Target.path_of_ofUrl? h
  simp only [List.takeWhile_takeWhile, decide_eq_true_eq] at hchars
  refine String.toList_inj.mp ?_
  rw [hchars, placeOf, String.toList_ofList]
  cases query with
  | none => rfl
  | some q => exact takeWhile_append_of_neg (by decide)

/-- A path that ends nowhere early is its own place. -/
theorem placeOf_eq {path : String} (hpath : staysInPath path.toList) : placeOf path = path := by
  have hall : path.toList.takeWhile (fun c => c ≠ '?' ∧ c ≠ '#') = path.toList :=
    List.takeWhile_eq_self_iff.mpr fun c hc => decide_eq_true (hpath c hc)
  rw [placeOf, hall, String.ofList_toList]

theorem Target.path_eq {path : String} {query : Option (List (String × String))} {target : Target}
    (hpath : staysInPath path.toList) (h : Target.ofUrl? (urlOf path query) = some target) :
    target.path = path :=
  (Target.path_eq_placeOf h).trans (placeOf_eq hpath)

/-! ### What a call asks for -/

section Asks

variable {α β : Type} {P : Request → Prop}

/-- A client is its program. -/
theorem asks_mk {p : Program Request (fun _ => Reply) (Except Fault α)} (h : p.Asks P) :
    (ExceptT.mk p).run.Asks P := h

theorem asks_client_bind {x : Client α} {f : α → Client β} (hx : x.run.Asks P)
    (hf : ∀ a, (f a).run.Asks P) : (x >>= f).run.Asks P := by
  refine Program.asks_bind hx ?_
  intro r
  cases r with
  | ok a => exact hf a
  | error fault => exact .done _

theorem asks_send {method : Method} {path : String} {query : Option (List (String × String))}
    {contentType : Option String} {body : Option Json} {decode : Json.Source → Json.Decoded α}
    (h : ∀ target, Target.ofUrl? (urlOf path query) = some target →
      P ⟨method, target.path, target.query, contentType, body⟩) :
    (Client.send method path query contentType body decode).run.Asks P := by
  unfold Client.send
  split
  · exact .done _
  · rename_i target htarget
    exact .ask (h target htarget) fun _ => .done _

theorem asks_named {name : String} {request : Client α} (h : request.run.Asks P) :
    (Client.named name request).run.Asks P := by
  unfold Client.named
  split
  · exact .done _
  · exact h

theorem asks_asCollaborator {client : Client α} (h : client.run.Asks P) :
    (asCollaborator client).Asks P :=
  Program.asks_bind h fun _ => .done _

end Asks

/-- The request reads, or is about objects of another group than that of secrets. -/
def Request.Spares (r : Request) : Prop := r.method = .get ∨ "/apis/".toList <+: r.path.toList

section Spares

variable {α : Type} {t : ObjectType} {ns name : String} {decode : Json.Source → Json.Decoded α}

theorem spares_get? : (Client.get? t ns name decode).run.Asks Request.Spares := by
  refine asks_named (asks_mk (Program.asks_bind (asks_send fun _ _ => .inl rfl) fun r => ?_))
  cases r with
  | ok a => exact .done _
  | error fault => exact .done _

theorem spares_list {query : String} : (Client.list t ns query decode).run.Asks Request.Spares :=
  asks_send fun _ _ => .inl rfl

/-- Whatever is asked of a path outside the core group spares secrets. -/
theorem spares_send {method : Method} {path : String} {query : Option (List (String × String))}
    {contentType : Option String} {body : Option Json} (hpath : "/apis/".toList <+: path.toList) :
    (Client.send method path query contentType body decode).run.Asks Request.Spares := by
  refine asks_send fun target htarget => .inr ?_
  obtain ⟨rest, hrest⟩ := hpath
  unfold urlOf at htarget
  rw [← hrest] at htarget
  cases query with
  | none => exact Target.prefix_of_ofUrl? (staysInPath_of_all (by decide)) htarget
  | some q =>
    dsimp only at htarget
    rw [List.append_assoc] at htarget
    exact Target.prefix_of_ofUrl? (staysInPath_of_all (by decide)) htarget

/-- The objects are outside the core group. -/
def ObjectType.IsForeign (t : ObjectType) : Prop := "/apis/".toList <+: t.root.toList

theorem ObjectType.isForeign_machines : machines.IsForeign := by
  unfold IsForeign machines
  decide

theorem ObjectType.isForeign_controlPlanes : controlPlanes.IsForeign := by
  unfold IsForeign controlPlanes
  decide

theorem ObjectType.IsForeign.objectPath (ht : t.IsForeign) :
    "/apis/".toList <+: (t.objectPath ns name).toList := by
  unfold ObjectType.objectPath ObjectType.path
  simp only [String.toList_append, List.append_assoc]
  exact ht.trans (List.prefix_append _ _)

theorem spares_apply {object : Json} (ht : t.IsForeign) :
    (Client.apply t ns name object decode).run.Asks Request.Spares := by
  unfold Client.apply
  exact asks_named (asks_client_bind (spares_send ht.objectPath) fun _ => .done _)

theorem spares_delete (ht : t.IsForeign) : (Client.delete t ns name).run.Asks Request.Spares := by
  unfold Client.delete
  exact asks_named (spares_send ht.objectPath)

theorem spares_mergeStatus {change : Json} (ht : t.IsForeign) :
    (Client.mergeStatus t ns name change decode).run.Asks Request.Spares := by
  unfold Client.mergeStatus
  refine asks_named (asks_client_bind (spares_send ?_) fun _ => .done _)
  rw [String.toList_append]
  exact ht.objectPath.trans (List.prefix_append _ _)

end Spares

/-! ### The calls -/

theorem spares_ensureMachine {r : MachineSetRequest} {machine : MachineRole × String} :
    (ensureMachine r machine).run.Asks Request.Spares := by
  unfold ensureMachine
  refine asks_client_bind spares_get? ?_
  intro found
  cases found with
  | some object => exact .done _
  | none => exact spares_apply ObjectType.isForeign_machines

theorem spares_ensureEach {r : MachineSetRequest} {machines : List (MachineRole × String)} :
    (ensureEach r machines).run.Asks Request.Spares := by
  induction machines with
  | nil => exact .done _
  | cons machine rest ih =>
    unfold ensureEach
    exact asks_client_bind spares_ensureMachine fun _ => ih

theorem spares_deleteBootstrapMachine {ns cluster : String} :
    (deleteBootstrapMachine ns cluster).run.Asks Request.Spares := by
  unfold deleteBootstrapMachine
  refine asks_client_bind spares_get? ?_
  intro found
  cases found with
  | none => exact .done _
  | some object => exact spares_delete ObjectType.isForeign_machines

/-- Every call but the one that hands over the inputs of the installer spares secrets. -/
theorem spares_perform {c : Call} (hc : ∀ i, c ≠ .generateBootConfig i) :
    (perform c).Asks Request.Spares := by
  cases c with
  | getSecret ns name =>
    refine asks_asCollaborator ?_
    unfold getSecret
    exact asks_client_bind spares_get? fun _ => .done _
  | listSecrets ns selector =>
    refine asks_asCollaborator ?_
    unfold listSecrets
    exact asks_client_bind spares_list fun _ => .done _
  | generateBootConfig inputs => exact absurd rfl (hc inputs)
  | ensureMachines request => exact asks_asCollaborator spares_ensureEach
  | controlPlaneJoined ns cluster =>
    refine asks_asCollaborator ?_
    unfold controlPlaneJoined
    exact asks_client_bind spares_list fun _ => .done _
  | bootstrapComplete ns cluster =>
    refine asks_asCollaborator ?_
    unfold bootstrapComplete
    exact asks_client_bind spares_get? fun _ => .done _
  | deleteBootstrapMachine ns cluster => exact asks_asCollaborator spares_deleteBootstrapMachine
  | bootstrapMachineDeleted ns cluster =>
    refine asks_asCollaborator ?_
    unfold bootstrapMachineDeleted
    exact asks_client_bind spares_get? fun _ => .done _

/-- So does the write of a status. -/
theorem spares_writeStatus {ns name : String} {s : Status} :
    (writeStatus ns name s).Asks Request.Spares := by
  unfold writeStatus
  exact Program.asks_bind (spares_mergeStatus ObjectType.isForeign_controlPlanes) fun _ => .done _

end Kubernetes

end ControlPlane
