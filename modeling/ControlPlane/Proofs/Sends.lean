/-
The requests behind the effects of a turn, whatever the API replies.

A call is carried out by requests to its end, or given up after some of them; a write is one
request.  `Sends` puts the requests of some effects together, each with its reply, and the
replies may be any.  What no call of a kind ever sends is not among the requests of a turn
that makes no other calls, and `Sends.forall` says so.

The lemmas on the verbs go the other way: they give a run of the requests for replies of
one's own choice.
-/
import ControlPlane.Proofs.Moves
import ControlPlane.Proofs.Plays

namespace ControlPlane

open Program (Runs)

namespace Kubernetes

/-- Requests with the replies to them. -/
abbrev Requests := List (Program.Exchange Request fun _ => Reply)

/-- Requests that carry out a call to how it ends; a call that runs out of time has sent only
some of its requests, or all. -/
inductive Sent : (c : Call) → Outcome c.Answer → Requests → Prop where
  | answered {c : Call} {a : c.Answer} {sent : Requests} (h : Runs (perform c) sent (.ok a)) :
      Sent c (.answered a) sent
  | failed {c : Call} {e : ClientError} {sent : Requests} (h : Runs (perform c) sent (.error e)) :
      Sent c (.failed e) sent
  | timedOut {c : Call} {sent unsent : Requests} {r : Except ClientError c.Answer}
      (h : Runs (perform c) (sent ++ unsent) r) : Sent c .timedOut sent

/-- The requests that carry out some effects. -/
inductive Sends : Effects → Requests → Prop where
  | nil : Sends [] []
  | call {c : Call} {budget : Duration} {reply : c.Reply} {log : Effects} {sent more : Requests}
      (h : Sent c reply.outcome sent) (rest : Sends log more) :
      Sends (⟨.call c budget, reply⟩ :: log) (sent ++ more)
  | write {ns name : String} {status : Status} {reply : WriteReply} {log : Effects}
      {sent more : Requests} (h : Runs (writeStatus ns name status) sent reply.result)
      (rest : Sends log more) :
      Sends (⟨.writeStatus ns name status, reply⟩ :: log) (sent ++ more)

variable {P : Request → Prop} {log : Effects} {sent : Requests}

theorem Sent.forall {c : Call} {outcome : Outcome c.Answer} (h : Sent c outcome sent)
    (hasks : (perform c).Asks P) : ∀ e ∈ sent, P e.1 := by
  cases h with
  | answered hruns => exact hasks.of_runs hruns
  | failed hruns => exact hasks.of_runs hruns
  | timedOut hruns => exact fun e he => hasks.of_runs hruns e (List.mem_append_left _ he)

/-- What every call among some effects asks for, and every write, is all that is sent. -/
theorem Sends.forall (h : Sends log sent) (hcalls : ∀ e ∈ Effects.calls log, (perform e.1).Asks P)
    (hwrites : ∀ ns name status, (writeStatus ns name status).Asks P) : ∀ e ∈ sent, P e.1 := by
  induction h with
  | nil => simp
  | call hsent rest ih =>
    obtain ⟨hfirst, hrest⟩ := List.forall_mem_cons.mp hcalls
    exact List.forall_mem_append.mpr ⟨hsent.forall hfirst, ih hrest⟩
  | write hruns rest ih =>
    exact List.forall_mem_append.mpr ⟨(hwrites _ _ _).of_runs hruns, ih hcalls⟩

/-! ### The methods of a call -/

section Methods

variable {α : Type} {t : ObjectType} {ns name : String} {decode : Json.Source → Json.Decoded α}

theorem asks_get? (h : ∀ path query, P ⟨.get, path, query, none, none⟩) :
    (Client.get? t ns name decode).run.Asks P := by
  refine asks_named (asks_mk (Program.asks_bind (asks_send fun _ _ => h _ _) fun r => ?_))
  cases r with
  | ok a => exact .done _
  | error fault => exact .done _

theorem asks_list {query : String} (h : ∀ path query, P ⟨.get, path, query, none, none⟩) :
    (Client.list t ns query decode).run.Asks P :=
  asks_send fun _ _ => h _ _

theorem asks_apply {object : Json} (h : ∀ path query contentType body,
    P ⟨.patch, path, query, contentType, body⟩) :
    (Client.apply t ns name object decode).run.Asks P := by
  unfold Client.apply
  exact asks_named (asks_client_bind (asks_send fun _ _ => h _ _ _ _) fun _ => .done _)

end Methods

/-- The method is one by which a call is carried out. -/
def sends : Call → Method → Bool
  | _, .get => true
  | .generateBootConfig _, .patch | .ensureMachines _, .patch => true
  | .deleteBootstrapMachine .., .delete => true
  | _, _ => false

theorem asks_ensureEach {r : MachineSetRequest} {machines : List (MachineRole × String)}
    (hget : ∀ path query, P ⟨.get, path, query, none, none⟩)
    (hpatch : ∀ path query contentType body, P ⟨.patch, path, query, contentType, body⟩) :
    (ensureEach r machines).run.Asks P := by
  induction machines with
  | nil => exact .done _
  | cons machine rest ih =>
    refine asks_client_bind (asks_client_bind (asks_get? hget) fun found => ?_) fun _ => ih
    cases found with
    | some object => exact .done _
    | none => exact asks_apply hpatch

/-- Only the hand-over and the machines are written, and only a deletion deletes. -/
theorem asks_perform_sends {c : Call} : (perform c).Asks fun r => sends c r.method = true := by
  cases c with
  | getSecret ns name =>
    exact asks_asCollaborator (asks_client_bind (asks_get? fun _ _ => rfl) fun _ => .done _)
  | listSecrets ns selector =>
    exact asks_asCollaborator (asks_client_bind (asks_list fun _ _ => rfl) fun _ => .done _)
  | generateBootConfig inputs =>
    unfold perform
    dsimp only
    split
    · exact asks_asCollaborator (asks_client_bind (asks_apply fun _ _ _ _ => rfl) fun _ => .done _)
    · exact .done _
  | ensureMachines request =>
    exact asks_asCollaborator (asks_ensureEach (fun _ _ => rfl) fun _ _ _ _ => rfl)
  | controlPlaneJoined ns cluster =>
    exact asks_asCollaborator (asks_client_bind (asks_list fun _ _ => rfl) fun _ => .done _)
  | bootstrapComplete ns cluster =>
    exact asks_asCollaborator (asks_client_bind (asks_get? fun _ _ => rfl) fun _ => .done _)
  | deleteBootstrapMachine ns cluster =>
    refine asks_asCollaborator (asks_client_bind (asks_get? fun _ _ => rfl) fun found => ?_)
    cases found with
    | none => exact .done _
    | some object => exact asks_named (asks_send fun _ _ => rfl)
  | bootstrapMachineDeleted ns cluster =>
    exact asks_asCollaborator (asks_client_bind (asks_get? fun _ _ => rfl) fun _ => .done _)

/-! ### Requests for replies of one's own choice -/

section Runs

variable {α β : Type} {t : ObjectType} {ns name : String}
  {decode : Json.Source → Json.Decoded α} {target : Target} {reply : Reply}

theorem runs_asCollaborator {c : Client α} {a : α} (h : Runs c.run sent (.ok a)) :
    Runs (asCollaborator c) sent (.ok a) :=
  Program.runs_bind_iff.mpr ⟨sent, .ok a, [], (List.append_nil sent).symm, h, .done _⟩

theorem runs_of_asCollaborator {c : Client α} {a : α}
    (h : Runs (asCollaborator c) sent (.ok a)) : Runs c.run sent (.ok a) := by
  obtain ⟨first, r, rest, rfl, hfirst, hrest⟩ := Program.runs_bind_iff.mp h
  cases r with
  | ok b =>
    cases hrest
    rw [List.append_nil]
    exact hfirst
  | error fault => cases hrest

theorem runs_mk {p : Program Request (fun _ => Reply) (Except Fault α)} {r : Except Fault α}
    (h : Runs p sent r) : Runs (ExceptT.mk p).run sent r := h

theorem runs_client_bind {x : Client α} {f : α → Client β} {a : α} {b : β} {rest : Requests}
    (hx : Runs x.run sent (.ok a)) (hf : Runs (f a).run rest (.ok b)) :
    Runs (x >>= f).run (sent ++ rest) (.ok b) :=
  Program.runs_bind_iff.mpr ⟨sent, .ok a, rest, rfl, hx, hf⟩

theorem runs_of_client_bind {x : Client α} {f : α → Client β} {b : β}
    (h : Runs (x >>= f).run sent (.ok b)) :
    ∃ a first rest, sent = first ++ rest ∧ Runs x.run first (.ok a) ∧ Runs (f a).run rest (.ok b) := by
  obtain ⟨first, r, rest, rfl, hfirst, hrest⟩ := Program.runs_bind_iff.mp h
  cases r with
  | ok a => exact ⟨a, first, rest, rfl, hfirst, hrest⟩
  | error fault => cases hrest

/-- A request that can be sent comes to what is read in the reply. -/
theorem runs_send {method : Method} {path : String} {query : Option (List (String × String))}
    {contentType : Option String} {body : Option Json} {result : Except Fault α}
    (htarget : Target.ofUrl? (urlOf path query) = some target)
    (hread : reply.read decode = result) :
    Runs (Client.send method path query contentType body decode).run
      [⟨⟨method, target.path, target.query, contentType, body⟩, reply⟩] result := by
  subst hread
  unfold Client.send
  rw [htarget]
  exact .ask (.done _)

theorem runs_get?_found {a : α} (hname : name ≠ "")
    (htarget : Target.ofUrl? (urlOf (t.objectPath ns name) none) = some target)
    (hread : reply.read decode = .ok a) :
    Runs (Client.get? t ns name decode).run [⟨⟨.get, target.path, target.query, none, none⟩, reply⟩]
      (.ok (some a)) := by
  unfold Client.get? Client.named
  rw [if_neg (by simpa using hname)]
  exact runs_mk (Program.runs_bind_iff.mpr ⟨_, _, [], rfl, runs_send htarget hread, .done _⟩)

theorem runs_get?_missing {fault : Fault} (hname : name ≠ "")
    (htarget : Target.ofUrl? (urlOf (t.objectPath ns name) none) = some target)
    (hread : reply.read decode = .error fault) (hmissing : fault.isNotFound = true) :
    Runs (Client.get? t ns name decode).run [⟨⟨.get, target.path, target.query, none, none⟩, reply⟩]
      (.ok none) := by
  unfold Client.get? Client.named
  rw [if_neg (by simpa using hname)]
  refine runs_mk (Program.runs_bind_iff.mpr ⟨_, _, [], rfl, runs_send htarget hread, ?_⟩)
  dsimp only
  rw [if_pos hmissing]
  exact .done _

theorem runs_apply {object answer : Json} {query : List (String × String)} (hname : name ≠ "")
    (hquery : query = [("force", "true"), ("fieldManager", Client.fieldManager)])
    (htarget : Target.ofUrl? (urlOf (t.objectPath ns name) (some query)) = some target)
    (hread : reply.read decodeObject = .ok answer) :
    Runs (Client.apply t ns name object decodeObject).run
      [⟨⟨.patch, target.path, target.query, some "application/apply-patch+yaml", some object⟩,
        reply⟩] (.ok ()) := by
  subst hquery
  unfold Client.apply Client.named
  rw [if_neg (by simpa using hname)]
  exact runs_client_bind (runs_send htarget hread) (.done _)

theorem runs_delete (hname : name ≠ "")
    (htarget : Target.ofUrl? (urlOf (t.objectPath ns name) (some [])) = some target)
    (hread : reply.read decodeDeletion = .ok ()) :
    ∃ body, Runs (Client.delete t ns name).run
      [⟨⟨.delete, target.path, target.query, some "application/json", body⟩, reply⟩] (.ok ()) := by
  unfold Client.delete Client.named
  rw [if_neg (by simpa using hname)]
  exact ⟨_, runs_send htarget hread⟩

/-- An object that is looked up has a name, and its request can be sent. -/
theorem exists_target_of_get? {found : Option α}
    (h : Runs (Client.get? t ns name decode).run sent (.ok found)) :
    name ≠ "" ∧ ∃ target, Target.ofUrl? (urlOf (t.objectPath ns name) none) = some target := by
  unfold Client.get? Client.named at h
  split at h
  · cases h
  · rename_i hname
    refine ⟨by simpa using hname, ?_⟩
    cases htarget : Target.ofUrl? (urlOf (t.objectPath ns name) none) with
    | some target => exact ⟨target, rfl⟩
    | none =>
      unfold Client.send at h
      rw [htarget] at h
      cases h

end Runs

end Kubernetes

end ControlPlane
