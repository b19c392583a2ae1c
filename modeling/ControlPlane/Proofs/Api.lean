/-
The cluster API, as far as secrets go.

The API is a parameter: it replies to requests and changes.  `Lawful` is what is relied on
about secrets.  A secret that is read is one that is kept; a list has the secrets whose
labels a query accepts, by their names; an apply that takes effect leaves a secret with all
keys that were applied, and no other secret changes.  Any request may fail as well, with or
without its effect.

`Carried` says how a call ends against the API, in time or not, and the lemmas after it say
what each kind of call has to do with secrets.
-/
import ControlPlane.Proofs.Names
import ControlPlane.Proofs.Urls

namespace ControlPlane

namespace Table

variable {κ α : Type} [LT κ]

/-- Keeps the entries whose value passes a test. -/
def select (t : Table κ α) (p : α → Bool) : Table κ α :=
  ⟨t.entries.filter fun e => p e.2, t.sorted.filter _⟩

theorem get?_select [DecidableEq κ] [KeyOrder κ] {t : Table κ α} {p : α → Bool} {k : κ} {v : α} :
    (t.select p).get? k = some v ↔ t.get? k = some v ∧ p v = true := by
  rw [get?_eq_some_iff, get?_eq_some_iff]
  exact List.mem_filter

/-- A table with no entries but some of another one is that one without the others. -/
theorem eq_filterKeys [DecidableEq κ] [KeyOrder κ] {t u : Table κ α}
    (h : ∀ k v, t.get? k = some v → u.get? k = some v) : t = u.filterKeys t.contains := by
  refine ext ?_
  intro k
  rw [get?_filterKeys, contains]
  cases hk : t.get? k with
  | none => rfl
  | some v => exact (h k v hk).symm

/-- Every key of a list is a key of its table. -/
theorem mem_keys_ofList [DecidableEq κ] [DecidableLT κ] [KeyOrder κ] {l : List (κ × α)} {e : κ × α}
    (h : e ∈ l) : e.1 ∈ (ofList l).keys := by
  have hfound : (ofList l).get? e.1 ≠ none := by
    rw [ofList, get?_insertMany, get?_empty, Option.or_none]
    intro hnone
    exact lookup_eq_none_iff.mp hnone e (List.mem_reverse.mpr h) rfl
  obtain ⟨v, hv⟩ := Option.ne_none_iff_exists'.mp hfound
  exact List.mem_map.mpr ⟨(e.1, v), get?_eq_some_iff.mp hv, rfl⟩

end Table

namespace Kubernetes

/-! ### The parameter -/

/-- A secret as the API keeps it. -/
structure StoredSecret where
  labels : Labels
  data : SecretData
deriving DecidableEq

/-- The cluster API, as far as secrets go. -/
structure Api (σ : Type) where
  reply : Request → σ → Reply × σ
  /-- The secrets of a namespace by their names. -/
  secrets : σ → String → Table String StoredSecret
  /-- The parameters of a list accept some labels. -/
  accepts : List (String × String) → Labels → Bool

/-- The keys of the data of an object that is applied. -/
def appliedKeys (object : Json) : List String :=
  (((object.get? "data").bind Json.fields?).getD []).map (·.1)

namespace Api

variable {σ : Type}

/-- The secrets of a namespace that a list asks for. -/
def chosen (api : Api σ) (s : σ) (ns : String) (query : List (String × String)) :
    Table String StoredSecret :=
  (api.secrets s ns).select fun secret => api.accepts query secret.labels

end Api

/-- Secrets as a list has them. -/
def namedSecrets (t : Table String StoredSecret) : List NamedSecret :=
  t.entries.map fun e => ⟨e.1, e.2.labels, e.2.data⟩

/-- What is relied on about the API. -/
structure Api.Lawful {σ : Type} (api : Api σ) : Prop where
  /-- Reading changes no secret, and neither does any request outside the core group. -/
  spared : ∀ (r : Request) (s : σ), r.Spares → api.secrets (api.reply r s).2 = api.secrets s
  /-- A secret that is read is the one that is kept. -/
  found : ∀ {ns name : String} {query : List (String × String)} {s : σ}
    {secret : ObjectMeta × SecretData}, IsName ns → IsName name →
    (api.reply ⟨.get, ObjectType.secrets.objectPath ns name, query, none, none⟩ s).1.read
      decodeSecret = .ok secret →
    ((api.secrets s ns).get? name).map (·.data) = some secret.2
  /-- A secret that is said not to exist is not kept. -/
  missing : ∀ {ns name : String} {query : List (String × String)} {s : σ} {fault : Fault},
    IsName ns → IsName name →
    (api.reply ⟨.get, ObjectType.secrets.objectPath ns name, query, none, none⟩ s).1.read
      decodeSecret = .error fault →
    fault.isNotFound = true → (api.secrets s ns).get? name = none
  /-- A list has the secrets that it asks for. -/
  listed : ∀ {ns : String} {query : List (String × String)} {s : σ}
    {secrets : List (ObjectMeta × SecretData)}, IsName ns →
    (api.reply ⟨.get, ObjectType.secrets.path ns, query, none, none⟩ s).1.read
      (decodeItems decodeSecret) = .ok secrets →
    secrets.map namedSecret = namedSecrets (api.chosen s ns query)
  /-- An apply has no effect, or leaves a secret with the keys that were applied. -/
  applied : ∀ {ns name : String} {query : List (String × String)} {object : Json} {s s' : σ},
    IsName ns → IsName name →
    s' = (api.reply ⟨.patch, ObjectType.secrets.objectPath ns name, query,
      some "application/apply-patch+yaml", some object⟩ s).2 →
    api.secrets s' = api.secrets s ∨
      ∃ written, (∀ key ∈ appliedKeys object, written.data.contains key = true) ∧
        ∀ ns' name', (api.secrets s' ns').get? name' =
          if ns' = ns ∧ name' = name then some written else (api.secrets s ns').get? name'

/-! ### How a call ends -/

/-- A call ends with an answer, with a failure, or out of time after some of its requests. -/
inductive Carried {σ α : Type} (api : Api σ) (p : Sending (Except ClientError α)) (s : σ) :
    Outcome α → σ → Prop where
  | answered {a : α} {s' : σ} (h : p.run api.reply s = (.ok a, s')) : Carried api p s (.answered a) s'
  | failed {e : ClientError} {s' : σ} (h : p.run api.reply s = (.error e, s')) :
      Carried api p s (.failed e) s'
  | timedOut {s' : σ} (h : Program.Reaches api.reply p s s') : Carried api p s .timedOut s'

variable {σ α : Type} {api : Api σ} {s s' : σ} {ns name : String}

theorem Carried.reaches {p : Sending (Except ClientError α)} {outcome : Outcome α}
    (h : Carried api p s outcome s') : Program.Reaches api.reply p s s' := by
  cases h with
  | answered h =>
    have hreach := Program.reaches_run api.reply p s
    rwa [h] at hreach
  | failed h =>
    have hreach := Program.reaches_run api.reply p s
    rwa [h] at hreach
  | timedOut h => exact h

/-- Every call but the one that hands over inputs leaves the secrets. -/
theorem Carried.secrets_eq (hlaw : api.Lawful) {c : Call} {outcome : Outcome c.Answer}
    (h : Carried api (perform c) s outcome s') (hc : ∀ i, c ≠ .generateBootConfig i) :
    api.secrets s' = api.secrets s :=
  h.reaches.unchanged (spares_perform hc) hlaw.spared

/-! ### What is read and written -/

/-- The parameters of a request as the API gets them. -/
def sentQuery (path : String) (query : Option (List (String × String))) :
    List (String × String) :=
  ((Target.ofUrl? (urlOf path query)).map (·.query)).getD []

/-- A request goes to its place, unless it cannot be sent. -/
theorem send_place (method : Method) (path : String) (query : Option (List (String × String)))
    (contentType : Option String) (body : Option Json) (decode : Json.Source → Json.Decoded α) :
    Client.send method path query contentType body decode = throw .unsendable ∨
      Client.send method path query contentType body decode = ExceptT.mk
        (.ask ⟨method, placeOf path, sentQuery path query, contentType, body⟩
          fun reply => .done (reply.read decode)) := by
  unfold Client.send
  split
  · exact .inl rfl
  · rename_i target htarget
    refine .inr ?_
    rw [Target.path_eq_placeOf htarget]
    unfold sentQuery
    rw [htarget]
    rfl

/-- A request goes to its path, unless it cannot be sent. -/
theorem send_eq {method : Method} {path : String} {query : Option (List (String × String))}
    {contentType : Option String} {body : Option Json} {decode : Json.Source → Json.Decoded α}
    (hpath : staysInPath path.toList) :
    Client.send method path query contentType body decode = throw .unsendable ∨
      Client.send method path query contentType body decode = ExceptT.mk
        (.ask ⟨method, path, sentQuery path query, contentType, body⟩
          fun reply => .done (reply.read decode)) := by
  have hsend := send_place method path query contentType body decode
  rwa [placeOf_eq hpath] at hsend

/-- What a look-up makes of what is read. -/
def lookedUp : Except Fault α → Except Fault (Option α)
  | .ok a => .ok (some a)
  | .error fault => if fault.isNotFound then .ok none else .error fault

/-- A look-up that is answered has read an object, or that there is none. -/
theorem lookedUp_eq_ok {x : Except Fault α} {found : Option α} (h : lookedUp x = .ok found) :
    (∃ a, x = .ok a ∧ found = some a) ∨
      ∃ fault, x = .error fault ∧ fault.isNotFound = true ∧ found = none := by
  unfold lookedUp at h
  split at h
  · cases h
    exact .inl ⟨_, rfl, rfl⟩
  · split at h
    · rename_i hmissing
      cases h
      exact .inr ⟨_, rfl, hmissing, rfl⟩
    · cases h

/-- A look-up is one request. -/
theorem get?_eq (t : ObjectType) (ns name : String) (decode : Json.Source → Json.Decoded α) :
    (Client.get? t ns name decode).run = .done (.error .unsendable) ∨
      ∃ query, (Client.get? t ns name decode).run =
        .ask ⟨.get, placeOf (t.objectPath ns name), query, none, none⟩ fun reply =>
          .done (lookedUp (reply.read decode)) := by
  unfold Client.get? Client.named
  split
  · exact .inl rfl
  · rcases send_place .get (t.objectPath ns name) none none none decode with hsend | hsend
    · rw [hsend]
      exact .inl rfl
    · rw [hsend]
      refine .inr ⟨_, congrArg (Program.ask _) (funext fun reply => ?_)⟩
      show Program.bind (.done (reply.read decode)) _ = .done _
      rw [Program.done_bind]
      cases reply.read decode <;> rfl

/-- So is an apply. -/
theorem apply_eq (t : ObjectType) (ns name : String) (object : Json)
    (decode : Json.Source → Json.Decoded α) :
    (Client.apply t ns name object decode).run = .done (.error .unsendable) ∨
      ∃ query, (Client.apply t ns name object decode).run =
        .ask ⟨.patch, placeOf (t.objectPath ns name), query, some "application/apply-patch+yaml",
          some object⟩ fun reply => .done ((reply.read decode).map fun _ => ()) := by
  unfold Client.apply Client.named
  split
  · exact .inl rfl
  · rcases send_place .patch (t.objectPath ns name)
      (some [("force", "true"), ("fieldManager", Client.fieldManager)])
      (some "application/apply-patch+yaml") (some object) decode with hsend | hsend
    · rw [hsend]
      exact .inl rfl
    · rw [hsend]
      refine .inr ⟨_, congrArg (Program.ask _) (funext fun reply => ?_)⟩
      show Program.bind (.done (reply.read decode)) _ = .done _
      rw [Program.done_bind]
      cases reply.read decode <;> rfl

section Paths

variable {t : ObjectType} {ns' name' : String}

theorem toList_path : (t.path ns).toList =
    (t.root.toList ++ "/namespaces/".toList) ++ (ns.toList ++ '/' :: t.plural.toList) := by
  simp [ObjectType.path]

theorem toList_objectPath : (t.objectPath ns name).toList =
    (t.root.toList ++ "/namespaces/".toList) ++
      (ns.toList ++ '/' :: (t.plural.toList ++ '/' :: name.toList)) := by
  simp [ObjectType.objectPath, ObjectType.path]

/-- No two objects have one path. -/
theorem objectPath_inj (hns : IsName ns) (hns' : IsName ns')
    (h : t.objectPath ns name = t.objectPath ns' name') : ns = ns' ∧ name = name' := by
  have hchars := congrArg String.toList h
  rw [toList_objectPath, toList_objectPath, List.append_cancel_left_eq] at hchars
  obtain ⟨hns, hrest⟩ := append_sep_inj hns.slash hns'.slash hchars
  rw [List.append_cancel_left_eq] at hrest
  exact ⟨String.toList_inj.mp hns, String.toList_inj.mp (List.cons.inj hrest).2⟩

theorem path_inj (hns : IsName ns) (hns' : IsName ns') (h : t.path ns = t.path ns') : ns = ns' := by
  have hchars := congrArg String.toList h
  rw [toList_path, toList_path, List.append_cancel_left_eq] at hchars
  exact String.toList_inj.mp (append_sep_inj hns.slash hns'.slash hchars).1

/-- No object has the path of all objects of a namespace. -/
theorem path_ne_objectPath (hns : IsName ns) (hns' : IsName ns') :
    t.path ns ≠ t.objectPath ns' name := by
  intro h
  have hchars := congrArg String.toList h
  rw [toList_path, toList_objectPath, List.append_cancel_left_eq] at hchars
  have hrest := (append_sep_inj hns.slash hns'.slash hchars).2
  have hlength := congrArg List.length hrest
  simp at hlength

end Paths

/-! ### Answers -/

section Run

variable {reply : Request → σ → Reply × σ}

theorem run_asCollaborator (c : Client α) :
    (asCollaborator c).run reply s =
      ((c.run.run reply s).1.mapError .kube, (c.run.run reply s).2) := by
  unfold asCollaborator
  rw [Program.run_bind]
  rfl

/-- An answered call was answered by the requests behind it. -/
theorem run_of_asCollaborator {c : Client α} {a : α}
    (h : (asCollaborator c).run reply s = (.ok a, s')) : c.run.run reply s = (.ok a, s') := by
  rw [run_asCollaborator] at h
  cases hrun : c.run.run reply s with
  | mk r s'' =>
    rw [hrun] at h
    cases r with
    | ok b =>
      cases h
      rfl
    | error fault => cases h

/-- A failed call failed with one of them. -/
theorem run_of_asCollaborator_error {c : Client α} {e : ClientError}
    (h : (asCollaborator c).run reply s = (.error e, s')) :
    ∃ fault, c.run.run reply s = (.error fault, s') := by
  rw [run_asCollaborator] at h
  cases hrun : c.run.run reply s with
  | mk r s'' =>
    rw [hrun] at h
    cases r with
    | ok b => cases h
    | error fault =>
      cases h
      exact ⟨fault, rfl⟩

/-- A call that is given up was given up among them. -/
theorem reaches_of_asCollaborator {c : Client α}
    (h : Program.Reaches reply (asCollaborator c) s s') : Program.Reaches reply c.run s s' := by
  rcases Program.Reaches.of_bind h with hfirst | hrest
  · exact hfirst
  · rw [hrest.of_done]
    exact Program.reaches_run reply c.run s

/-- A sequence of requests fails with the first part, or goes on from its answer. -/
theorem run_client_bind_cases {β : Type} {c : Client α} {f : α → Client β} {result : Except Fault β}
    (h : (c >>= f).run.run reply s = (result, s')) :
    (∃ a s'', c.run.run reply s = (.ok a, s'') ∧ (f a).run.run reply s'' = (result, s')) ∨
      ∃ fault, c.run.run reply s = (.error fault, s') ∧ result = .error fault := by
  have hbind : (c >>= f).run.run reply s = _ := Program.run_bind reply c.run _ s
  rw [hbind] at h
  cases hrun : c.run.run reply s with
  | mk first s'' =>
    rw [hrun] at h
    cases first with
    | ok a => exact .inl ⟨a, s'', rfl, h⟩
    | error fault =>
      cases h
      exact .inr ⟨fault, rfl, rfl⟩

theorem run_client_bind {β : Type} {c : Client α} {f : α → Client β} {b : β}
    (h : (c >>= f).run.run reply s = (.ok b, s')) :
    ∃ a s'', c.run.run reply s = (.ok a, s'') ∧ (f a).run.run reply s'' = (.ok b, s') := by
  rcases run_client_bind_cases h with hgo | ⟨fault, -, hfault⟩
  · exact hgo
  · cases hfault

/-- A sequence of requests is given up in its first part, or behind the answer of it. -/
theorem reaches_client_bind {β : Type} {c : Client α} {f : α → Client β}
    (h : Program.Reaches reply (c >>= f).run s s') :
    Program.Reaches reply c.run s s' ∨
      ∃ a s'', c.run.run reply s = (.ok a, s'') ∧ Program.Reaches reply (f a).run s'' s' := by
  rcases Program.Reaches.of_bind (p := c.run) h with hfirst | hrest
  · exact .inl hfirst
  · have hreach := Program.reaches_run reply c.run s
    cases hrun : c.run.run reply s with
    | mk first s'' =>
      rw [hrun] at hrest hreach
      cases first with
      | ok a => exact .inr ⟨a, s'', rfl, hrest⟩
      | error fault =>
        obtain rfl := hrest.of_done
        exact .inl hreach

/-- A sequence of requests goes on from the answer of the first. -/
theorem run_client_bind_of_ok {β : Type} {c : Client α} {f : α → Client β} {a : α}
    (h : c.run.run reply s = (.ok a, s')) :
    (c >>= f).run.run reply s = (f a).run.run reply s' := by
  have hbind : (c >>= f).run.run reply s = _ := Program.run_bind reply c.run _ s
  rw [hbind, h]
  rfl

theorem run_asCollaborator_of_ok {c : Client α} {a : α} (h : c.run.run reply s = (.ok a, s')) :
    (asCollaborator c).run reply s = (.ok a, s') := by
  rw [run_asCollaborator, h]
  rfl

/-- A request that can be sent comes to what is read in the reply. -/
theorem run_send_of_read {method : Method} {path : String} {query : Option (List (String × String))}
    {contentType : Option String} {body : Option Json} {decode : Json.Source → Json.Decoded α}
    {target : Target} {answer : Reply} {a : α}
    (htarget : Target.ofUrl? (urlOf path query) = some target)
    (hreply : reply ⟨method, target.path, target.query, contentType, body⟩ s = (answer, s'))
    (hread : answer.read decode = .ok a) :
    (Client.send method path query contentType body decode).run.run reply s = (.ok a, s') := by
  unfold Client.send
  rw [htarget]
  show ((reply _ s).1.read decode, (reply _ s).2) = _
  rw [hreply, hread]

end Run

/-- What is read of a secret is what is kept of it. -/
theorem getSecret_answered (hlaw : api.Lawful) (hns : IsName ns) (hname : IsName name)
    {answer : Option SecretData}
    (h : Carried api (perform (.getSecret ns name)) s (.answered answer) s') :
    answer = ((api.secrets s ns).get? name).map (·.data) := by
  cases h with
  | answered h =>
    obtain ⟨found, s'', hget, hanswer⟩ := run_client_bind (run_of_asCollaborator h)
    cases hanswer
    have hplace := placeOf_eq (ObjectType.fits_secrets.stays_objectPath hns hname)
    rcases get?_eq .secrets ns name decodeSecret with hlook | ⟨query, hlook⟩
    · rw [hlook] at hget
      cases hget
    · rw [hlook, hplace] at hget
      rcases lookedUp_eq_ok (congrArg Prod.fst hget) with
        ⟨secret, hread, rfl⟩ | ⟨fault, hread, hmissing, rfl⟩
      · exact (hlaw.found hns hname hread).symm
      · rw [hlaw.missing hns hname hread hmissing]
        rfl

/-- The secrets of a namespace that a selector finds. -/
def Api.matching (api : Api σ) (s : σ) (ns : String) (selector : Selector) :
    Table String StoredSecret :=
  api.chosen s ns (sentQuery (ObjectType.secrets.path ns) (some [("labelSelector", selector.text)]))

/-- What is listed are the secrets that the selector finds. -/
theorem listSecrets_answered (hlaw : api.Lawful) (hns : IsName ns) {selector : Selector}
    {answer : List NamedSecret}
    (h : Carried api (perform (.listSecrets ns selector)) s (.answered answer) s') :
    answer = namedSecrets (api.matching s ns selector) := by
  cases h with
  | answered h =>
    obtain ⟨found, s'', hlist, hanswer⟩ := run_client_bind (run_of_asCollaborator h)
    cases hanswer
    unfold Client.list at hlist
    rcases send_eq (ObjectType.fits_secrets.stays_path hns) with hsend | hsend
    · rw [hsend] at hlist
      cases hlist
    · rw [hsend] at hlist
      simp only [ExceptT.run_mk, Program.run, Prod.mk.injEq] at hlist
      exact hlaw.listed hns hlist.1

/-! ### What the controller changes -/

/-- Data from which the installer can go on: all manifests, and something to install from. -/
def HoldsInputs (data : SecretData) : Prop :=
  data.contains InstallInputs.manifestsKey = true ∧
    (data.contains installConfigKey = true ∨ data.contains installStateKey = true)

theorem holdsInputs_of_keys {i : InstallInputs} {data : SecretData} (hsource : i.hasSource = true)
    (h : ∀ key ∈ i.secretData.keys, data.contains key = true) : HoldsInputs data := by
  unfold InstallInputs.secretData at h
  constructor
  · exact h _ (Table.mem_keys_ofList (List.mem_append_right _ (List.mem_singleton_self _)))
  · unfold InstallInputs.hasSource at hsource
    cases hconfig : i.config with
    | some config =>
      refine .inl (h _ (Table.mem_keys_ofList (e := (installConfigKey, config)) ?_))
      simp [hconfig]
    | none =>
      cases hstate : i.state with
      | some state =>
        refine .inr (h _ (Table.mem_keys_ofList (e := (installStateKey, state)) ?_))
        simp [hstate]
      | none => simp [hconfig, hstate] at hsource

/-- Every secret is as it was, or it is that of some cluster's inputs and now holds inputs. -/
def Api.Overwrites (api : Api σ) (s s' : σ) : Prop :=
  ∀ ns name, (api.secrets s' ns).get? name = (api.secrets s ns).get? name ∨
    ∃ cluster secret, name = Cluster.inputsSecret cluster ∧
      (api.secrets s' ns).get? name = some secret ∧ HoldsInputs secret.data

namespace Api.Overwrites

theorem of_eq (h : api.secrets s' = api.secrets s) : api.Overwrites s s' := fun ns name => by
  rw [h]
  exact .inl rfl

theorem trans {s'' : σ} (h : api.Overwrites s s') (h' : api.Overwrites s' s'') :
    api.Overwrites s s'' := by
  intro ns name
  rcases h' ns name with hsame | hwritten
  · rw [hsame]
    exact h ns name
  · exact .inr hwritten

end Api.Overwrites

theorem appliedKeys_inputsObject {i : InstallInputs} :
    appliedKeys (inputsObject i) = i.secretData.keys := by
  have hdata : (inputsObject i).get? "data" = some (.obj (i.secretData.entries.map fun e =>
      (e.1, .str (String.ofList (Base64.encode e.2))))) := by
    simp [inputsObject, Json.objectOf, Json.field, Json.get?, Table.lookup]
  unfold appliedKeys Table.keys
  rw [hdata]
  simp [Json.fields?]

/-- The inputs of a cluster are written to its secret, and all of them are. -/
theorem overwrites_apply (hlaw : api.Lawful) {i : InstallInputs} {query : List (String × String)}
    (hsource : i.hasSource = true) (hns : IsName i.ns) (hcluster : IsName i.cluster) :
    api.Overwrites s (api.reply ⟨.patch,
      ObjectType.secrets.objectPath i.ns (Cluster.inputsSecret i.cluster), query,
      some "application/apply-patch+yaml", some (inputsObject i)⟩ s).2 := by
  rcases hlaw.applied hns hcluster.inputsSecret rfl with hsame | ⟨written, hkeys, hget⟩
  · exact .of_eq hsame
  · intro ns name
    rw [hget]
    by_cases h : ns = i.ns ∧ name = Cluster.inputsSecret i.cluster
    · rw [if_pos h]
      rw [appliedKeys_inputsObject] at hkeys
      exact .inr ⟨i.cluster, written, h.2, rfl, holdsInputs_of_keys hsource hkeys⟩
    · rw [if_neg h]
      exact .inl rfl

/-- All that the hand-over of inputs asks for is to write them to the secret of the cluster. -/
theorem asks_handOver {i : InstallInputs} (hns : IsName i.ns) (hcluster : IsName i.cluster) :
    (perform (.generateBootConfig i)).Asks fun q => i.hasSource = true ∧ ∃ query, q = ⟨.patch,
      ObjectType.secrets.objectPath i.ns (Cluster.inputsSecret i.cluster), query,
      some "application/apply-patch+yaml", some (inputsObject i)⟩ := by
  unfold perform
  dsimp only
  split
  · rename_i hsource
    refine asks_asCollaborator (asks_client_bind (asks_named (asks_client_bind (asks_send ?_)
      fun _ => .done _)) fun _ => .done _)
    intro target htarget
    refine ⟨hsource, target.query, ?_⟩
    rw [Target.path_eq (ObjectType.fits_secrets.stays_objectPath hns hcluster.inputsSecret) htarget]
  · exact .done _

/-- However it ends, a call changes secrets only to hand over the inputs of a cluster. -/
theorem Carried.overwrites (hlaw : api.Lawful) {c : Call} {outcome : Outcome c.Answer}
    (h : Carried api (perform c) s outcome s')
    (hnames : ∀ i, c = .generateBootConfig i → IsName i.ns ∧ IsName i.cluster) :
    api.Overwrites s s' := by
  by_cases hc : ∃ i, c = .generateBootConfig i
  · obtain ⟨i, rfl⟩ := hc
    obtain ⟨hns, hcluster⟩ := hnames i rfl
    refine h.reaches.related (asks_handOver hns hcluster) (fun _ => .of_eq rfl)
      (fun hab hbc => hab.trans hbc) fun q s hq => ?_
    obtain ⟨hsource, query, rfl⟩ := hq
    exact overwrites_apply hlaw hsource hns hcluster
  · exact .of_eq (h.secrets_eq hlaw fun i heq => hc ⟨i, heq⟩)

end Kubernetes

end ControlPlane
