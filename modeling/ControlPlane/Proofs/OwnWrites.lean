/-
Whether the controller trips over its own writes.

A turn lists the secrets that a selector finds, and then writes the inputs of its cluster to
a secret of the same namespace, under a label that a selector may ask for.  The next turn
lists that secret as well if the selector finds it, and refuses it.

So from one turn to the next the manifests are resolved again only if the inputs stay out of
the selector's sight.  An example of a selector that finds them follows.
-/
import ControlPlane.Proofs.Manifests
import ControlPlane.Proofs.Replies

namespace ControlPlane

open Kubernetes

/-! ### One turn and the next -/

namespace Turn

variable {t first next : Turn} {ns : String} {after : Option Status} {m : Table String Bytes}

/-- The manifests that a turn comes to; they are handed to the installer. -/
def Resolves (t : Turn) (m : Table String Bytes) : Prop := m ∈ handed (Effects.calls t.log)

/-- All look-ups of a turn are answered. -/
def Answered (t : Turn) : Prop :=
  ∀ e ∈ Effects.calls t.log, e.1.isLookup = true → e.2.outcome.isAnswered = true

/-- The next turn of a resource, from the status that the first one has left, and before
anything has joined. -/
structure Again (first next : Turn) : Prop where
  ns : next.resource.metadata.ns = first.resource.metadata.ns
  name : next.resource.name = first.resource.name
  spec : next.resource.spec = first.resource.spec
  stored : first.Leaves next.resource.status
  waiting : (next.resource.status.getD .blank).initialized = false

/-- The pass of a turn. -/
def pass (t : Turn) (ns : String) : Pass := t.controller.passOver t.resource ns

/-- Nothing had joined before a turn if nothing has after it. -/
theorem waiting_of_leaves (hns : t.resource.metadata.ns = some ns) (h : t.Leaves after)
    (hafter : (after.getD .blank).initialized = false) :
    (t.resource.status.getD .blank).initialized = false := by
  cases h with
  | kept hwrites => exact hafter
  | stored hw f =>
    obtain ⟨-, -, -, -, walked, hwalk, hstatus⟩ := Controller.of_mem_writes hns t.runs hw
    have hfollows := Pass.follows_outcome hwalk
    rw [← hstatus] at hfollows
    have hor := hfollows.initialized.symm.trans hafter
    exact (Bool.or_eq_false_iff.mp hor).1

/-- A turn goes to machines over a status that is not ready and a spec that is not refused. -/
theorem exists_resolution (hns : t.resource.metadata.ns = some ns)
    (hinit : (t.resource.status.getD .blank).initialized = false)
    (hready : (t.resource.status.getD .blank).ready = false)
    (haccepted : (t.pass ns).judge (t.resource.status.getD .blank).boundTemplate = .ok ()) :
    ∃ looks rest found, Effects.calls t.log = looks ++ rest ∧ (t.pass ns).Resolution looks found ∧
      handed (Effects.calls t.log) = found.toList := by
  obtain ⟨walked, hwalk⟩ := Controller.exists_walk_of_accepted hns t.runs haccepted
  obtain ⟨looks, rest, found, hlog, hres, hhanded, -⟩ :=
    Pass.exists_resolution hinit hready haccepted hwalk
  exact ⟨looks, rest, found, hlog, hres, hhanded⟩

/-- A turn that comes to manifests starts from where it goes to machines. -/
theorem unready_of_resolves (hns : t.resource.metadata.ns = some ns)
    (hinit : (t.resource.status.getD .blank).initialized = false) (hm : t.Resolves m) :
    (t.resource.status.getD .blank).ready = false ∧
      (t.pass ns).judge (t.resource.status.getD .blank).boundTemplate = .ok () := by
  have hcalls : Effects.calls t.log ≠ [] := by
    intro hnil
    simp [Resolves, hnil, handed] at hm
  obtain ⟨walked, hwalk⟩ := Controller.exists_walk_of_calls hns t.runs hcalls
  exact Pass.unready_of_handed hinit hwalk hm

/-- What a turn that comes to manifests writes is that they are resolved. -/
theorem resolved_of_mem_writes (hns : t.resource.metadata.ns = some ns)
    (hinit : (t.resource.status.getD .blank).initialized = false) (hm : t.Resolves m) {w : Write}
    (hw : w ∈ Effects.writes t.log) :
    w.status.Resolved ((t.resource.status.getD .blank).boundTemplate.getD t.resource.spec.template) := by
  obtain ⟨-, -, -, -, walked, hwalk, hstatus⟩ := Controller.of_mem_writes hns t.runs hw
  obtain ⟨hready, haccepted⟩ := unready_of_resolves hns hinit hm
  obtain ⟨looks, rest, found, -, -, hhanded, hresolved⟩ :=
    Pass.exists_resolution hinit hready haccepted hwalk
  rw [Resolves, hhanded, Option.mem_toList] at hm
  rw [hstatus]
  exact hresolved m hm

/-- It leaves a status from where a turn goes to machines. -/
theorem unready_of_leaves (hns : t.resource.metadata.ns = some ns) (hm : t.Resolves m)
    (h : t.Leaves after) (hafter : (after.getD .blank).initialized = false) :
    (after.getD .blank).ready = false ∧
      (t.pass ns).judge (after.getD .blank).boundTemplate = .ok () := by
  have hinit := waiting_of_leaves hns h hafter
  obtain ⟨hready, haccepted⟩ := unready_of_resolves hns hinit hm
  cases h with
  | kept hwrites => exact ⟨hready, haccepted⟩
  | @stored w hw f =>
    obtain ⟨-, -, -, hcheck, -⟩ := Controller.of_mem_writes hns t.runs hw
    have hordered := (Status.checkTransition_ok_iff.mp hcheck).2.2
    constructor
    · cases hset : w.status.ready with
      | false => exact hset
      | true =>
        have hjoined : w.status.initialized = false := hafter
        rw [hordered hset] at hjoined
        cases hjoined
    · have hbound := (resolved_of_mem_writes hns hinit hm hw).bound
      show (t.pass ns).judge w.status.boundTemplate = .ok ()
      rw [hbound]
      exact Pass.judge_bound haccepted

section Against

variable {σ : Type} {api : Api σ} {s s' : σ}

/-- The manifests that a turn comes to are those that the API holds at its start. -/
theorem resolves_at (hlaw : api.Lawful) (hns : IsName ns)
    (hnamespace : t.resource.metadata.ns = some ns)
    (hinit : (t.resource.status.getD .blank).initialized = false) (hplays : api.Plays t.log s s')
    (hm : t.Resolves m) : api.Resolves s ns t.resource.spec m := by
  obtain ⟨hready, haccepted⟩ := unready_of_resolves hnamespace hinit hm
  obtain ⟨looks, rest, found, hlog, hres, hhanded⟩ :=
    exists_resolution hnamespace hinit hready haccepted
  rw [Resolves, hhanded, Option.mem_toList] at hm
  subst hm
  exact resolves_of_resolution (p := t.pass ns) hlaw hns (Pass.isName_of_accepted haccepted) hplays
    hlog hres

/-- A turn that goes to machines, and whose look-ups are answered, comes to what the API holds
at its start. -/
theorem resolves_iff_at (hlaw : api.Lawful) (hns : IsName ns)
    (hnamespace : t.resource.metadata.ns = some ns)
    (hinit : (t.resource.status.getD .blank).initialized = false)
    (hready : (t.resource.status.getD .blank).ready = false)
    (haccepted : (t.pass ns).judge (t.resource.status.getD .blank).boundTemplate = .ok ())
    (hplays : api.Plays t.log s s') (hanswered : t.Answered) :
    t.Resolves m ↔ api.Resolves s ns t.resource.spec m := by
  refine ⟨resolves_at hlaw hns hnamespace hinit hplays, fun hm => ?_⟩
  obtain ⟨looks, rest, found, hlog, hres, hhanded⟩ :=
    exists_resolution hnamespace hinit hready haccepted
  have hlooks : ∀ e ∈ looks, ∃ a, e.2.outcome = .answered a := by
    refine fun e he => Outcome.exists_of_isAnswered (hanswered e ?_ (hres.isLookup e he))
    rw [hlog]
    exact List.mem_append_left _ he
  rw [Resolves, hhanded, Option.mem_toList]
  exact found_of_resolves (p := t.pass ns) hlaw hns (Pass.isName_of_accepted haccepted) hplays hlog
    hres hlooks hm

end Against

/-- The next turn goes to machines as the first one did. -/
theorem Again.resolves_iff_at {σ : Type} {api : Api σ} {s s' : σ} (hlaw : api.Lawful)
    (hfirst : first.Named ns) (h : first.Again next) (hm : first.Resolves m)
    (hplays : api.Plays next.log s s') (hanswered : next.Answered) {m' : Table String Bytes} :
    next.Resolves m' ↔ api.Resolves s ns first.resource.spec m' := by
  obtain ⟨hready, haccepted⟩ := unready_of_leaves hfirst.ns_eq hm h.stored h.waiting
  have haccepted' :
      (next.pass ns).judge (next.resource.status.getD .blank).boundTemplate = .ok () := by
    rw [Pass.judge_eq_ok_iff] at haccepted ⊢
    show specErrors next.resource.spec ns = some [] ∧
      checkTemplateUpdate _ next.resource.spec.template = _
    rw [h.spec]
    exact haccepted
  rw [← h.spec]
  exact Turn.resolves_iff_at hlaw hfirst.ns_isName (h.ns.trans hfirst.ns_eq) h.waiting hready
    haccepted' hplays hanswered

/-- **When the controller does not trip over its own writes.**  A turn comes to some
manifests, and then others and the next turn of the same resource follow, with no writes
but the controller's own.  The next turn comes to manifests again if and only if no secret of
inputs has come to be found by the selector, and to the same ones if and only if, besides, the
secrets that are found again still make them up. -/
theorem resolves_again_iff {σ : Type} {api : Api σ} {others : List Turn} {s₀ s₁ s₂ : σ}
    (hlaw : api.Lawful) (hfirst : first.Named ns) (hothers : ∀ t ∈ others, ∃ ns, t.Named ns)
    (hplayed : api.Played (first :: others) s₀ s₁) (hnext : api.Plays next.log s₁ s₂)
    (hagain : first.Again next) (hanswered : next.Answered) (hm : first.Resolves m) :
    ((∃ m', next.Resolves m') ↔
      ∀ selector, manifestsQuery first.resource.spec = .ok (some selector) →
        api.Undisturbed s₀ s₁ ns selector) ∧
    (next.Resolves m ↔
      ∀ selector, manifestsQuery first.resource.spec = .ok (some selector) →
        api.Undisturbed s₀ s₁ ns selector ∧
          Pass.collectManifests (namedSecrets (api.foundAgain s₀ s₁ ns selector)) = .ok m) := by
  have hover : api.Overwrites s₀ s₁ :=
    hplayed.overwrites hlaw (List.forall_mem_cons.mpr ⟨⟨ns, hfirst⟩, hothers⟩)
  have hinit := waiting_of_leaves hfirst.ns_eq hagain.stored hagain.waiting
  have hbefore : api.Resolves s₀ ns first.resource.spec m := by
    cases hplayed with
    | cons hplays _ => exact resolves_at hlaw hfirst.ns_isName hfirst.ns_eq hinit hplays hm
  have hafter : ∀ m', next.Resolves m' ↔ api.Resolves s₁ ns first.resource.spec m' :=
    fun _ => hagain.resolves_iff_at hlaw hfirst hm hnext hanswered
  rw [hafter, ← resolves_iff hover hbefore, ← exists_resolves_iff hover hbefore]
  exact ⟨exists_congr hafter, Iff.rfl⟩

end Turn

/-! ### A selector that finds the inputs

The API keeps the secret that is installed from, and the secret with the inputs once they
have been handed over. -/

namespace Demo

open Json

/-- The resource with a selector for all that bears the label of its cluster. -/
def selecting (status : Option Status) : Resource :=
  { resource status with spec :=
      ⟨template, ⟨"demo-install"⟩, some ⟨some (.ofList [(clusterLabel, "demo")]), none⟩⟩ }

/-- The inputs that are handed over, without manifests. -/
def inputs : InstallInputs :=
  { ns := "clusters", cluster := "demo", config := some [1], state := none, manifests := .empty }

def inputsName : String := Cluster.inputsSecret "demo"

def inputsStored : StoredSecret := ⟨.ofList [(clusterLabel, "demo")], inputs.secretData⟩

def installStored : StoredSecret := ⟨.empty, .ofList [(installConfigKey, [1])]⟩

/-- The secrets before and after the inputs were handed over. -/
def kept (handed : Bool) : Table String StoredSecret :=
  let install : Table String StoredSecret := .ofList [("demo-install", installStored)]
  if handed then install.insert inputsName inputsStored else install

/-- The query for all that bears the label of the cluster. -/
def labelQuery : List (String × String) := [("labelSelector", clusterLabel ++ "=demo")]

def accepts (query : List (String × String)) (labels : Labels) : Bool :=
  query = labelQuery && labels.get? clusterLabel = some "demo"

/-- The secrets that bear the label. -/
def labelled (handed : Bool) : Table String StoredSecret :=
  (kept handed).select fun secret => accepts labelQuery secret.labels

/-- A secret as the API gives it. -/
def secretObject (e : String × StoredSecret) : Json :=
  objectOf [field "data" (.obj (e.2.data.entries.map fun d =>
      (d.1, .str (String.ofList (Base64.encode d.2))))),
    field "metadata" <| objectOf [field "labels" (ofTexts e.2.labels), field "name" (.str e.1)]]

def secretList (t : Table String StoredSecret) : Json :=
  objectOf [field "items" (.arr (t.entries.map secretObject))]

def refused : Reply := ⟨400, ""⟩

/-- The API answers for the secrets of one namespace, and takes the inputs and every status. -/
def reply (r : Request) (handed : Bool) : Reply × Bool :=
  match r.method with
  | .get =>
    if r.path = ObjectType.secrets.path "clusters" then
      (if r.query = labelQuery then Scripted.ok (secretList (labelled handed)) else refused, handed)
    else
      match (kept handed).entries.find? fun e =>
          ObjectType.secrets.objectPath "clusters" e.1 = r.path with
      | some e => (Scripted.ok (secretObject e), handed)
      | none => (Scripted.notFound, handed)
  | .patch =>
    if r.path = ObjectType.secrets.objectPath "clusters" inputsName then
      if r.body.map appliedKeys = some inputs.secretData.keys then
        (Scripted.ok (secretObject (inputsName, inputsStored)), true)
      else (refused, handed)
    else (Scripted.someResource, handed)
  | .delete => (Scripted.deleted, handed)

def api : Api Bool where
  reply := reply
  secrets handed ns := if ns = "clusters" then kept handed else .empty
  accepts := accepts

theorem isName_clusters : IsName "clusters" := .of_all (by decide) (by decide)

theorem isName_demo : IsName "demo" := .of_all (by decide) (by decide)

theorem isName_inputsName : IsName inputsName := isName_demo.inputsSecret

/-- Every secret that is given is read as it is kept. -/
theorem read_secretObject (handed : Bool) : ∀ e ∈ (kept handed).entries,
    ((Scripted.ok (secretObject e)).read decodeSecret).toOption.map (·.2) = some e.2.data := by
  have hkept : ∀ e ∈ (kept handed).entries, e ∈ (kept true).entries := by
    cases handed <;> decide
  suffices hall : ∀ e ∈ (kept true).entries,
      ((Scripted.ok (secretObject e)).read decodeSecret).toOption.map (·.2) = some e.2.data from
    fun e he => hall e (hkept e he)
  simp only [read_ok]
  decide +kernel

theorem read_secretList (handed : Bool) :
    ((Scripted.ok (secretList (labelled handed))).read (decodeItems decodeSecret)).toOption.map
      (·.map namedSecret) = some (namedSecrets (labelled handed)) := by
  simp only [read_ok]
  revert handed
  decide +kernel

theorem mem_kept_of_get? {ns name : String} {handed : Bool} {secret : StoredSecret}
    (h : (api.secrets handed ns).get? name = some secret) :
    ns = "clusters" ∧ (name, secret) ∈ (kept handed).entries := by
  unfold api at h
  dsimp only at h
  split at h
  · rename_i hns
    exact ⟨hns, Table.get?_eq_some_iff.mp h⟩
  · cases h

/-- A request for a secret is answered with the one that is kept, if there is one. -/
theorem reply_get {ns : String} (name : String) (query : List (String × String)) (handed : Bool)
    (hns : IsName ns) :
    (∃ secret, (api.secrets handed ns).get? name = some secret ∧
        reply ⟨.get, ObjectType.secrets.objectPath ns name, query, none, none⟩ handed =
          (Scripted.ok (secretObject (name, secret)), handed)) ∨
      ((api.secrets handed ns).get? name = none ∧
        reply ⟨.get, ObjectType.secrets.objectPath ns name, query, none, none⟩ handed =
          (Scripted.notFound, handed)) := by
  unfold reply
  dsimp only
  rw [if_neg fun heq => path_ne_objectPath isName_clusters hns heq.symm]
  split
  · rename_i e hfind
    obtain ⟨rfl, rfl⟩ := objectPath_inj isName_clusters hns (by simpa using List.find?_some hfind)
    exact .inl ⟨e.2, Table.get?_eq_some_iff.mpr (List.mem_of_find?_eq_some hfind), rfl⟩
  · rename_i hnone
    refine .inr ⟨?_, rfl⟩
    cases hget : (api.secrets handed ns).get? name with
    | none => rfl
    | some secret =>
      obtain ⟨rfl, hmem⟩ := mem_kept_of_get? hget
      simpa using List.find?_eq_none.mp hnone _ hmem

/-- What the inputs are written to is kept from then on. -/
theorem get?_kept_true (handed : Bool) (name : String) :
    (kept true).get? name = if name = inputsName then some inputsStored else (kept handed).get? name := by
  by_cases h : name = inputsName
  · cases handed <;> simp [kept, Table.get?_insert, h]
  · cases handed <;> simp [kept, Table.get?_insert, h]

theorem lawful : api.Lawful where
  spared r handed hspares := by
    show (fun ns => if ns = "clusters" then kept (reply r handed).2 else .empty) = _
    suffices hsame : (reply r handed).2 = handed by rw [hsame]; rfl
    unfold reply
    split
    · split
      · rfl
      · split <;> rfl
    · rename_i hmethod
      rw [if_neg]
      rintro hpath
      rcases hspares with hget | hforeign
      · rw [hmethod] at hget
        cases hget
      · rw [hpath, toList_objectPath] at hforeign
        have hgroup := List.prefix_of_prefix_length_le hforeign (List.prefix_append _ _) (by decide)
        revert hgroup
        decide
    · rfl
  found {ns name query handed secret} hns _ hread := by
    change (reply _ handed).1.read decodeSecret = _ at hread
    rcases reply_get name query handed hns with
      ⟨stored, hget, hreply⟩ | ⟨-, hreply⟩
    · rw [hreply] at hread
      have hdata := read_secretObject handed _ (mem_kept_of_get? hget).2
      rw [hread] at hdata
      rw [hget]
      exact hdata.symm
    · rw [hreply] at hread
      exact absurd hread (read_ne_ok (r := Scripted.notFound) (by decide))
  missing {ns name query handed fault} hns _ hread _ := by
    change (reply _ handed).1.read decodeSecret = _ at hread
    rcases reply_get name query handed hns with
      ⟨stored, hget, hreply⟩ | ⟨hnone, -⟩
    · rw [hreply] at hread
      have hdata := read_secretObject handed _ (mem_kept_of_get? hget).2
      rw [hread] at hdata
      cases hdata
    · exact hnone
  listed {ns query handed secrets} hns hread := by
    change (reply _ handed).1.read (decodeItems decodeSecret) = _ at hread
    unfold reply at hread
    dsimp only at hread
    split at hread
    · rename_i hpath
      obtain rfl := path_inj hns isName_clusters hpath
      split at hread
      · rename_i hquery
        subst hquery
        have hlist := read_secretList handed
        rw [hread] at hlist
        exact Option.some.inj hlist
      · exact absurd hread (read_ne_ok (r := refused) (by decide))
    · split at hread
      · rename_i e hfind
        have hpath : ObjectType.secrets.objectPath "clusters" e.1 = ObjectType.secrets.path ns := by
          simpa using List.find?_some hfind
        exact absurd hpath.symm (path_ne_objectPath hns isName_clusters)
      · exact absurd hread (read_ne_ok (r := Scripted.notFound) (by decide))
  applied {ns name query object handed handed'} hns _ hafter := by
    change handed' = (reply _ handed).2 at hafter
    unfold reply at hafter
    dsimp only at hafter
    split at hafter
    · rename_i hpath
      obtain ⟨rfl, rfl⟩ := objectPath_inj hns isName_clusters hpath
      split at hafter
      · rename_i hkeys
        subst hafter
        refine .inr ⟨inputsStored, fun key hkey => ?_, fun ns' name' => ?_⟩
        · rw [Option.some.inj hkeys] at hkey
          revert key
          decide
        · by_cases hns' : ns' = "clusters"
          · subst hns'
            exact (get?_kept_true handed name').trans (by simp [api])
          · simp [api, hns']
      · subst hafter
        exact .inl rfl
    · subst hafter
      exact .inl rfl

/-! The two turns -/

/-- The selector for the label, as a pass lists with it. -/
def clusterSelector : Selector := ⟨[.equal clusterLabel "demo"]⟩

theorem exists_of_toOption {α β ε : Type} {x : Except ε α} {f : α → β} {b : β}
    (h : x.toOption.map f = some b) : ∃ a, x = .ok a ∧ f a = b := by
  cases x with
  | ok a => exact ⟨a, rfl, Option.some.inj h⟩
  | error e => cases h

theorem run_getSecret (handed : Bool) :
    (perform (.getSecret "clusters" "demo-install")).run api.reply handed =
      (.ok (some installStored.data), handed) := by
  have htarget : Target.ofUrl? (urlOf (ObjectType.secrets.objectPath "clusters" "demo-install") none) =
      some ⟨ObjectType.secrets.objectPath "clusters" "demo-install", []⟩ :=
    ObjectType.fits_secrets.target_objectPath isName_clusters
      (.of_all (by decide) (by decide)) (by decide)
  have hstored : (api.secrets handed "clusters").get? "demo-install" = some installStored := by
    cases handed <;> decide
  obtain ⟨stored, hget, hreply⟩ | ⟨hnone, -⟩ :=
    reply_get "demo-install" [] handed isName_clusters
  · rw [hstored] at hget
    cases hget
    obtain ⟨secret, hread, hdata⟩ :=
      exists_of_toOption (read_secretObject handed _ (mem_kept_of_get? hstored).2)
    have hfound : (Client.get? .secrets "clusters" "demo-install" decodeSecret).run.run api.reply
        handed = (.ok (some secret), handed) := by
      unfold Client.get? Client.named
      rw [if_neg (by decide)]
      have hsent : (Client.send .get (ObjectType.secrets.objectPath "clusters" "demo-install") none none
          none decodeSecret).run.run api.reply handed = (.ok secret, handed) :=
        run_send_of_read htarget hreply hread
      show Program.run api.reply (Program.bind _ _) handed = _
      rw [Program.run_bind, hsent]
      rfl
    have hanswer : (getSecret "clusters" "demo-install").run.run api.reply handed =
        (.ok (some secret.2), handed) := run_client_bind_of_ok hfound
    rw [hdata] at hanswer
    exact run_asCollaborator_of_ok hanswer
  · rw [hstored] at hnone
    cases hnone

theorem run_listSecrets (handed : Bool) :
    (perform (.listSecrets "clusters" clusterSelector)).run api.reply handed =
      (.ok (namedSecrets (labelled handed)), handed) := by
  have htarget : Target.ofUrl? (urlOf (ObjectType.secrets.path "clusters")
      (some [("labelSelector", clusterSelector.text)])) =
        some ⟨ObjectType.secrets.path "clusters", labelQuery⟩ := by
    have hform : "clusters".length + (formOf (some [("labelSelector", clusterSelector.text)])).length ≤
        16000 ∧ parameters (formOf (some [("labelSelector", clusterSelector.text)])) = labelQuery := by
      decide +kernel
    rw [ObjectType.fits_secrets.target_path isName_clusters hform.1, hform.2]
  obtain ⟨secrets, hread, hnamed⟩ := exists_of_toOption (read_secretList handed)
  have hlist : (Client.list .secrets "clusters" clusterSelector.text decodeSecret).run.run api.reply
      handed = (.ok secrets, handed) := by
    have hreply : api.reply ⟨.get, ObjectType.secrets.path "clusters", labelQuery, none, none⟩
        handed = (Scripted.ok (secretList (labelled handed)), handed) := by
      simp [api, reply]
    exact run_send_of_read htarget hreply hread
  have hanswer : (listSecrets "clusters" clusterSelector).run.run api.reply handed =
      (.ok (secrets.map namedSecret), handed) := run_client_bind_of_ok hlist
  rw [hnamed] at hanswer
  exact run_asCollaborator_of_ok hanswer

theorem run_generateBootConfig (handed : Bool) :
    (perform (.generateBootConfig inputs)).run api.reply handed = (.ok inputsName, true) := by
  have htarget : Target.ofUrl? (urlOf (ObjectType.secrets.objectPath "clusters" inputsName)
      (some [("force", "true"), ("fieldManager", Client.fieldManager)])) =
        some ⟨ObjectType.secrets.objectPath "clusters" inputsName,
          [("force", "true"), ("fieldManager", Client.fieldManager)]⟩ := by
    have hform : "clusters".length + inputsName.length +
        (formOf (some [("force", "true"), ("fieldManager", Client.fieldManager)])).length ≤ 16000 ∧
          parameters (formOf (some [("force", "true"), ("fieldManager", Client.fieldManager)])) =
            [("force", "true"), ("fieldManager", Client.fieldManager)] := by
      decide +kernel
    rw [ObjectType.fits_secrets.target_objectPath isName_clusters isName_inputsName hform.1, hform.2]
  have hreply : api.reply ⟨.patch, ObjectType.secrets.objectPath "clusters" inputsName,
      [("force", "true"), ("fieldManager", Client.fieldManager)],
      some "application/apply-patch+yaml", some (inputsObject inputs)⟩ handed =
        (Scripted.ok (secretObject (inputsName, inputsStored)), true) := by
    simp [api, reply, appliedKeys_inputsObject]
  obtain ⟨secret, hread, -⟩ :=
    exists_of_toOption (read_secretObject true (inputsName, inputsStored) (by decide))
  have happly : (Client.apply .secrets "clusters" inputsName (inputsObject inputs) decodeSecret).run.run
      api.reply handed = (.ok (), true) := by
    unfold Client.apply Client.named
    rw [if_neg (by simpa using isName_inputsName.1)]
    exact run_client_bind_of_ok (run_send_of_read htarget hreply hread)
  have hanswer : (generateBootConfig inputs).run.run api.reply handed = (.ok inputsName, true) :=
    run_client_bind_of_ok happly
  exact run_asCollaborator_of_ok hanswer

theorem run_writeStatus (status : Status) (handed : Bool) :
    (writeStatus "clusters" "demo" status).run api.reply handed = (.ok (), handed) := by
  have htarget : Target.ofUrl? (urlOf (ObjectType.controlPlanes.objectPath "clusters" "demo" ++ "/status")
      (some [])) =
        some ⟨ObjectType.controlPlanes.objectPath "clusters" "demo" ++ "/status", []⟩ := by
    refine Target.ofUrl?_urlOf ?_ ?_
    · rw [String.toList_append, List.all_append,
        ObjectType.fits_controlPlanes.all_objectPath isName_clusters isName_demo]
      decide
    · simp only [ObjectType.objectPath, ObjectType.path, String.length_append]
      decide
  have hpath : ObjectType.controlPlanes.objectPath "clusters" "demo" ++ "/status" ≠
      ObjectType.secrets.objectPath "clusters" inputsName := by
    refine ne_of_apply_ne String.toList ?_
    simp only [ObjectType.objectPath, ObjectType.path, ObjectType.controlPlanes, ObjectType.secrets,
      String.toList_append]
    decide
  have hreply : api.reply ⟨.patch, ObjectType.controlPlanes.objectPath "clusters" "demo" ++ "/status",
      [], some "application/merge-patch+json", some (statusChange status)⟩ handed =
        (Scripted.someResource, handed) := by
    simp [api, reply, hpath]
  have hread : (Scripted.someResource.read Resource.decode).toOption.isSome = true := by
    unfold Scripted.someResource
    rw [read_ok]
    decide +kernel
  cases hresource : Scripted.someResource.read Resource.decode with
  | error fault =>
    rw [hresource] at hread
    cases hread
  | ok resource =>
    have hmerge : (Client.mergeStatus .controlPlanes "clusters" "demo" (statusChange status)
        Resource.decode).run.run api.reply handed = (.ok (), handed) := by
      unfold Client.mergeStatus Client.named
      rw [if_neg (by decide)]
      exact run_client_bind_of_ok (run_send_of_read htarget hreply hresource)
    unfold writeStatus
    rw [Program.run_bind, hmerge]
    rfl

/-- How the API answers the calls of the two turns, and each write; nothing else is in time. -/
def answer : (e : Effect) → Bool → e.Reply × Bool
  | .call (.getSecret ns name) _, handed =>
    if ns = "clusters" ∧ name = "demo-install" then
      (⟨.answered (some installStored.data), ⟨0, 0⟩⟩, handed)
    else (⟨.timedOut, ⟨0, 0⟩⟩, handed)
  | .call (.listSecrets ns selector) _, handed =>
    if ns = "clusters" ∧ selector = clusterSelector then
      (⟨.answered (namedSecrets (labelled handed)), ⟨0, 0⟩⟩, handed)
    else (⟨.timedOut, ⟨0, 0⟩⟩, handed)
  | .call (.generateBootConfig i) _, handed =>
    if i = inputs then (⟨.answered inputsName, ⟨0, 0⟩⟩, true) else (⟨.timedOut, ⟨0, 0⟩⟩, handed)
  | .call _ _, handed => (⟨.timedOut, ⟨0, 0⟩⟩, handed)
  | .writeStatus ns name status, handed =>
    if ns = "clusters" ∧ name = "demo" then (⟨.ok (), ⟨0, 0⟩⟩, handed)
    else (⟨((writeStatus ns name status).run api.reply handed).1, ⟨0, 0⟩⟩,
      ((writeStatus ns name status).run api.reply handed).2)

theorem carried_answer (c : Call) (budget : Duration) (handed : Bool) :
    Carried api (perform c) handed (answer (.call c budget) handed).1.outcome
      (answer (.call c budget) handed).2 := by
  cases c with
  | getSecret ns name =>
    unfold answer
    dsimp only
    split
    · rename_i h
      obtain ⟨rfl, rfl⟩ := h
      exact .answered (run_getSecret handed)
    · exact .timedOut (.stopped _ _)
  | listSecrets ns selector =>
    unfold answer
    dsimp only
    split
    · rename_i h
      obtain ⟨rfl, rfl⟩ := h
      exact .answered (run_listSecrets handed)
    · exact .timedOut (.stopped _ _)
  | generateBootConfig i =>
    unfold answer
    dsimp only
    split
    · rename_i h
      subst h
      exact .answered (run_generateBootConfig handed)
    · exact .timedOut (.stopped _ _)
  | _ => exact .timedOut (.stopped _ _)

theorem run_answer (ns name : String) (status : Status) (handed : Bool) :
    (writeStatus ns name status).run api.reply handed =
      ((answer (.writeStatus ns name status) handed).1.result,
        (answer (.writeStatus ns name status) handed).2) := by
  unfold answer
  dsimp only
  split
  · rename_i h
    obtain ⟨rfl, rfl⟩ := h
    exact run_writeStatus status handed
  · rfl

/-- A turn of the resource, from a state of the API. -/
def turn (status : Option Status) (handed : Bool) : Turn where
  controller := .start .standard
  resource := selecting status
  start := ⟨0, 0⟩
  log := ((Controller.start .standard).reconcile (selecting status) ⟨0, 0⟩).trace answer handed
  result := (((Controller.start .standard).reconcile (selecting status) ⟨0, 0⟩).run answer handed).1
  runs := Program.runs_trace _ _ _

/-- The state of the API after a turn. -/
def afterTurn (status : Option Status) (handed : Bool) : Bool :=
  (((Controller.start .standard).reconcile (selecting status) ⟨0, 0⟩).run answer handed).2

theorem plays_turn (status : Option Status) (handed : Bool) :
    api.Plays (turn status handed).log handed (afterTurn status handed) :=
  Api.plays_trace carried_answer run_answer _ _

/-- The first turn hands over inputs without manifests, and the second one, from what the first
has written, none at all. -/
def stumble? : Option Bool := do
  let w ← (Effects.writes (turn none false).log).head?
  let next := turn (some (w.status.withTimes id)) true
  some (afterTurn none false && handed (Effects.calls (turn none false).log) = [.empty] &&
    !w.status.initialized && handed (Effects.calls next.log) = [] &&
    (Effects.calls next.log).all fun e => !e.1.isLookup || e.2.outcome.isAnswered)

/-- A turn that comes to manifests, and the next one that does not. -/
theorem exists_stumble : ∃ first next s, first.Named "clusters" ∧ api.Played [first] false true ∧
    api.Plays next.log true s ∧ first.Again next ∧ next.Answered ∧ first.Resolves .empty ∧
      ∀ m, ¬ next.Resolves m := by
  have hstumble : stumble? = some true := by decide +kernel
  unfold stumble? at hstumble
  simp only [Option.bind_eq_bind, Option.bind_eq_some_iff, Option.some.injEq, Bool.and_eq_true,
    decide_eq_true_eq, Bool.not_eq_true', List.all_eq_true, Bool.or_eq_true] at hstumble
  obtain ⟨w, hw, ⟨⟨⟨hafter, hfirst⟩, hwaiting⟩, hnext⟩, hanswered⟩ := hstumble
  have hplays := plays_turn none false
  rw [hafter] at hplays
  refine ⟨turn none false, turn (some (w.status.withTimes id)) true, _,
    ⟨rfl, isName_clusters, isName_demo⟩, .cons hplays (.nil true), plays_turn _ _,
    ⟨rfl, rfl, rfl, .stored (List.mem_of_mem_head? hw) id, hwaiting⟩, fun e he hlookup => ?_, ?_,
    fun m hm => ?_⟩
  · rcases hanswered e he with h | h
    · rw [hlookup] at h
      cases h
    · exact h
  · rw [Turn.Resolves, hfirst]
    exact List.mem_singleton_self _
  · rw [Turn.Resolves, hnext] at hm
    cases hm

end Demo

namespace Turn

/-- The next turn may come to no manifests at all, although nothing but the controller's own
writes has happened. -/
theorem stumbles_over_inputs :
    ∃ (σ : Type) (api : Api σ) (first next : Turn) (s₀ s₁ s₂ : σ) (m : Table String Bytes),
      api.Lawful ∧ first.Named "clusters" ∧ api.Played [first] s₀ s₁ ∧
        api.Plays next.log s₁ s₂ ∧ first.Again next ∧ next.Answered ∧ first.Resolves m ∧
          ∀ m', ¬ next.Resolves m' := by
  obtain ⟨first, next, s, hfirst, hplayed, hnext, hagain, hanswered, hm, hnone⟩ :=
    Demo.exists_stumble
  exact ⟨Bool, Demo.api, first, next, false, true, s, .empty, Demo.lawful, hfirst, hplayed, hnext,
    hagain, hanswered, hm, hnone⟩

/-- There the inputs have come to be found. -/
theorem resolves_again_iff_inputs :
    ∃ first next : Turn, first.Again next ∧ first.Resolves .empty ∧
      ¬ ∀ selector, manifestsQuery first.resource.spec = .ok (some selector) →
        Demo.api.Undisturbed false true "clusters" selector := by
  obtain ⟨first, next, s, hfirst, hplayed, hnext, hagain, hanswered, hm, hnone⟩ :=
    Demo.exists_stumble
  refine ⟨first, next, hagain, hm, fun hundisturbed => ?_⟩
  have hiff := resolves_again_iff Demo.lawful hfirst (by simp) hplayed hnext hagain hanswered hm
  obtain ⟨m, hagain⟩ := hiff.1.mpr hundisturbed
  exact hnone m hagain

end Turn

end ControlPlane
