/-
Which machines count as joined.

The machines of a cluster are found again by their labels, while their template may bring
labels of its own, also under the same keys.  A machine is labelled after its template, so its
own labels stay whatever the template says; that holds of every machine that was made, and
statuses that come and go do not touch it.  `Populated` says which states of the API are
spoken of, and the invariant goes along its steps.

The query asks for the label of the cluster and for that of the role, and a machine that has
both is a master of the cluster, whose name says so.
-/
import ControlPlane.Proofs.Creation

namespace ControlPlane.Kubernetes

open Program (Reaches)

/-! ### The writer -/

theorem labelsOf_machineObject (r : MachineSetRequest) (role : MachineRole) (name : String) :
    labelsOf (machineObject r role name) = machineLabels r role := by
  have hlabels : ((machineObject r role name).get? "metadata").bind (Json.get? "labels") =
      some (Json.ofTexts (machineLabels r role)) := rfl
  have hread : labelOf? ∘ (fun e : String × String => (e.1, Json.str e.2)) = some := rfl
  unfold labelsOf
  rw [hlabels, Json.ofTexts]
  dsimp only
  rw [List.filterMap_map, hread, List.filterMap_some, Table.ofList_entries]

/-- A template cannot say which cluster a machine belongs to. -/
theorem get?_clusterLabel (r : MachineSetRequest) (role : MachineRole) :
    (machineLabels r role).get? clusterLabel = some r.cluster := by
  rw [machineLabels, Table.get?_insertMany]
  rfl

/-- Nor what it is for. -/
theorem get?_roleLabel (r : MachineSetRequest) (role : MachineRole) :
    (machineLabels r role).get? roleLabel = some role.text := by
  rw [machineLabels, Table.get?_insertMany]
  rfl

/-! ### The reader -/

theorem roleQuery_eq (cluster : String) (role : MachineRole) :
    roleQuery cluster role = equalitiesText [(clusterLabel, cluster), (roleLabel, role.text)] := by
  refine String.toList_inj.mp ?_
  rw [equalitiesText, String.toList_intercalate]
  simp [roleQuery, List.intercalate]

theorem length_roleQuery_le (cluster : String) (role : MachineRole) :
    (roleQuery cluster role).length ≤ cluster.length + 100 := by
  have hkeys : clusterLabel.length + roleLabel.length ≤ 80 := by decide
  have hrole : role.text.length ≤ 9 := by cases role <;> decide
  have hmarks : "=".length = 1 ∧ ",".length = 1 := ⟨rfl, rfl⟩
  simp only [roleQuery, String.length_append, hmarks]
  omega

theorem isLabelText_clusterLabel : IsLabelText clusterLabel := .of_all (by decide) (by decide)

theorem isLabelText_roleLabel : IsLabelText roleLabel := .of_all (by decide) (by decide)

theorem isLabelText_role (role : MachineRole) : IsLabelText role.text := by
  cases role <;> exact .of_all (by decide) (by decide)

theorem MachineRole.text_inj {a b : MachineRole} (h : a.text = b.text) : a = b := by
  cases a <;> cases b <;> first | rfl | exact absurd h (by decide)

section Reader

variable {σ : Type} {api : MachineApi σ} {ns cluster : String} {s s' : σ}

/-- A query finds the machines of its cluster that have its role. -/
theorem accepts_machineLabels_iff (hlaw : api.Lawful) (hcluster : IsName cluster)
    {r : MachineSetRequest} {role role' : MachineRole} :
    api.accepts [("labelSelector", roleQuery cluster role)] (machineLabels r role') = true ↔
      r.cluster = cluster ∧ role' = role := by
  have htexts : ∀ e ∈ [(clusterLabel, cluster), (roleLabel, role.text)],
      IsLabelText e.1 ∧ IsLabelText e.2 := by
    simp [isLabelText_clusterLabel, isLabelText_roleLabel, isLabelText_role, hcluster.isLabelText]
  rw [roleQuery_eq, hlaw.selects htexts]
  simp only [List.forall_mem_cons, List.not_mem_nil, false_imp_iff, forall_const, and_true,
    get?_clusterLabel, get?_roleLabel, Option.some.injEq]
  exact and_congr_right fun _ => ⟨MachineRole.text_inj, congrArg MachineRole.text⟩

/-- An answered list was read of the reply to the one request for it. -/
theorem read_of_run_list {reply : Request → σ → Reply × σ} {query : String} {items : List Json}
    (hns : IsName ns)
    (h : (Client.list .machines ns query decodeObject).run.run reply s = (.ok items, s')) :
    (reply ⟨.get, ObjectType.machines.path ns, [("labelSelector", query)], none, none⟩ s).1.read
      (decodeItems decodeObject) = .ok items := by
  unfold Client.list Client.send at h
  split at h
  · cases h
  · rename_i target htarget
    rw [Target.path_eq (ObjectType.fits_machines.stays_path hns) htarget,
      Target.query_eq (ObjectType.fits_machines.all_path hns) htarget] at h
    exact congrArg Prod.fst h

/-- A list is answered if the names are not too long and its reply can be read. -/
theorem run_list_of_read {reply : Request → σ → Reply × σ} {query : String} {items : List Json}
    (hns : IsName ns) (hlen : ns.length + 12 * query.length ≤ 15000)
    (hread : (reply ⟨.get, ObjectType.machines.path ns, [("labelSelector", query)], none, none⟩ s).1.read
      (decodeItems decodeObject) = .ok items) :
    ∃ s', (Client.list .machines ns query decodeObject).run.run reply s = (.ok items, s') := by
  have hform : (formOf (some [("labelSelector", query)])).length ≤ 12 * query.length + 200 := by
    have hname := length_formText_le "labelSelector"
    have hvalue := length_formText_le query
    have hlabel : "labelSelector".length = 13 := rfl
    simp only [formOf, List.flatMap_cons, List.flatMap_nil, List.append_nil, List.length_append,
      List.length_cons]
    omega
  have htarget : Target.ofUrl? (urlOf (ObjectType.machines.path ns) (some [("labelSelector", query)])) =
      some ⟨ObjectType.machines.path ns, [("labelSelector", query)]⟩ := by
    rw [ObjectType.fits_machines.target_path hns (by omega), parameters_formOf]
  exact ⟨_, run_send_of_read htarget rfl hread⟩

end Reader

/-! ### What a namespace comes to -/

namespace MachineApi

variable {σ : Type} {api : MachineApi σ} {ns cluster name : String} {object : Json} {s s' : σ}

/-- A namespace that had no machines at first, after any calls for machines, each to whatever
end, and any reports on them.  A report may say anything in a status, and may be that a machine
is gone. -/
inductive Populated (api : MachineApi σ) (ns : String) : σ → Prop where
  | empty {s : σ}
      (h : ∀ name, IsName name → api.kept s (ObjectType.machines.objectPath ns name) = none) :
      Populated api ns s
  | ensured {r : MachineSetRequest} {s s' : σ} (before : Populated api ns s) (hns : IsName r.ns)
      (hcluster : IsName r.cluster) (h : Reaches api.reply (perform (.ensureMachines r)) s s') :
      Populated api ns s'
  | reported {s s' : σ} (before : Populated api ns s)
      (h : ∀ name object', IsName name →
        api.kept s' (ObjectType.machines.objectPath ns name) = some object' →
          ∃ object, api.kept s (ObjectType.machines.objectPath ns name) = some object ∧
            ∀ key, key ≠ "status" → object'.get? key = object.get? key) :
      Populated api ns s'

/-- Every machine bears the labels that some request gave to it. -/
theorem Populated.labelled (hlaw : api.Lawful) (hns : IsName ns) (hpop : api.Populated ns s)
    (hname : IsName name)
    (hkept : api.kept s (ObjectType.machines.objectPath ns name) = some object) :
    ∃ r : MachineSetRequest, ∃ machine ∈ r.machines, machine.2 = name ∧
      labelsOf object = machineLabels r machine.1 := by
  induction hpop generalizing object with
  | empty h =>
    rw [h name hname] at hkept
    cases hkept
  | @ensured r s s' before hrns hcluster hreach ih =>
    obtain ⟨n, hsome⟩ := reaches_ensureEach (hlaw.keeps hrns hcluster) (reaches_of_asCollaborator hreach)
    have hmade := hasMade_of_completed hsome
    cases hbefore : api.kept s (ObjectType.machines.objectPath ns name) with
    | some object' =>
      have hsame := hmade.unchanged _ _ hbefore
      rw [hkept] at hsame
      cases hsame
      exact ih hbefore
    | none =>
      -- what has come is a machine of the request, and its place tells its name
      obtain ⟨machine, hmachine, hplace, rfl⟩ := hmade.created _ _ hbefore hkept
      have hmem := List.mem_of_mem_take hmachine
      have hmachineName := (isName_of_mem_machines hcluster machine hmem).1
      rw [machinePlace_eq hrns hmachineName] at hplace
      exact ⟨r, machine, hmem, (objectPath_inj hns hrns hplace).2.symm,
        (hlaw.labelled _).trans (labelsOf_machineObject r machine.1 machine.2)⟩
  | reported before h ih =>
    obtain ⟨object', hbefore, hsame⟩ := h name object hname hkept
    have hlabels : labelsOf object = labelsOf object' := by
      unfold labelsOf
      rw [hsame "metadata" (by decide)]
    rw [hlabels]
    exact ih hbefore

/-- The status of a machine refers to a node. -/
def Joined (object : Json) : Prop :=
  ∃ status node, object.get? "status" = some status ∧ status.get? "nodeRef" = some node ∧
    node ≠ .null

theorem hasNode_iff : hasNode object = true ↔ Joined object := by
  unfold hasNode Joined
  cases hstatus : object.get? "status" with
  | none => simp
  | some status =>
    cases hnode : status.get? "nodeRef" with
    | none => simp [hnode]
    | some node => cases node <;> simp [hnode]

/-- Some master of a cluster has joined. -/
def MasterJoined (api : MachineApi σ) (s : σ) (ns cluster : String) : Prop :=
  ∃ i object, api.kept s (ObjectType.machines.objectPath ns (Cluster.controlPlaneMachine cluster i)) =
    some object ∧ Joined object

/-- A list for the masters of a cluster tells whether some of them has joined. -/
theorem any_hasNode_iff (hlaw : api.Lawful) (hns : IsName ns) (hcluster : IsName cluster)
    (hpop : api.Populated ns s) {items : List Json}
    (hread : (api.reply ⟨.get, ObjectType.machines.path ns,
      [("labelSelector", roleQuery cluster .master)], none, none⟩ s).1.read
        (decodeItems decodeObject) = .ok items) :
    items.any hasNode = true ↔ api.MasterJoined s ns cluster := by
  have hlisted := hlaw.listed hns hread
  rw [List.any_eq_true]
  constructor
  · -- an item tells no name, so it is the labels that say whose machine it is
    rintro ⟨item, hitem, hnode⟩
    obtain ⟨status, node, hstatus, hnode⟩ := hasNode_iff.mp hnode
    obtain ⟨name, object, hname, hkept, haccepts, hsame⟩ := (hlisted _).mp ⟨item, hitem, hstatus⟩
    obtain ⟨r, machine, hmachine, rfl, hlabels⟩ := hpop.labelled hlaw hns hname hkept
    rw [hlabels, accepts_machineLabels_iff hlaw hcluster] at haccepts
    obtain ⟨i, hi⟩ := (MachineSetRequest.isMaster_iff hmachine).mp haccepts
    rw [hi] at hkept
    exact ⟨i, object, hkept, status, node, hsame, hnode⟩
  · rintro ⟨i, object, hkept, status, node, hstatus, hnode⟩
    obtain ⟨r, machine, hmachine, hname, hlabels⟩ :=
      hpop.labelled hlaw hns (hcluster.controlPlaneMachine i) hkept
    have haccepts : api.accepts [("labelSelector", roleQuery cluster .master)] (labelsOf object) =
        true := by
      rw [hlabels, accepts_machineLabels_iff hlaw hcluster]
      exact (MachineSetRequest.isMaster_iff hmachine).mpr ⟨i, hname⟩
    obtain ⟨item, hitem, hsame⟩ :=
      (hlisted _).mpr ⟨_, object, hcluster.controlPlaneMachine i, hkept, haccepts, hstatus⟩
    exact ⟨item, hitem, hasNode_iff.mpr ⟨status, node, hsame, hnode⟩⟩

theorem masterJoined_congr {t : σ} (h : ∀ i,
    api.kept t (ObjectType.machines.objectPath ns (Cluster.controlPlaneMachine cluster i)) =
      api.kept s (ObjectType.machines.objectPath ns (Cluster.controlPlaneMachine cluster i))) :
    api.MasterJoined t ns cluster ↔ api.MasterJoined s ns cluster := by
  unfold MasterJoined
  simp only [h]

/-- **Only a joined master of the same cluster counts.**  In a namespace that calls for the
machines of any clusters have populated, whatever labels their templates bring, and on whose
machines anything has been reported since, a call that is answered tells whether some master of
the cluster has joined.  It is answered if its list can be read.  So it does not matter what
else there is: two such namespaces with the same masters of the cluster get the same answer. -/
theorem controlPlaneJoined_iff (hlaw : api.Lawful) (hns : IsName ns) (hcluster : IsName cluster)
    (hpop : api.Populated ns s) :
    (∀ b s', (perform (.controlPlaneJoined ns cluster)).run api.reply s = (.ok b, s') →
      (b = true ↔ api.MasterJoined s ns cluster)) ∧
    (ns.length ≤ 253 → cluster.length ≤ 253 →
      (∃ items, (api.reply ⟨.get, ObjectType.machines.path ns,
        [("labelSelector", roleQuery cluster .master)], none, none⟩ s).1.read
          (decodeItems decodeObject) = .ok items) →
      ∃ b s', (perform (.controlPlaneJoined ns cluster)).run api.reply s = (.ok b, s')) ∧
    ∀ t, api.Populated ns t → (∀ i,
        api.kept t (ObjectType.machines.objectPath ns (Cluster.controlPlaneMachine cluster i)) =
          api.kept s (ObjectType.machines.objectPath ns (Cluster.controlPlaneMachine cluster i))) →
      ∀ b b' s' t', (perform (.controlPlaneJoined ns cluster)).run api.reply s = (.ok b, s') →
        (perform (.controlPlaneJoined ns cluster)).run api.reply t = (.ok b', t') → b' = b := by
  have htells : ∀ {s s' : σ} {b : Bool}, api.Populated ns s →
      (perform (.controlPlaneJoined ns cluster)).run api.reply s = (.ok b, s') →
        (b = true ↔ api.MasterJoined s ns cluster) := by
    intro s s' b hpop hrun
    obtain ⟨items, s'', hlist, hanswer⟩ := run_client_bind (run_of_asCollaborator hrun)
    cases hanswer
    exact any_hasNode_iff hlaw hns hcluster hpop (read_of_run_list hns hlist)
  refine ⟨fun b s' => htells hpop, fun hlen hlen' hread => ?_,
    fun t hpop' hsame b b' s' t' hrun hrun' => ?_⟩
  · obtain ⟨items, hitems⟩ := hread
    have hquery := length_roleQuery_le cluster .master
    obtain ⟨s', hlist⟩ := run_list_of_read hns (by omega) hitems
    exact ⟨_, s', run_asCollaborator_of_ok (run_client_bind_of_ok hlist)⟩
  · have hboth : b' = true ↔ b = true :=
      ((htells hpop' hrun').trans (masterJoined_congr hsame)).trans (htells hpop hrun).symm
    exact Bool.eq_iff_iff.mpr hboth

end MachineApi

namespace MachineStore

/-- Machines become nodes, and nodes are taken down. -/
theorem populated_joined {ns : String} {s : MachineStore} (h : api.Populated ns s)
    (paths : List String) : api.Populated ns { s with joined := paths } := by
  refine .reported h fun name object' _ hkept => ?_
  obtain ⟨stored, hget, rfl⟩ := Option.map_eq_some_iff.mp hkept
  refine ⟨_, Option.map_eq_some_iff.mpr ⟨stored, hget, rfl⟩, fun key hkey => ?_⟩
  rw [get?_withStatus_of_ne hkey, get?_withStatus_of_ne hkey]

/-- A cluster of one machine that is to bootstrap it. -/
def bare : MachineSetRequest := ⟨"clusters", "a", .blank, 0, "a-installer-inputs"⟩

/-- A cluster with a template that claims the masters of the other one. -/
def claiming : MachineSetRequest where
  ns := "clusters"
  cluster := "b"
  template := { MachineTemplate.blank with
    metadata := ⟨.ofList [(clusterLabel, "a"), (roleLabel, "master")], .empty⟩ }
  replicas := 1
  bootSecret := "b-installer-inputs"

/-- All machines of both clusters, and all of them are nodes. -/
def populated : MachineStore := { (call claiming (call bare (started [])).2).2 with
  joined := ["a-bootstrap", "b-bootstrap", "b-master-0"].map
    (ObjectType.machines.objectPath "clusters") }

/-- None of them is a joined master of the first cluster. -/
theorem not_masterJoined_populated : ¬ api.MasterJoined populated "clusters" "a" := by
  have hclusters : IsName "clusters" := .of_all (by decide) (by decide)
  have ha : IsName "a" := .of_all (by decide) (by decide)
  have hb : IsName "b" := .of_all (by decide) (by decide)
  have hempty : api.Populated "clusters" (started []) := .empty fun _ _ => rfl
  have hmachines : api.Populated "clusters" (call claiming (call bare (started [])).2).2 :=
    .ensured (.ensured hempty hclusters ha (reaches_call bare _)) hclusters hb (reaches_call claiming _)
  have hanswer : ((perform (.controlPlaneJoined "clusters" "a")).run api.reply populated).1 =
      .ok false := by
    decide +kernel
  have hpopulated : api.Populated "clusters" populated := populated_joined hmachines _
  obtain ⟨htells, -⟩ := MachineApi.controlPlaneJoined_iff lawful hclusters ha hpopulated
  cases hrun : (perform (.controlPlaneJoined "clusters" "a")).run api.reply populated with
  | mk answer s' =>
    rw [hrun] at hanswer
    obtain rfl : answer = .ok false := hanswer
    intro hjoined
    exact absurd ((htells false s' hrun).mpr hjoined) Bool.false_ne_true

end MachineStore

end ControlPlane.Kubernetes
