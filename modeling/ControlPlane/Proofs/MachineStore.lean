/-
A store of machines.

This API keeps what is applied to it where there is nothing yet, and it is told beforehand
which of the requests to come it refuses.  A machine becomes a node when its path is put among
those that have joined; its status then refers to the node.  A list answers with the statuses of
the machines whose labels its query accepts.

The paths of all machines of a namespace are told from those of single ones by the number of
their slashes, since a machine may be called like the type of all.
-/
import ControlPlane.Proofs.Forms
import ControlPlane.Proofs.MachineApi
import ControlPlane.Proofs.Records
import ControlPlane.Proofs.Replies

namespace ControlPlane.Kubernetes

open Json

structure MachineStore where
  /-- What was applied, by path. -/
  objects : Table String Json
  /-- The paths of the machines that have become nodes. -/
  joined : List String
  /-- Which of the next requests are refused. -/
  refusals : List Bool

namespace MachineStore

/-! ### Objects -/

/-- The status of a machine that has become a node. -/
def nodeStatus : Json := .obj [("nodeRef", .obj [])]

theorem legible_nodeStatus (depth : Nat) : Legible (depth + 2) nodeStatus := by
  refine .obj fun e he => ?_
  obtain rfl := List.mem_singleton.mp he
  exact .obj (List.forall_mem_nil _)

/-- The status of a machine, which has become a node or not. -/
def statusFields (node : Bool) : List (String × Json) :=
  if node then [("status", nodeStatus)] else []

/-- An object with the status of a machine. -/
def withStatus (node : Bool) : Json → Json
  | .obj fields => .obj (statusFields node ++ fields.filter fun e => e.1 ≠ "status")
  | j => j

def kept (s : MachineStore) (path : String) : Option Json :=
  (s.objects.get? path).map (withStatus (path ∈ s.joined))

/-! ### Queries -/

/-- An equality as it stands in a query. -/
def equality (part : List Char) : String × String :=
  (String.ofList (part.takeWhile (· ≠ '=')), String.ofList ((part.dropWhile (· ≠ '=')).drop 1))

/-- The equalities of a query. -/
def equalities (text : String) : List (String × String) :=
  ((splitOn ',' text.toList).filter (!·.isEmpty)).map equality

def accepts (query : List (String × String)) (labels : Labels) : Bool :=
  match query with
  | [(name, text)] =>
    name = "labelSelector" && (equalities text).all fun e => labels.get? e.1 = some e.2
  | _ => false

/-! ### Replies -/

/-- The path is of all objects of a namespace. -/
def isList (path : String) : Bool := path.toList.count '/' = 6

/-- The path is of a machine that belongs to a list. -/
def listsPath (list path : String) : Bool :=
  let start := (list ++ "/").toList
  let name := path.toList.drop start.length
  start.isPrefixOf path.toList && !name.isEmpty && name.all isNameCharacter

/-- The machines of a list. -/
def listed (s : MachineStore) (list : String) (query : List (String × String)) : List Json :=
  ((s.objects.entries.filter fun e => listsPath list e.1).map fun e =>
    withStatus (e.1 ∈ s.joined) e.2).filter fun object => accepts query (labelsOf object)

/-- What a list tells of a machine. -/
def item (object : Json) : Json := .obj ((object.get? "status").map ("status", ·)).toList

def refusal : Reply := ⟨500, ""⟩

/-- The answer to a request that is not refused. -/
def serve (s : MachineStore) (r : Request) : Reply × MachineStore :=
  match r.method with
  | .get =>
    if isList r.path then (Scripted.ok (.obj [("items", .arr ((s.listed r.path r.query).map item))]), s)
    else if (s.objects.get? r.path).isSome then (Scripted.ok (.obj []), s)
    else (absent, s)
  | .patch =>
    if (s.objects.get? r.path).isSome then (Scripted.ok (.obj []), s)
    else (Scripted.ok (.obj []), { s with
      objects := s.objects.insert r.path (r.body.getD .null)
      joined := s.joined.filter (· ≠ r.path) })
  | .delete => (refusal, s)

def reply (r : Request) (s : MachineStore) : Reply × MachineStore :=
  let rest := { s with refusals := s.refusals.drop 1 }
  if s.refusals.head? = some true then (refusal, rest) else rest.serve r

def api : MachineApi MachineStore where
  reply := reply
  kept := kept
  made := withStatus false
  accepts := accepts

/-! ### Machines one by one -/

theorem get?_withStatus_of_ne {node : Bool} {object : Json} {name : String} (h : name ≠ "status") :
    (withStatus node object).get? name = object.get? name := by
  cases object with
  | obj fields =>
    have hrest : Table.lookup name (fields.filter fun e => e.1 ≠ "status") =
        Table.lookup name fields := by
      rw [Table.lookup_filter (fun key => key ≠ "status"), if_pos (by simpa using h)]
    cases node
    · exact hrest
    · simpa [withStatus, statusFields, get?, Table.lookup, h] using hrest
  | _ => rfl

/-- The store tells of no other status than that of a node. -/
theorem status_withStatus (node : Bool) (object : Json) :
    (withStatus node object).get? "status" = none ∨
      (withStatus node object).get? "status" = some nodeStatus := by
  cases object with
  | obj fields =>
    cases node
    · refine .inl ?_
      show Table.lookup "status" (fields.filter fun e => e.1 ≠ "status") = none
      rw [Table.lookup_filter (fun key => key ≠ "status"), if_neg (by simp)]
    · exact .inr (by simp [withStatus, statusFields, get?, Table.lookup])
  | _ => exact .inl rfl

/-- The store behind the next request. -/
def next (s : MachineStore) : MachineStore := { s with refusals := s.refusals.drop 1 }

/-- A request is refused or served. -/
theorem reply_cases (r : Request) (s : MachineStore) :
    reply r s = (refusal, s.next) ∨ reply r s = s.next.serve r := by
  unfold reply
  dsimp only
  split
  · exact .inl rfl
  · exact .inr rfl

theorem not_isNotFound_refusal {α : Type} {decode : Source → Decoded α} {fault : Fault}
    (h : refusal.read decode = .error fault) : fault.isNotFound = false := by
  unfold Reply.read at h
  rw [if_pos (by decide)] at h
  cases h
  decide +kernel

theorem serve_get {path : String} {query : List (String × String)} {s : MachineStore}
    (hpath : isList path = false) : s.serve ⟨.get, path, query, none, none⟩ =
      (if (s.objects.get? path).isSome then Scripted.ok (.obj []) else absent, s) := by
  unfold serve
  dsimp only
  rw [hpath, if_neg Bool.false_ne_true]
  split <;> rfl

theorem serve_list {path : String} {query : List (String × String)} {s : MachineStore}
    (hpath : isList path = true) : s.serve ⟨.get, path, query, none, none⟩ =
      (Scripted.ok (.obj [("items", .arr ((s.listed path query).map item))]), s) := by
  unfold serve
  dsimp only
  rw [if_pos hpath]

/-- An apply that is served is answered with an object. -/
theorem serve_patch {path : String} {query : List (String × String)} {contentType : Option String}
    {object : Json} {s : MachineStore} :
    (s.serve ⟨.patch, path, query, contentType, some object⟩).1 = Scripted.ok (.obj []) := by
  unfold serve
  dsimp only
  split <;> rfl

theorem serve_patch_of_none {path : String} {query : List (String × String)}
    {contentType : Option String} {object : Json} {s : MachineStore}
    (hnone : s.objects.get? path = none) :
    s.serve ⟨.patch, path, query, contentType, some object⟩ =
      (Scripted.ok (.obj []), { s with
        objects := s.objects.insert path object
        joined := s.joined.filter (· ≠ path) }) := by
  unfold serve
  dsimp only
  rw [hnone]
  rfl

theorem isSome_kept {path : String} {s : MachineStore} :
    (s.kept path).isSome = (s.objects.get? path).isSome := Option.isSome_map

/-- A machine that is put where none is has not joined. -/
theorem kept_insert {s s' : MachineStore} {path : String} {object : Json}
    (hobjects : s'.objects = s.objects.insert path object)
    (hjoined : s'.joined = s.joined.filter (· ≠ path)) :
    s'.kept = putAt path (withStatus false object) s.kept := by
  funext place
  unfold kept putAt
  rw [hobjects, hjoined, Table.get?_insert]
  by_cases hplace : place = path
  · rw [if_pos hplace, if_pos hplace, hplace]
    simp
  · rw [if_neg hplace, if_neg hplace]
    simp [hplace]

theorem keepsAt {path : String} (hpath : isList path = false) : api.KeepsAt path where
  looked query s := by
    show (reply _ s).2.kept = s.kept
    rcases reply_cases ⟨.get, path, query, none, none⟩ s with hreply | hreply
    · rw [hreply]
      rfl
    · rw [hreply, serve_get hpath]
      rfl
  found {query s object} hread := by
    change (reply _ s).1.read decodeObject = _ at hread
    show (s.kept path).isSome = true
    rcases reply_cases ⟨.get, path, query, none, none⟩ s with hreply | hreply
    · rw [hreply] at hread
      exact absurd hread (read_ne_ok (r := refusal) (by decide))
    · rw [hreply, serve_get hpath] at hread
      rw [isSome_kept]
      cases hfound : (s.objects.get? path).isSome with
      | true => rfl
      | false =>
        rw [if_neg (by rw [next, hfound]; decide)] at hread
        exact absurd hread (read_ne_ok (r := absent) (by decide))
  missing {query s fault} hread hmissing := by
    change (reply _ s).1.read decodeObject = _ at hread
    show s.kept path = none
    rcases reply_cases ⟨.get, path, query, none, none⟩ s with hreply | hreply
    · rw [hreply] at hread
      rw [not_isNotFound_refusal hread] at hmissing
      cases hmissing
    · rw [hreply, serve_get hpath] at hread
      rw [← Option.isNone_iff_eq_none, ← Option.not_isSome, isSome_kept]
      cases hfound : (s.objects.get? path).isSome with
      | false => rfl
      | true =>
        obtain ⟨object, hobject⟩ := read_object
        rw [if_pos (by rw [next, hfound]), hobject] at hread
        cases hread
  made {query object answer s s' r} hnone hreply hread := by
    change reply _ s = _ at hreply
    change s.kept path = none at hnone
    show s'.kept = putAt path (withStatus false object) s.kept
    rcases reply_cases ⟨.patch, path, query, some "application/apply-patch+yaml", some object⟩ s
      with hcase | hcase
    · rw [hcase] at hreply
      cases hreply
      exact absurd hread (read_ne_ok (by decide))
    · have habsent : s.next.objects.get? path = none := Option.map_eq_none_iff.mp hnone
      rw [hcase, serve_patch_of_none habsent] at hreply
      cases hreply
      exact kept_insert rfl rfl
  failed {query object s s' r fault} hreply hread := by
    change reply _ s = _ at hreply
    show s'.kept = s.kept
    rcases reply_cases ⟨.patch, path, query, some "application/apply-patch+yaml", some object⟩ s
      with hcase | hcase
    · rw [hcase] at hreply
      cases hreply
      rfl
    · obtain ⟨object', hobject⟩ := read_object
      rw [hcase, Prod.ext_iff, serve_patch] at hreply
      obtain ⟨rfl, -⟩ := hreply
      cases hobject.symm.trans hread

/-! ### Machines of a namespace -/

section Namespace

variable {ns name : String}

theorem isList_objectPath (hns : IsName ns) (hname : IsName name) :
    isList (ObjectType.machines.objectPath ns name) = false := by
  have hzero := List.count_eq_zero.mpr hns.slash
  have hzero' := List.count_eq_zero.mpr hname.slash
  unfold isList
  rw [toList_objectPath]
  simp only [List.count_append, List.count_cons, hzero, hzero']
  decide

theorem isList_path (hns : IsName ns) : isList (ObjectType.machines.path ns) = true := by
  have hzero := List.count_eq_zero.mpr hns.slash
  unfold isList
  rw [toList_path]
  simp only [List.count_append, List.count_cons, hzero]
  decide

theorem toList_machinePath : (ObjectType.machines.objectPath ns name).toList =
    (ObjectType.machines.path ns ++ "/").toList ++ name.toList := String.toList_append

theorem listsPath_iff {path : String} :
    listsPath (ObjectType.machines.path ns) path = true ↔
      ∃ name, IsName name ∧ path = ObjectType.machines.objectPath ns name := by
  unfold listsPath
  dsimp only
  simp only [Bool.and_eq_true, List.isPrefixOf_iff_prefix, List.all_eq_true, Bool.not_eq_true',
    List.isEmpty_eq_false_iff]
  constructor
  · rintro ⟨⟨⟨name, hpath⟩, hne⟩, hall⟩
    rw [← hpath, List.drop_left] at hne hall
    refine ⟨String.ofList name, ⟨?_, ?_⟩, ?_⟩
    · rwa [Ne, ← String.toList_eq_nil_iff, String.toList_ofList]
    · rwa [String.toList_ofList]
    · refine String.toList_inj.mp ?_
      rw [← hpath, toList_machinePath, String.toList_ofList]
  · rintro ⟨name, hname, rfl⟩
    rw [toList_machinePath, List.drop_left]
    exact ⟨⟨List.prefix_append _ _, fun hnil => hname.1 (String.toList_eq_nil_iff.mp hnil)⟩, hname.2⟩

/-- What is listed is what is kept of the machines of the namespace that are asked for. -/
theorem mem_listed_iff {s : MachineStore} {query : List (String × String)} {object : Json} :
    object ∈ s.listed (ObjectType.machines.path ns) query ↔
      ∃ name, IsName name ∧ s.kept (ObjectType.machines.objectPath ns name) = some object ∧
        accepts query (labelsOf object) = true := by
  unfold listed
  simp only [List.mem_filter, List.mem_map]
  constructor
  · rintro ⟨⟨⟨path, stored⟩, ⟨hmem, hlists⟩, rfl⟩, haccepts⟩
    obtain ⟨name, hname, rfl⟩ := listsPath_iff.mp hlists
    refine ⟨name, hname, ?_, haccepts⟩
    rw [kept, Table.get?_eq_some_iff.mpr hmem, Option.map_some]
  · rintro ⟨name, hname, hkept, haccepts⟩
    obtain ⟨stored, hget, rfl⟩ := Option.map_eq_some_iff.mp hkept
    exact ⟨⟨_, ⟨Table.get?_eq_some_iff.mp hget, listsPath_iff.mpr ⟨name, hname, rfl⟩⟩, rfl⟩, haccepts⟩

end Namespace

/-! ### Lists -/

theorem item_cases {object : Json} (h : object.get? "status" = none ∨
    object.get? "status" = some nodeStatus) :
    item object = .obj [] ∨ item object = .obj [("status", nodeStatus)] := by
  unfold item
  rcases h with h | h
  · exact .inl (by rw [h]; rfl)
  · exact .inr (by rw [h]; rfl)

/-- Items that are read as they are make up a list that is. -/
theorem reads_items {items : List Json} (h : ∀ j ∈ items, Reads decodeObject j j) :
    Reads (decodeItems decodeObject) (.obj [("items", .arr items)]) items := by
  have hlist : Reads (asList decodeObject) (.arr (items.map id)) (items.map id) := reads_list h
  rw [List.map_id] at hlist
  let r : Record := .named true [("items", .arr (Source.ofItems items))]
  have hmetadata : r.orElse 0 "metadata" () decodeListMeta = .ok () := rfl
  have hread : Reads (asOptional (asList decodeObject)) (.arr items) (some items) := by
    show some <$> asList decodeObject (.ofJson (.arr items)) = _
    rw [hlist]
    rfl
  have hitems : r.required 1 "items" (asOptional (asList decodeObject)) = .ok (some items) :=
    required_written (List.pairwise_singleton _ ("items", some (Json.arr items))) (if_pos rfl) hread
  have hothers : r.others ["metadata", "items"] = .ok (.obj []) := rfl
  exact Decoded.bind_eq_ok.mpr ⟨r, rfl, Decoded.bind_eq_ok.mpr ⟨(), hmetadata,
    Decoded.bind_eq_ok.mpr ⟨some items, hitems, Decoded.bind_eq_ok.mpr ⟨_, hothers, rfl⟩⟩⟩⟩

/-- A list is read as what it tells of the machines that are listed. -/
theorem read_list {ns : String} {query : List (String × String)} {s : MachineStore} :
    (Scripted.ok (.obj [("items", .arr ((s.listed (ObjectType.machines.path ns) query).map item))])).read
      (decodeItems decodeObject) = .ok ((s.listed (ObjectType.machines.path ns) query).map item) := by
  have hitem : ∀ j ∈ (s.listed (ObjectType.machines.path ns) query).map item,
      j = .obj [] ∨ j = .obj [("status", nodeStatus)] := by
    intro j hj
    obtain ⟨object, hobject, rfl⟩ := List.mem_map.mp hj
    obtain ⟨name, -, hkept, -⟩ := mem_listed_iff.mp hobject
    obtain ⟨stored, -, rfl⟩ := Option.map_eq_some_iff.mp hkept
    exact item_cases (status_withStatus _ _)
  refine read_of_legible (.obj fun e he => ?_) (reads_items fun j hj => ?_)
  · obtain rfl := List.mem_singleton.mp he
    refine .arr fun j hj => ?_
    rcases hitem j hj with rfl | rfl
    · exact .obj nofun
    · refine .obj fun e he => ?_
      obtain rfl := List.mem_singleton.mp he
      exact legible_nodeStatus _
  · rcases hitem j hj with rfl | rfl
    · rfl
    · rfl

theorem get?_item (object : Json) : (item object).get? "status" = object.get? "status" := by
  unfold item
  cases object.get? "status" <;> rfl

/-! ### Queries read back -/

theorem equality_append {key value : List Char} (hkey : '=' ∉ key) :
    equality (key ++ '=' :: value) = (String.ofList key, String.ofList value) := by
  obtain ⟨hbefore, hbehind⟩ := parted_append hkey (b := value)
  unfold equality
  rw [hbefore, hbehind]

/-- The equalities of a query are the ones that it was written from. -/
theorem equalities_text {l : List (String × String)}
    (h : ∀ e ∈ l, IsLabelText e.1 ∧ IsLabelText e.2) : equalities (equalitiesText l) = l := by
  have hparts : ∀ part ∈ l.map fun e => e.1.toList ++ '=' :: e.2.toList, part ≠ [] ∧ ',' ∉ part := by
    intro part hpart
    obtain ⟨e, he, rfl⟩ := List.mem_map.mp hpart
    have hkey : ',' ∉ e.1.toList := (h e he).1.not_mem (by decide)
    have hvalue : ',' ∉ e.2.toList := (h e he).2.not_mem (by decide)
    simp [hkey, hvalue]
  have htext : (equalitiesText l).toList =
      [','].intercalate (l.map fun e => e.1.toList ++ '=' :: e.2.toList) := by
    rw [equalitiesText, String.toList_intercalate, List.map_map]
    congr 1
    simp
  unfold equalities
  rw [htext, filter_splitOn_intercalate hparts, List.map_map]
  refine (List.map_congr_left fun e he => ?_).trans (List.map_id l)
  rw [Function.comp_apply, equality_append ((h e he).1.not_mem (by decide)), String.ofList_toList,
    String.ofList_toList]
  rfl

/-- **The store is as an API is relied on to be.** -/
theorem lawful : api.Lawful where
  keepsAt hns hname := keepsAt (isList_objectPath hns hname)
  labelled object := by
    show labelsOf (withStatus false object) = labelsOf object
    unfold labelsOf
    rw [get?_withStatus_of_ne (by decide)]
  listed {ns query s items} hns hread status := by
    change (reply _ s).1.read (decodeItems decodeObject) = _ at hread
    show _ ↔ ∃ name object, IsName name ∧ s.kept _ = some object ∧ accepts query _ = true ∧ _
    rcases reply_cases ⟨.get, ObjectType.machines.path ns, query, none, none⟩ s with hreply | hreply
    · rw [hreply] at hread
      exact absurd hread (read_ne_ok (r := refusal) (by decide))
    · rw [hreply, serve_list (isList_path hns), read_list] at hread
      cases hread
      constructor
      · rintro ⟨_, hitem, hstatus⟩
        obtain ⟨object, hobject, rfl⟩ := List.mem_map.mp hitem
        obtain ⟨name, hname, hkept, haccepts⟩ := mem_listed_iff.mp hobject
        exact ⟨name, object, hname, hkept, haccepts, (get?_item object).symm.trans hstatus⟩
      · rintro ⟨name, object, hname, hkept, haccepts, hstatus⟩
        have hlisted : object ∈ s.next.listed (ObjectType.machines.path ns) query :=
          mem_listed_iff.mpr ⟨name, hname, hkept, haccepts⟩
        exact ⟨item object, List.mem_map_of_mem hlisted, (get?_item object).trans hstatus⟩
  selects {l labels} h := by
    show accepts [("labelSelector", equalitiesText l)] labels = true ↔ _
    unfold accepts
    dsimp only
    rw [equalities_text h, decide_eq_true rfl, Bool.true_and, List.all_eq_true]
    simp only [decide_eq_true_eq]

end MachineStore

end ControlPlane.Kubernetes
