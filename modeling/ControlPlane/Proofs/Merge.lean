/-
Merging a status into a stored resource.

The API keeps a resource as JSON and merges a change into it: the fields of an object are
merged one by one, null takes a field away, and every other value replaces what was there.
A status always writes its two latches, so however little else it writes, and whatever was
stored before, the latches of the merged resource are those of the status.
-/
import ControlPlane.Kubernetes.Collaborators
import ControlPlane.Proofs.Records

namespace ControlPlane

namespace Json

mutual

/-- A value with a change merged into it. -/
def mergePatch (target : Json) : Json → Json
  | .obj changes => .obj (mergeFields (target.fields?.getD []) changes)
  | .null => .null
  | .bool b => .bool b
  | .int n => .int n
  | .decimal negative digits exponent => .decimal negative digits exponent
  | .str s => .str s
  | .arr items => .arr items

/-- The fields of an object with changes merged into them. -/
def mergeFields (fields : List (String × Json)) : List (String × Json) → List (String × Json)
  | [] => fields
  | (name, .null) :: rest => mergeFields (fields.filter fun e => e.1 ≠ name) rest
  | (name, change) :: rest =>
    mergeFields (Table.put name (mergePatch ((Table.lookup name fields).getD .null) change) fields)
      rest

end

example : mergePatch (.obj [("a", .int 1), ("b", .int 2)]) (.obj [("a", .null), ("c", .int 3)]) =
    .obj [("b", .int 2), ("c", .int 3)] := by rfl

theorem mergeFields_append {fields l m : List (String × Json)} :
    mergeFields fields (l ++ m) = mergeFields (mergeFields fields l) m := by
  induction l generalizing fields with
  | nil => simp [mergeFields]
  | cons e rest ih =>
    obtain ⟨name, change⟩ := e
    cases change <;> simp only [List.cons_append, mergeFields, ih]

end Json

/-! ### The latches -/

open Json

theorem Status.latches_of_decode {fields : List (String × Json)} {initialized ready : Bool}
    {s : Status} (hinit : Table.lookup "initialized" fields = some (.bool initialized))
    (hready : Table.lookup "ready" fields = some (.bool ready))
    (h : Status.decode (.ofJson (.obj fields)) = .ok s) :
    s.initialized = initialized ∧ s.ready = ready := by
  have hi : Table.lookup "initialized" (Source.ofFields fields) = some (.bool initialized) := by
    rw [lookup_ofFields, hinit]
    rfl
  have hr : Table.lookup "ready" (Source.ofFields fields) = some (.bool ready) := by
    rw [lookup_ofFields, hready]
    rfl
  unfold Status.decode at h
  obtain ⟨record, hrecord, h⟩ := Decoded.bind_eq_ok.mp h
  cases hrecord
  obtain ⟨conditions, -, h⟩ := Decoded.bind_eq_ok.mp h
  obtain ⟨i, hi', h⟩ := Decoded.bind_eq_ok.mp h
  obtain ⟨r, hr', h⟩ := Decoded.bind_eq_ok.mp h
  obtain ⟨bound, -, h⟩ := Decoded.bind_eq_ok.mp h
  cases h
  have hi'' := orElse_named hi hi'
  have hr'' := orElse_named hr hr'
  cases hi''
  cases hr''
  exact ⟨rfl, rfl⟩

theorem Resource.status_of_decode {fields statusFields : List (String × Json)} {r : Resource}
    (hstatus : Table.lookup "status" fields = some (.obj statusFields))
    (h : Resource.decode (.ofJson (.obj fields)) = .ok r) :
    ∃ s, r.status = some s ∧ Status.decode (.ofJson (.obj statusFields)) = .ok s := by
  have hs : Table.lookup "status" (Source.ofFields fields) =
      some (.ofJson (.obj statusFields)) := by
    rw [lookup_ofFields, hstatus]
    rfl
  unfold Resource.decode at h
  obtain ⟨record, hrecord, h⟩ := Decoded.bind_eq_ok.mp h
  cases hrecord
  obtain ⟨metadata, -, h⟩ := Decoded.bind_eq_ok.mp h
  obtain ⟨spec, -, h⟩ := Decoded.bind_eq_ok.mp h
  obtain ⟨status, hstatus', h⟩ := Decoded.bind_eq_ok.mp h
  cases h
  have hread : some <$> Status.decode (.ofJson (.obj statusFields)) = .ok status :=
    orElse_named hs hstatus'
  cases hdecode : Status.decode (.ofJson (.obj statusFields)) with
  | error e =>
    rw [hdecode] at hread
    cases hread
  | ok s =>
    rw [hdecode] at hread
    cases hread
    exact ⟨s, rfl, rfl⟩

namespace Kubernetes

/-- The stored resource with a status merged into it, as it is read back. -/
def Merged (s : Status) (stored merged : Resource) : Prop :=
  Resource.decode (.ofJson (stored.encode.mergePatch (statusChange s))) = .ok merged

/-- The two latches are written last. -/
theorem encode_status (s : Status) : ∃ others, s.encode =
    .obj (others ++ [("initialized", .bool s.initialized), ("ready", .bool s.ready)]) := by
  unfold Status.encode objectOf
  refine ⟨[fieldIfSet "boundMachineTemplate" MachineTemplate.encode s.boundTemplate,
    if s.conditions.isEmpty then none else field "conditions" s.conditions.encode].filterMap id, ?_⟩
  rw [show ∀ (a b c d : Option (String × Json)), [a, b, c, d] = [a, b] ++ [c, d] from
    fun _ _ _ _ => rfl, List.filterMap_append]
  rfl

/-- **The latches of a merged resource are those that were written**, whatever was stored. -/
theorem Merged.latches {s : Status} {stored merged : Resource} (h : Merged s stored merged) :
    ∃ after, merged.status = some after ∧ after.initialized = s.initialized ∧
      after.ready = s.ready := by
  obtain ⟨others, hencode⟩ := encode_status s
  let old := (Table.lookup "status" (stored.encode.fields?.getD [])).getD .null
  let latches := [("initialized", Json.bool s.initialized), ("ready", Json.bool s.ready)]
  have hpatch : stored.encode.mergePatch (statusChange s) =
      .obj (Table.put "status" (.obj (mergeFields (old.fields?.getD []) (others ++ latches)))
        (stored.encode.fields?.getD [])) := by
    unfold statusChange
    rw [hencode]
    simp only [mergePatch, mergeFields]
    rfl
  have hlatches : ∀ fields, mergeFields fields latches =
      Table.put "ready" (.bool s.ready) (Table.put "initialized" (.bool s.initialized) fields) := by
    intro fields
    simp only [latches, mergeFields, mergePatch]
  unfold Merged at h
  rw [hpatch, mergeFields_append, hlatches] at h
  obtain ⟨after, hafter, hdecode⟩ :=
    Resource.status_of_decode (by rw [Table.lookup_put, if_pos rfl]) h
  refine ⟨after, hafter, Status.latches_of_decode ?_ ?_ hdecode⟩
  · rw [Table.lookup_put, if_neg (by decide), Table.lookup_put, if_pos rfl]
  · rw [Table.lookup_put, if_pos rfl]

end Kubernetes

end ControlPlane
