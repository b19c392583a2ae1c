/-
What is stored is what was written.

A change is merged into the stored object field by field (`lookup_mergeFields`), so a field
that a change leaves out stays.  A change that leaves nothing out replaces what it is merged
into, and so does a change that was merged before: labels and annotations can only be merged
with themselves, since a template is bound once.  So a status takes the place of the stored
one, because a pass leaves out nothing that is stored: it always tells of the degradation, and
it keeps the template that is bound.
-/
import ControlPlane.Proofs.Encodings
import ControlPlane.Proofs.Merge
import ControlPlane.Proofs.Requests
import ControlPlane.Proofs.Requeue

namespace ControlPlane

open Program (Runs)

namespace Demo

/-- The resource with a bound template that has labels and a timeout. -/
def boundResource : Resource :=
  let bound : MachineTemplate := { template with
    metadata := ⟨.ofList [("tier", "control")], .empty⟩, nodeDrainTimeout := some "10m" }
  let stored := { Status.blank with boundTemplate := some bound }
  { resource (some stored) with spec := { (resource none).spec with template := bound } }

/-- What a reconciliation of it does. -/
def boundEffects : Effects :=
  ((Controller.start .standard).reconcile boundResource ⟨0, 0⟩).trace InMemory.World.answer world

end Demo

namespace Json

/-! ### Fields -/

variable {old new rest : List (String × Json)} {name : String} {change j : Json}

/-- A field with a change merged into it, if it stays. -/
def patchField (old : Option Json) : Json → Option Json
  | .null => none
  | change => some ((old.getD .null).mergePatch change)

theorem patchField_of_ne {old : Option Json} (h : change ≠ .null) :
    patchField old change = some ((old.getD .null).mergePatch change) := by
  cases change with
  | null => exact absurd rfl h
  | _ => rfl

/-- The first change touches its own field and no other. -/
theorem exists_mergeFields_cons (old : List (String × Json)) (key : String) (change : Json)
    (rest : List (String × Json)) :
    ∃ step, mergeFields old ((key, change) :: rest) = mergeFields step rest ∧
      (Rising old → Rising step) ∧ ∀ name, Table.lookup name step =
        if name = key then patchField (Table.lookup name old) change
        else Table.lookup name old := by
  by_cases h : change = .null
  · subst h
    refine ⟨old.filter fun e => e.1 ≠ key, by simp only [mergeFields], fun hold => hold.filter _,
      fun name => ?_⟩
    rw [Table.lookup_filter (fun k => decide (k ≠ key))]
    by_cases hname : name = key
    · rw [if_pos hname, if_neg (by simp [hname])]
      rfl
    · rw [if_neg hname, if_pos (by simp [hname])]
  · refine ⟨Table.put key (((Table.lookup key old).getD .null).mergePatch change) old, ?_,
      Table.sorted_put, fun name => ?_⟩
    · cases change with
      | null => exact absurd rfl h
      | _ => simp only [mergeFields]
    · rw [Table.lookup_put]
      by_cases hname : name = key
      · rw [if_pos hname, if_pos hname, patchField_of_ne h, hname]
      · rw [if_neg hname, if_neg hname]

/-- Changes decide on the fields that they name, and leave the others. -/
theorem lookup_mergeFields (hnew : Rising new) : Table.lookup name (mergeFields old new) =
    match Table.lookup name new with
    | none => Table.lookup name old
    | some change => patchField (Table.lookup name old) change := by
  induction new generalizing old with
  | nil => simp only [mergeFields, Table.lookup]
  | cons e rest ih =>
    obtain ⟨key, change⟩ := e
    obtain ⟨hfirst, hrest⟩ := List.pairwise_cons.mp hnew
    obtain ⟨step, hstep, -, hlookup⟩ := exists_mergeFields_cons old key change rest
    rw [hstep, ih hrest, hlookup, Table.lookup]
    by_cases hname : name = key
    · have hnone : Table.lookup name rest = none := Table.lookup_eq_none_iff.mpr fun e he heq =>
        KeyOrder.irrefl key ((hname.symm.trans heq) ▸ hfirst e he)
      rw [hnone, if_pos hname, if_pos hname]
    · rw [if_neg hname, if_neg hname]

theorem rising_mergeFields (hold : Rising old) : Rising (mergeFields old new) := by
  induction new generalizing old with
  | nil => simpa only [mergeFields] using hold
  | cons e rest ih =>
    obtain ⟨step, hstep, hrising, -⟩ := exists_mergeFields_cons old e.1 e.2 rest
    rw [hstep]
    exact ih (hrising hold)

/-! ### Changes that replace -/

/-- A value takes the place of the one that it is merged into. -/
def Replaces (new old : Json) : Prop := old.mergePatch new = new

/-- Changes replace the fields that they are merged into if they leave none of them out. -/
theorem replaces_obj {target : Json} (hold : Rising (target.fields?.getD [])) (hnew : Rising new)
    (hkept : ∀ name, Table.lookup name new = none →
      Table.lookup name (target.fields?.getD []) = none)
    (hfields : ∀ name j, Table.lookup name new = some j → j ≠ .null ∧
      j.Replaces ((Table.lookup name (target.fields?.getD [])).getD .null)) :
    (Json.obj new).Replaces target := by
  have hsame : mergeFields (target.fields?.getD []) new = new := by
    refine Table.entries_ext (rising_mergeFields hold) hnew fun name => ?_
    rw [lookup_mergeFields hnew]
    cases hname : Table.lookup name new with
    | none => exact hkept name hname
    | some j =>
      obtain ⟨hne, hreplaces⟩ := hfields name j hname
      dsimp only
      rw [patchField_of_ne hne, hreplaces]
  unfold Replaces mergePatch
  rw [hsame]

/-- A record replaces another one whose fields it writes again, or anew. -/
theorem replaces_written {target : Json} {before after : List (String × Option Json)}
    (htarget : target.fields?.getD [] = written before) (hbefore : Rising before)
    (hafter : Rising after)
    (hnames : ∀ name, Table.lookup name after = none → Table.lookup name before = none)
    (hunset : ∀ f ∈ after, f.2 = none → (Table.lookup f.1 before).join = none)
    (hset : ∀ f ∈ after, ∀ j, f.2 = some j →
      j ≠ .null ∧ j.Replaces ((Table.lookup f.1 before).join.getD .null)) :
    (Json.obj (written after)).Replaces target := by
  refine replaces_obj (htarget ▸ rising_written hbefore) (rising_written hafter) ?_ ?_
  · intro name hname
    rw [lookup_written hafter] at hname
    rw [htarget, lookup_written hbefore]
    cases hfield : Table.lookup name after with
    | none => rw [hnames name hfield, Option.join_none]
    | some o =>
      rw [hfield, Option.join_some] at hname
      exact hunset _ (Table.mem_of_lookup hfield) hname
  · intro name j hname
    rw [lookup_written hafter] at hname
    rw [htarget, lookup_written hbefore]
    obtain ⟨o, hfield, ho⟩ : ∃ o, Table.lookup name after = some o ∧ o = some j := by
      cases hfield : Table.lookup name after with
      | none => simp [hfield] at hname
      | some o => exact ⟨o, rfl, by rwa [hfield, Option.join_some] at hname⟩
    exact hset _ (Table.mem_of_lookup hfield) j ho

/-- A value holds no null, so it is put in place of nothing and in place of itself. -/
structure Settled (j : Json) : Prop where
  ne_null : j ≠ .null
  fresh : j.Replaces .null
  again : j.Replaces j

theorem settled_str (s : String) : (Json.str s).Settled := ⟨nofun, rfl, rfl⟩

theorem settled_obj {fields : List (String × Json)} (h : Rising fields)
    (hfields : ∀ e ∈ fields, e.2.Settled) : (Json.obj fields).Settled where
  ne_null := nofun
  fresh := replaces_obj .nil h (fun _ _ => rfl) fun _ _ hfield =>
    ⟨(hfields _ (Table.mem_of_lookup hfield)).ne_null, (hfields _ (Table.mem_of_lookup hfield)).fresh⟩
  again := by
    refine replaces_obj h h (fun _ hname => hname) fun name j hfield => ?_
    have hsettled := hfields _ (Table.mem_of_lookup hfield)
    have hown : Table.lookup name ((Json.obj fields).fields?.getD []) = some j := hfield
    rw [hown]
    exact ⟨hsettled.ne_null, hsettled.again⟩

theorem settled_written {all : List (String × Option Json)} (h : Rising all)
    (hfields : ∀ f ∈ all, ∀ j ∈ f.2, j.Settled) : (Json.obj (written all)).Settled :=
  settled_obj (rising_written h) fun _ he => hfields _ (exists_of_mem_written he) _ rfl

theorem settled_texts (t : Table String String) : (ofTexts t).Settled := by
  refine settled_obj (List.pairwise_map.mpr t.sorted) fun e he => ?_
  obtain ⟨e', -, rfl⟩ := List.mem_map.mp he
  exact settled_str e'.2

end Json

open Json

/-! ### Templates -/

theorem InfrastructureReference.settled_encode (r : InfrastructureReference) :
    r.encode.Settled := by
  have hencode : r.encode = .obj [("apiVersion", .str r.apiVersion), ("kind", .str r.kind),
      ("name", .str r.name), ("namespace", .str r.ns)] := rfl
  rw [hencode]
  have hnames : ["apiVersion", "kind", "name", "namespace"].Pairwise (· < ·) := by decide
  exact settled_obj (rising_of_names hnames) (by simp [settled_str])

theorem Labels.settled_field? (t : Labels) : ∀ j ∈ t.field?, j.Settled := by
  intro j hj
  unfold Labels.field? at hj
  split at hj
  · cases hj
  · obtain rfl := Option.some.inj hj
    exact settled_texts t

theorem MachineMetadata.settled_encode (m : MachineMetadata) : m.encode.Settled := by
  rw [encode_eq]
  refine settled_written m.rising_fields ?_
  simp only [fields, List.forall_mem_cons]
  exact ⟨m.annotations.settled_field?, m.labels.settled_field?, nofun⟩

theorem MachineTemplate.settled_encode (t : MachineTemplate) : t.encode.Settled := by
  have htimeout : ∀ timeout : Option String, ∀ j ∈ timeout.map Json.str, j.Settled := by
    intro timeout j hj
    obtain ⟨s, -, rfl⟩ := Option.map_eq_some_iff.mp hj
    exact settled_str s
  rw [encode_eq]
  refine settled_written t.rising_fields ?_
  simp only [fields, List.forall_mem_cons, Option.mem_some_iff, forall_eq']
  exact ⟨t.infrastructure.settled_encode, t.metadata.settled_encode, htimeout _, htimeout _,
    htimeout _, nofun⟩

/-! ### Statuses -/

namespace Status

variable {s : Status} {stored : Option Status}

/-- Where the template of a stored status is found. -/
theorem lookup_template : (Table.lookup "boundMachineTemplate" ((stored.map fields).getD [])).join =
    (stored.getD .blank).boundTemplate.map MachineTemplate.encode := by
  cases stored <;> rfl

theorem lookup_other {name : String} (h : Table.lookup name s.fields = none) :
    Table.lookup name ((stored.map fields).getD []) = none := by
  cases stored with
  | none => rfl
  | some p =>
    rw [Table.lookup_eq_none_iff] at h
    refine Table.lookup_eq_none_iff.mpr (?_ : ∀ f ∈ p.fields, name ≠ f.1)
    simpa only [fields, List.forall_mem_cons] using h

/-- A status takes the place of one whose template it keeps, as long as it has conditions. -/
theorem replaces_encode (hconditions : s.conditions.isEmpty = false)
    (hbound : ∀ t, (stored.getD .blank).boundTemplate = some t → s.boundTemplate = some t) :
    s.encode.Replaces ((stored.map encode).getD .null) := by
  have hold : ((stored.map encode).getD .null).fields?.getD [] =
      written ((stored.map fields).getD []) := by
    cases stored with
    | none => rfl
    | some p => exact congrArg (fun j : Json => j.fields?.getD []) p.encode_eq
  have hrising : Rising ((stored.map fields).getD []) := by
    cases stored with
    | none => exact .nil
    | some p => exact p.rising_fields
  rw [encode_eq]
  refine replaces_written hold hrising s.rising_fields (fun _ => lookup_other) ?_ ?_
  · simp only [fields, List.forall_mem_cons, hconditions]
    refine ⟨fun hnone => ?_, by simp⟩
    rw [lookup_template]
    cases hstored : (stored.getD .blank).boundTemplate with
    | none => rfl
    | some t =>
      rw [hbound t hstored] at hnone
      cases hnone
  · simp only [fields, List.forall_mem_cons, hconditions]
    refine ⟨fun j hj => ?_, ?_, ?_, ?_, by simp⟩
    · obtain ⟨t, ht, rfl⟩ := Option.map_eq_some_iff.mp hj
      refine ⟨t.settled_encode.ne_null, ?_⟩
      rw [lookup_template]
      cases hstored : (stored.getD .blank).boundTemplate with
      | none => exact t.settled_encode.fresh
      | some t' =>
        obtain rfl : t = t' := Option.some.inj (ht.symm.trans (hbound t' hstored))
        exact t.settled_encode.again
    · rintro j ⟨⟩
      exact ⟨by simp [ConditionSet.encode], rfl⟩
    · rintro j ⟨⟩
      exact ⟨by simp, rfl⟩
    · rintro j ⟨⟩
      exact ⟨by simp, rfl⟩

end Status

/-! ### What a reconciliation writes -/

theorem ConditionSet.isEmpty_of_get? {c : ConditionSet} {type : String}
    (h : (c.get? type).isSome = true) : c.isEmpty = false := by
  cases hempty : c.isEmpty with
  | false => rfl
  | true =>
    have hnone : c.byType = .empty := Table.eq_empty_of_isEmpty hempty
    rw [get?, hnone] at h
    cases h

namespace Controller

variable {c : Controller} {r : Resource} {start : Time} {log : Effects}
  {result : Controller.Returned × Controller} {w : Write}

/-- What a reconciliation writes leaves out nothing that is stored. -/
theorem replaces_of_mem_writes (h : Runs (c.reconcile r start) log result)
    (hw : w ∈ Effects.writes log) :
    w.status.encode.Replaces ((r.status.map Status.encode).getD .null) := by
  cases hns : r.metadata.ns with
  | none =>
    unfold reconcile at h
    rw [hns] at h
    cases h
    cases hw
  | some ns =>
    obtain ⟨-, -, -, -, walked, hwalk, hstatus⟩ := of_mem_writes hns h hw
    have hgoes := Pass.goes_walk _ walked.1 walked.2 hwalk
    have hfollows := Pass.follows_outcome hwalk
    rw [hstatus]
    exact Status.replaces_encode (ConditionSet.isEmpty_of_get? (Pass.degraded_outcome hgoes).1)
      hfollows.boundTemplate

end Controller

namespace Kubernetes

variable {c : Controller} {r : Resource} {start : Time} {log : Effects}
  {result : Controller.Returned × Controller} {w : Write} {stored change : Json}
  {name : String}

/-- The stored object has this status as it is written.  In place of none it may have null. -/
def HasStatus (stored : Json) (status : Option Status) : Prop :=
  (stored.get? "status").getD .null = (status.map Status.encode).getD .null

theorem get?_eq_lookup : stored.get? name = Table.lookup name (stored.fields?.getD []) := by
  cases stored <;> rfl

/-- The change of a status leaves the rest of an object. -/
theorem get?_statusChange {s : Status} : (stored.mergePatch (statusChange s)).get? name =
    if name = "status" then some (((stored.get? "status").getD .null).mergePatch s.encode)
    else stored.get? name := by
  have hmerged : (stored.mergePatch (statusChange s)).get? name =
      Table.lookup name (mergeFields (stored.fields?.getD []) [("status", s.encode)]) := by
    unfold statusChange mergePatch
    rfl
  have hne : s.encode ≠ .null := by
    rw [Status.encode_eq]
    simp
  rw [hmerged, lookup_mergeFields (List.pairwise_singleton _ _), get?_eq_lookup, get?_eq_lookup,
    Table.lookup]
  by_cases hname : name = "status"
  · rw [if_pos hname, if_pos hname, hname]
    exact patchField_of_ne hne
  · rw [if_neg hname, if_neg hname]
    rfl

/-- A status is sent as a change that is to be merged. -/
theorem merges_writeStatus {ns : String} {s : Status} : (writeStatus ns name s).Asks fun q =>
    q.method = .patch ∧ q.contentType = some "application/merge-patch+json" ∧
      q.body = some (statusChange s) :=
  Program.asks_bind (asks_named (asks_client_bind (asks_send fun _ _ => ⟨rfl, rfl, rfl⟩)
    fun _ => .done _)) fun _ => .done _

/-- **What is stored is what the pass has come to.**  Whatever status is stored and whatever the
spec asks for, and however the collaborators answer: a status that a reconciliation writes is
sent as a change to be merged, and once that is merged into the stored object, its status is
the one that was written and nothing besides.  It is read back as it was, its times to the
second, and the rest of the object is left. -/
theorem stored_as_written (h : Runs (c.reconcile r start) log result)
    (hw : w ∈ Effects.writes log) (hstorable : w.status.conditions.Storable) :
    ((writeStatus w.ns w.name w.status).Asks fun q => q.method = .patch ∧
      q.contentType = some "application/merge-patch+json" ∧
      q.body = some (statusChange w.status)) ∧
    ∀ stored, HasStatus stored r.status →
      let merged := stored.mergePatch (statusChange w.status)
      merged.get? "status" = some w.status.encode ∧
        (∀ name, name ≠ "status" → merged.get? name = stored.get? name) ∧
        Status.decode (.ofJson w.status.encode) = .ok (w.status.withTimes Time.truncate) := by
  refine ⟨merges_writeStatus, fun stored hstored => ⟨?_, fun name hname => ?_,
    Status.decode_encode hstorable⟩⟩
  · have hreplaces := Controller.replaces_of_mem_writes h hw
    rw [← hstored] at hreplaces
    rw [get?_statusChange, if_pos rfl, hreplaces]
  · rw [get?_statusChange, if_neg hname]

theorem stored_as_written_labelled :
    ∃ w ∈ Effects.writes Demo.boundEffects, w.status.conditions.Storable ∧
      HasStatus Demo.boundResource.encode Demo.boundResource.status ∧
      (Demo.boundResource.encode.mergePatch (statusChange w.status)).get? "status" =
        some w.status.encode ∧
      Status.decode (.ofJson w.status.encode) = .ok (w.status.withTimes Time.truncate) := by
  have hone : (Effects.writes Demo.boundEffects).length = 1 := by decide +kernel
  have hstorable : ∀ w ∈ Effects.writes Demo.boundEffects, w.status.conditions.Storable := by
    decide +kernel
  obtain ⟨w, hw⟩ := List.length_eq_one_iff.mp hone
  have hmem : w ∈ Effects.writes Demo.boundEffects := hw ▸ List.mem_singleton_self w
  have hruns := Program.runs_trace InMemory.World.answer
    ((Controller.start .standard).reconcile Demo.boundResource ⟨0, 0⟩) Demo.world
  obtain ⟨-, hmerges⟩ := stored_as_written hruns hmem (hstorable w hmem)
  obtain ⟨hstatus, -, hread⟩ := hmerges Demo.boundResource.encode rfl
  exact ⟨w, hmem, hstorable w hmem, rfl, hstatus, hread⟩

end Kubernetes

end ControlPlane
