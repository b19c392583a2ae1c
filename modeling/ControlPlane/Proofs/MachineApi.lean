/-
The cluster API, as far as machines go.

The API is a parameter: it replies to requests and changes.  It keeps objects, each at the path
that requests about it go to, and `KeepsAt` is what is relied on about such a path.  A look-up
changes nothing and tells whether an object is kept; an object that is applied where none is
kept is kept from then on; a request that fails has changed nothing.  Any request may fail,
and nothing is said of an object that is applied over another one.

`Lawful` is what is relied on about the machines of a namespace: each is kept at its path, with
the labels that it was applied with, and a list has the ones whose labels its query accepts.  A
query of equalities accepts the labels for which they hold.
-/
import ControlPlane.Proofs.Api

namespace ControlPlane.Kubernetes

open Program (Reaches)

/-- The cluster API, as far as machines go. -/
structure MachineApi (σ : Type) where
  reply : Request → σ → Reply × σ
  /-- The objects by their paths, without what the API itself adds to them. -/
  kept : σ → String → Option Json
  /-- What is kept of an object that is applied where none is. -/
  made : Json → Json
  /-- The parameters of a list accept some labels. -/
  accepts : List (String × String) → Labels → Bool

/-- Objects by their paths, with one more. -/
def putAt (path : String) (object : Json) (objects : String → Option Json) : String → Option Json :=
  fun place => if place = path then some object else objects place

namespace MachineApi

variable {σ : Type}

/-- What is relied on about a path at which objects are kept. -/
structure KeepsAt (api : MachineApi σ) (path : String) : Prop where
  /-- A look-up changes nothing. -/
  looked : ∀ (query : List (String × String)) (s : σ),
    api.kept (api.reply ⟨.get, path, query, none, none⟩ s).2 = api.kept s
  /-- An object that is read is kept. -/
  found : ∀ {query : List (String × String)} {s : σ} {object : Json},
    (api.reply ⟨.get, path, query, none, none⟩ s).1.read decodeObject = .ok object →
    (api.kept s path).isSome = true
  /-- An object that is said not to exist is not kept. -/
  missing : ∀ {query : List (String × String)} {s : σ} {fault : Fault},
    (api.reply ⟨.get, path, query, none, none⟩ s).1.read decodeObject = .error fault →
    fault.isNotFound = true → api.kept s path = none
  /-- An object that is applied where none is kept is kept from then on. -/
  made : ∀ {query : List (String × String)} {object answer : Json} {s s' : σ} {reply : Reply},
    api.kept s path = none →
    api.reply ⟨.patch, path, query, some "application/apply-patch+yaml", some object⟩ s = (reply, s') →
    reply.read decodeObject = .ok answer →
    api.kept s' = putAt path (api.made object) (api.kept s)
  /-- An apply that fails has changed nothing. -/
  failed : ∀ {query : List (String × String)} {object : Json} {s s' : σ} {reply : Reply} {fault : Fault},
    api.reply ⟨.patch, path, query, some "application/apply-patch+yaml", some object⟩ s = (reply, s') →
    reply.read decodeObject = .error fault → api.kept s' = api.kept s

end MachineApi

/-! ### Labels -/

/-- A label as it is written, with a text for its value. -/
def labelOf? : String × Json → Option (String × String)
  | (key, .str value) => some (key, value)
  | _ => none

/-- The labels of an object. -/
def labelsOf (object : Json) : Labels :=
  match (object.get? "metadata").bind (Json.get? "labels") with
  | some (.obj fields) => .ofList (fields.filterMap labelOf?)
  | _ => .empty

/-- A key or a value of a label, written with letters that mean nothing else in a query. -/
def IsLabelText (text : String) : Prop :=
  text ≠ "" ∧ ∀ c ∈ text.toList, isNameCharacter c = true ∨ c = '/'

theorem IsLabelText.of_all {text : String} (hne : text ≠ "")
    (h : text.toList.all (fun c => isNameCharacter c || c = '/') = true) : IsLabelText text :=
  ⟨hne, fun c hc => by simpa using List.all_eq_true.mp h c hc⟩

theorem IsName.isLabelText {name : String} (h : IsName name) : IsLabelText name :=
  ⟨h.1, fun c hc => .inl (h.2 c hc)⟩

theorem IsLabelText.not_mem {text : String} {mark : Char} (h : IsLabelText text)
    (hmark : isNameCharacter mark = false ∧ mark ≠ '/') : mark ∉ text.toList := by
  intro hmem
  rcases h.2 mark hmem with hname | hslash
  · rw [hmark.1] at hname
    cases hname
  · exact hmark.2 hslash

/-- A query of equalities, as the API reads it. -/
def equalitiesText (equalities : List (String × String)) : String :=
  ",".intercalate (equalities.map fun e => e.1 ++ "=" ++ e.2)

/-- What is relied on about the machines that the API keeps. -/
structure MachineApi.Lawful {σ : Type} (api : MachineApi σ) : Prop where
  /-- A machine is kept at its path. -/
  keepsAt : ∀ {ns name : String}, IsName ns → IsName name →
    api.KeepsAt (ObjectType.machines.objectPath ns name)
  /-- It has the labels that it was applied with. -/
  labelled : ∀ object : Json, labelsOf (api.made object) = labelsOf object
  /-- The machines of a list have the statuses of those that it asks for. -/
  listed : ∀ {ns : String} {query : List (String × String)} {s : σ} {items : List Json}, IsName ns →
    (api.reply ⟨.get, ObjectType.machines.path ns, query, none, none⟩ s).1.read
      (decodeItems decodeObject) = .ok items →
    ∀ status : Option Json, (∃ item ∈ items, item.get? "status" = status) ↔
      ∃ name object, IsName name ∧
        api.kept s (ObjectType.machines.objectPath ns name) = some object ∧
          api.accepts query (labelsOf object) = true ∧ object.get? "status" = status
  /-- A query of equalities accepts the labels for which they hold. -/
  selects : ∀ {equalities : List (String × String)} {labels : Labels},
    (∀ e ∈ equalities, IsLabelText e.1 ∧ IsLabelText e.2) →
    (api.accepts [("labelSelector", equalitiesText equalities)] labels = true ↔
      ∀ e ∈ equalities, labels.get? e.1 = some e.2)

/-! ### Requests about one object -/

namespace MachineApi.KeepsAt

variable {σ : Type} {api : MachineApi σ} {t : ObjectType} {ns name : String} {object : Json} {s s' : σ}

theorem reaches_get? (h : api.KeepsAt (placeOf (t.objectPath ns name)))
    (hreach : Reaches api.reply (Client.get? t ns name decodeObject).run s s') :
    api.kept s' = api.kept s := by
  rcases get?_eq t ns name decodeObject with hget | ⟨query, hget⟩
  · rw [hget] at hreach
    rw [hreach.of_done]
  · rw [hget] at hreach
    rcases hreach.of_question with rfl | rfl
    · rfl
    · exact h.looked query s

theorem kept_of_run_get? {result : Except Fault (Option Json)}
    (h : api.KeepsAt (placeOf (t.objectPath ns name)))
    (hrun : (Client.get? t ns name decodeObject).run.run api.reply s = (result, s')) :
    api.kept s' = api.kept s := by
  have hreach := Program.reaches_run api.reply (Client.get? t ns name decodeObject).run s
  rw [hrun] at hreach
  exact h.reaches_get? hreach

/-- A look-up that is answered tells whether there is an object. -/
theorem run_get? {found : Option Json} (h : api.KeepsAt (placeOf (t.objectPath ns name)))
    (hrun : (Client.get? t ns name decodeObject).run.run api.reply s = (.ok found, s')) :
    found.isSome = (api.kept s (placeOf (t.objectPath ns name))).isSome := by
  rcases get?_eq t ns name decodeObject with hget | ⟨query, hget⟩
  · rw [hget] at hrun
    cases hrun
  · rw [hget] at hrun
    rcases lookedUp_eq_ok (congrArg Prod.fst hrun) with
      ⟨object, hread, rfl⟩ | ⟨fault, hread, hmissing, rfl⟩
    · exact (h.found hread).symm
    · rw [h.missing hread hmissing]

/-- An apply where no object is kept makes one, or fails and changes nothing. -/
theorem run_apply (h : api.KeepsAt (placeOf (t.objectPath ns name)))
    (habsent : api.kept s (placeOf (t.objectPath ns name)) = none)
    {result : Except Fault Unit}
    (hrun : (Client.apply t ns name object decodeObject).run.run api.reply s = (result, s')) :
    (result = .ok () ∧
        api.kept s' = putAt (placeOf (t.objectPath ns name)) (api.made object) (api.kept s)) ∨
      ((∃ fault, result = .error fault) ∧ api.kept s' = api.kept s) := by
  rcases apply_eq t ns name object decodeObject with happly | ⟨query, happly⟩
  · rw [happly] at hrun
    cases hrun
    exact .inr ⟨⟨_, rfl⟩, rfl⟩
  · rw [happly] at hrun
    cases hreply : api.reply ⟨.patch, placeOf (t.objectPath ns name), query,
      some "application/apply-patch+yaml", some object⟩ s with
    | mk reply s'' =>
      simp only [Program.run, hreply] at hrun
      cases hread : reply.read decodeObject with
      | ok answer =>
        rw [hread] at hrun
        cases hrun
        exact .inl ⟨rfl, h.made habsent hreply hread⟩
      | error fault =>
        rw [hread] at hrun
        cases hrun
        exact .inr ⟨⟨fault, rfl⟩, h.failed hreply hread⟩

theorem reaches_apply (h : api.KeepsAt (placeOf (t.objectPath ns name)))
    (habsent : api.kept s (placeOf (t.objectPath ns name)) = none)
    (hreach : Reaches api.reply (Client.apply t ns name object decodeObject).run s s') :
    api.kept s' = api.kept s ∨
      api.kept s' = putAt (placeOf (t.objectPath ns name)) (api.made object) (api.kept s) := by
  have hstopped : s' = s ∨
      s' = ((Client.apply t ns name object decodeObject).run.run api.reply s).2 := by
    rcases apply_eq t ns name object decodeObject with happly | ⟨query, happly⟩
    · rw [happly] at hreach
      exact .inl hreach.of_done
    · rw [happly] at hreach ⊢
      exact hreach.of_question
  rcases hstopped with rfl | rfl
  · exact .inl rfl
  · rcases h.run_apply habsent rfl with ⟨-, hmade⟩ | ⟨-, hsame⟩
    · exact .inr hmade
    · exact .inl hsame

end MachineApi.KeepsAt

end ControlPlane.Kubernetes
