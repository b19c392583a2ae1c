/-
Records as they are written, and as they are read back.

A record is written as an object whose fields rise by name, and a field that is not set is
left out of it.  `written` makes such an object of all fields of a record.  A reader that asks
for a field finds what was written for it and nothing else, in whatever order it asks.
-/
import ControlPlane.Json.Decode

namespace ControlPlane

namespace Table

variable {κ α : Type} [LT κ]

theorem eq_empty_of_isEmpty {t : Table κ α} (h : t.isEmpty = true) : t = .empty := by
  obtain ⟨entries, sorted⟩ := t
  cases List.isEmpty_iff.mp h
  rfl

/-- The keys of a table come in their order, so each of them comes once. -/
theorem nodup_keys [KeyOrder κ] (t : Table κ α) : t.keys.Nodup := by
  refine (List.pairwise_map.mpr t.sorted).imp fun {a b} (hlt : a < b) => ?_
  rintro rfl
  exact KeyOrder.irrefl a hlt

variable [DecidableEq κ] [DecidableLT κ] [KeyOrder κ]

/-- The entries of a table make up the table. -/
theorem ofList_entries (t : Table κ α) : ofList t.entries = t := by
  refine ext fun k => ?_
  have hlookup : lookup k t.entries.reverse = t.get? k := by
    cases h : lookup k t.entries.reverse with
    | none =>
      rw [lookup_eq_none_iff] at h
      exact (lookup_eq_none_iff.mpr fun e he => h e (List.mem_reverse.mpr he)).symm
    | some v => exact (get?_eq_some_iff.mpr (List.mem_reverse.mp (mem_of_lookup h))).symm
  unfold ofList
  rw [get?_insertMany, hlookup, get?_empty, Option.or_none]

end Table

namespace Json

variable {α β : Type}

theorem Decoded.bind_eq_ok {x : Decoded α} {f : α → Decoded β} {b : β} :
    (x >>= f) = .ok b ↔ ∃ a, x = .ok a ∧ f a = .ok b := by
  cases x with
  | error e =>
    constructor
    · intro h
      cases h
    · rintro ⟨a, ha, -⟩
      cases ha
  | ok a =>
    constructor
    · intro h
      exact ⟨a, rfl, h⟩
    · rintro ⟨a', ha, h⟩
      cases ha
      exact h

/-! ### Fields -/

/-- Fields in the order of their names, each name once. -/
abbrev Rising (fields : List (String × α)) : Prop := fields.Pairwise fun a b => a.1 < b.1

theorem rising_of_names {fields : List (String × α)}
    (h : (fields.map Prod.fst).Pairwise (· < ·)) : Rising fields :=
  List.pairwise_map.mp h

/-- The fields of a record that are set. -/
def written (fields : List (String × Option Json)) : List (String × Json) :=
  fields.filterMap fun f => f.2.map (f.1, ·)

variable {fields : List (String × Json)} {all : List (String × Option Json)} {name : String}
  {f : String × Option Json} {j : Json}

theorem written_cons : written (f :: all) = (f.2.map (f.1, ·)).toList ++ written all := by
  unfold written
  rw [List.filterMap_cons]
  cases f.2 <;> rfl

theorem exists_of_mem_written {e : String × Json} (h : e ∈ written all) :
    (e.1, some e.2) ∈ all := by
  obtain ⟨⟨name, o⟩, hf, he⟩ := List.mem_filterMap.mp h
  obtain ⟨j, rfl, rfl⟩ := Option.map_eq_some_iff.mp he
  exact hf

theorem rising_written (h : Rising all) : Rising (written all) := by
  induction all with
  | nil => exact .nil
  | cons f all ih =>
    obtain ⟨hfirst, hrest⟩ := List.pairwise_cons.mp h
    rw [written_cons]
    cases hf : f.2 with
    | none => exact ih hrest
    | some j =>
      rw [Option.map_some, Option.toList_some, List.singleton_append]
      exact .cons (fun e he => hfirst _ (exists_of_mem_written he)) (ih hrest)

theorem lookup_written (h : Rising all) :
    Table.lookup name (written all) = (Table.lookup name all).join := by
  induction all with
  | nil => rfl
  | cons f all ih =>
    obtain ⟨hfirst, hrest⟩ := List.pairwise_cons.mp h
    rw [written_cons, Table.lookup]
    by_cases hname : name = f.1
    · rw [if_pos hname]
      cases hf : f.2 with
      | none =>
        have hnone : Table.lookup name all = none := Table.lookup_eq_none_iff.mpr fun e he heq =>
          KeyOrder.irrefl f.1 ((hname.symm.trans heq) ▸ hfirst e he)
        rw [Option.map_none, Option.toList_none, List.nil_append, ih hrest, hnone]
        rfl
      | some j =>
        rw [Option.map_some, Option.toList_some, List.singleton_append, Table.lookup, if_pos hname]
        rfl
    · rw [if_neg hname, ← ih hrest]
      cases f.2 with
      | none => rfl
      | some j =>
        rw [Option.map_some, Option.toList_some, List.singleton_append, Table.lookup, if_neg hname]

/-! ### Readers -/

/-- A reader takes this from a value. -/
abbrev Reads (read : Source → Decoded α) (j : Json) (a : α) : Prop := read (.ofJson j) = .ok a

theorem lookup_ofFields :
    Table.lookup name (Source.ofFields fields) = (Table.lookup name fields).map Source.ofJson := by
  induction fields with
  | nil => rfl
  | cons e rest ih =>
    obtain ⟨key, j⟩ := e
    by_cases h : name = key
    · simp [Source.ofFields, Table.lookup, h]
    · simp [Source.ofFields, Table.lookup, h, ih]

/-! A record of the library's own types names no field twice, so a field that is there is what
the reader gets. -/

theorem found_named {fields : List (String × Source)} {position : Nat} {name : String}
    {v : Source} {written : List Source} (hv : Table.lookup name fields = some v)
    (h : (Record.named true fields).found position name = .ok written) : written = [v] := by
  have hmem : v ∈ (fields.filter fun e => e.1 = name).map (·.2) :=
    List.mem_map.mpr ⟨(name, v), List.mem_filter.mpr ⟨Table.mem_of_lookup hv, by simp⟩, rfl⟩
  unfold Record.found at h
  dsimp only at h
  split at h
  · cases h
  · rename_i honce
    cases h
    obtain ⟨a, ha⟩ : ∃ a, (fields.filter fun e => e.1 = name).map (·.2) = [a] := by
      refine List.length_eq_one_iff.mp ?_
      have hpos := List.length_pos_of_mem hmem
      simp only [true_and, Nat.not_lt] at honce
      omega
    rw [ha] at hmem ⊢
    rw [List.mem_singleton.mp hmem]

/-- Where nothing is written for a field, its own value is read. -/
theorem orElse_unfound {α : Type} {r : Record} {position : Nat} {name : String} {fallback a : α}
    {read : Source → Decoded α} (hfound : r.found position name = .ok [])
    (h : r.orElse position name fallback read = .ok a) : a = fallback := by
  unfold Record.orElse Record.field? at h
  rw [hfound] at h
  cases h
  rfl

theorem orElse_found {α : Type} {r : Record} {position : Nat} {name : String} {v : Source}
    {fallback a : α} {read : Source → Decoded α} (hfound : r.found position name = .ok [v])
    (h : r.orElse position name fallback read = .ok a) : read v = .ok a := by
  unfold Record.orElse Record.field? at h
  rw [hfound] at h
  obtain ⟨value, hfield, hvalue⟩ := Decoded.bind_eq_ok.mp h
  obtain ⟨_, ⟨⟩, hvalues⟩ := Decoded.bind_eq_ok.mp hfield
  obtain ⟨values, hread, hlast⟩ := Decoded.bind_eq_ok.mp hvalues
  cases hlast
  cases hv : read v with
  | error e =>
    rw [List.mapM_cons, hv] at hread
    cases hread
  | ok a' =>
    rw [List.mapM_cons, hv, List.mapM_nil] at hread
    cases hread
    cases hvalue
    rfl

theorem orElse_named {α : Type} {fields : List (String × Source)} {position : Nat} {name : String}
    {v : Source} {fallback a : α} {read : Source → Decoded α}
    (hv : Table.lookup name fields = some v)
    (h : (Record.named true fields).orElse position name fallback read = .ok a) :
    read v = .ok a := by
  obtain ⟨value, hfield, -⟩ := Decoded.bind_eq_ok.mp h
  obtain ⟨written, hwritten, -⟩ := Decoded.bind_eq_ok.mp hfield
  rw [found_named hv hwritten] at hwritten
  exact orElse_found hwritten h

/-- Among rising fields a name is found once at most. -/
theorem filter_ofFields (h : Rising fields) :
    ((Source.ofFields fields).filter fun e => e.1 = name).map (·.2) =
      ((Table.lookup name fields).map Source.ofJson).toList := by
  induction fields with
  | nil => rfl
  | cons e rest ih =>
    obtain ⟨key, j⟩ := e
    obtain ⟨hfirst, hrest⟩ := List.pairwise_cons.mp h
    rw [Source.ofFields, Table.lookup]
    by_cases hname : name = key
    · have hnone : Table.lookup name rest = none := Table.lookup_eq_none_iff.mpr fun e he heq =>
        KeyOrder.irrefl key ((hname.symm.trans heq) ▸ hfirst e he)
      rw [if_pos hname, List.filter_cons_of_pos (by simpa using hname.symm), List.map_cons, ih hrest,
        hnone]
      rfl
    · rw [if_neg hname, List.filter_cons_of_neg (by simpa using fun h => hname h.symm), ih hrest]

variable {once : Bool} {position : Nat} {read : Source → Decoded α} {a fallback : α} {o : Option α}
  {write : α → Json}

theorem field?_written (h : Rising all) :
    (Record.named once (Source.ofFields (written all))).field? position name read =
      match (Table.lookup name all).join with
      | none => .ok none
      | some j => some <$> read (.ofJson j) := by
  unfold Record.field? Record.found
  dsimp only
  rw [filter_ofFields (rising_written h), lookup_written h]
  cases (Table.lookup name all).join with
  | none =>
    rw [if_neg (by simp)]
    rfl
  | some j =>
    rw [if_neg (by simp)]
    show ((Source.ofJson j :: []).mapM read >>= _) = _
    rw [List.mapM_cons, List.mapM_nil]
    dsimp only
    cases read (.ofJson j) <;> rfl

theorem required_written (h : Rising all) (hfield : Table.lookup name all = some (some j))
    (hread : Reads read j a) :
    (Record.named once (Source.ofFields (written all))).required position name read = .ok a := by
  unfold Record.required
  rw [field?_written h, hfield, Option.join_some]
  dsimp only
  rw [hread]
  rfl

theorem orElse_written (h : Rising all) (hfield : Table.lookup name all = some (some j))
    (hread : Reads read j a) :
    (Record.named once (Source.ofFields (written all))).orElse position name fallback read =
      .ok a := by
  unfold Record.orElse
  rw [field?_written h, hfield, Option.join_some]
  dsimp only
  rw [hread]
  rfl

/-- What is left out is read as what it stands for. -/
theorem orElse_unwritten (h : Rising all) (hfield : Table.lookup name all = some none) :
    (Record.named once (Source.ofFields (written all))).orElse position name fallback read =
      .ok fallback := by
  unfold Record.orElse
  rw [field?_written h, hfield, Option.join_some]
  rfl

theorem optional_written (h : Rising all) (hfield : Table.lookup name all = some (o.map write))
    (hread : ∀ v, o = some v → Reads (asOptional read) (write v) (some v)) :
    (Record.named once (Source.ofFields (written all))).optional position name read = .ok o := by
  unfold Record.optional
  cases o with
  | none => exact orElse_unwritten h hfield
  | some v => exact orElse_written h hfield (hread v rfl)

/-- What is not null is read by a reader that takes null for unset, too. -/
theorem reads_optional (h : Reads read j a) (hnull : j ≠ .null) :
    Reads (asOptional read) j (some a) := by
  have hsome : asOptional read (.ofJson j) = some <$> read (.ofJson j) := by
    cases j with
    | null => exact absurd rfl hnull
    | _ => rfl
  rw [Reads, hsome, h]
  rfl

theorem nullable_written (h : Rising all) (hfield : Table.lookup name all = some (some j))
    (hread : Reads (asOptional read) j (some a)) :
    (Record.named once (Source.ofFields (written all))).nullable position name fallback read =
      .ok a := by
  unfold Record.nullable Record.optional
  rw [orElse_written h hfield hread]
  rfl

/-! ### Lists and tables -/

theorem reads_list {write : β → Json} {f : β → α} {l : List β}
    (h : ∀ x ∈ l, Reads read (write x) (f x)) :
    Reads (asList read) (.arr (l.map write)) (l.map f) := by
  show (Source.ofItems (l.map write)).mapM read = .ok (l.map f)
  induction l with
  | nil => rfl
  | cons x l ih =>
    obtain ⟨hx, hrest⟩ := List.forall_mem_cons.mp h
    rw [List.map_cons, Source.ofItems, List.mapM_cons, hx, ih hrest]
    rfl

/-- Items that are read back as they were written make up the list again. -/
theorem reads_same {l : List α} (h : ∀ x, Reads read (write x) x) :
    Reads (asList read) (.arr (l.map write)) l := by
  have hread : Reads (asList read) (.arr (l.map write)) (l.map id) := reads_list fun x _ => h x
  rwa [List.map_id] at hread

/-- A table whose values are read back as they were written is read back. -/
theorem reads_table {write : α → Json} {read : Source → Decoded α}
    (h : ∀ x, Reads read (write x) x) (t : Table String α) :
    Reads (asTable read) (.obj (t.entries.map fun e => (e.1, write e.2))) t := by
  have hfields : ∀ l : List (String × α),
      readFields read (Source.ofFields (l.map fun e => (e.1, write e.2))) = .ok l := by
    intro l
    induction l with
    | nil => rfl
    | cons e l ih =>
      rw [List.map_cons, Source.ofFields, readFields, h e.2, ih]
      rfl
  show Table.ofList <$> readFields read (Source.ofFields (t.entries.map fun e => (e.1, write e.2)))
    = .ok t
  rw [hfields]
  exact congrArg Except.ok t.ofList_entries

theorem reads_texts (t : Table String String) : Reads (asTable asString) (ofTexts t) t :=
  reads_table (fun _ => rfl) t

end Json

end ControlPlane
