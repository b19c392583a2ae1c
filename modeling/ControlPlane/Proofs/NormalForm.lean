/-
What is written of a value that was read.

A spec or a status can be written in many ways: with fields in any order, with some that nobody
knows, with conditions of one type several times, with times of any offset.  Once it was read and
written again there is one way left.  That writing is read as the same value, but for the
fractions of its times, and written again it is the same writing (`normal_form`).

The conditions of a list go into a table by their types, one after the other.  So the last one of
a type stays, and they come out in the order of the table.  That is the order of the characters
of their types, and of the bytes of these too, since UTF-8 keeps it (`utf8_lt`).
-/
import ControlPlane.Proofs.Encodings
import ControlPlane.Proofs.Readings
import Mathlib.Data.List.Induction

namespace ControlPlane

open Json

/-! ### The order of bytes -/

/-- The bytes of a text in UTF-8. -/
def utf8 (s : String) : Bytes := s.toByteArray.data.toList

theorem utf8_eq (s : String) : utf8 s = s.toList.flatMap String.utf8EncodeChar := by
  unfold utf8
  rw [← String.utf8Encode_toList, List.utf8Encode, List.data_toByteArray]

/-- Of two characters the greater one has the greater bytes, whatever follows either. -/
theorem utf8EncodeChar_lt {a b : Char} (h : a < b) (l m : Bytes) :
    String.utf8EncodeChar a ++ l < String.utf8EncodeChar b ++ m := by
  have hbound : ∀ c : Char, c.val.toNat < 1114112 := by
    intro c
    rcases c.valid with hvalid | hvalid <;> omega
  have ha := hbound a
  have hb := hbound b
  have hlt : a.val.toNat < b.val.toNat := h
  unfold String.utf8EncodeChar
  generalize a.val.toNat = v at ha hlt
  generalize b.val.toNat = w at hb hlt
  have hsecond : ∀ x, x / 4096 = x / 64 / 64 := by omega
  have hfirst : ∀ x, x / 262144 = x / 64 / 64 / 64 := by omega
  dsimp only
  simp only [hsecond, hfirst]
  -- All but the first byte carry one digit to the base 64 each.
  have hdigits : v / 64 / 64 / 64 < w / 64 / 64 / 64 ∨
      v / 64 / 64 / 64 = w / 64 / 64 / 64 ∧ (v / 64 / 64 % 64 < w / 64 / 64 % 64 ∨
      v / 64 / 64 % 64 = w / 64 / 64 % 64 ∧ (v / 64 % 64 < w / 64 % 64 ∨
      v / 64 % 64 = w / 64 % 64 ∧ v % 64 < w % 64)) := by omega
  -- The more bytes, the greater the first of them.
  repeat' split
  all_goals
    simp only [List.cons_append, List.nil_append, List.cons_lt_cons_iff, UInt8.lt_iff_toNat_lt,
      ← UInt8.toNat_inj, UInt8.toNat_ofNat']
    simp (disch := omega) only [Nat.mod_eq_of_lt]
    omega

/-- Texts are in the order of their bytes. -/
theorem utf8_lt {a b : String} (h : a < b) : utf8 a < utf8 b := by
  have hchars : ∀ {l m : List Char}, l < m →
      l.flatMap String.utf8EncodeChar < m.flatMap String.utf8EncodeChar := by
    intro l m h
    induction h with
    | @nil c m =>
      cases hbytes : String.utf8EncodeChar c with
      | nil => exact absurd hbytes String.utf8EncodeChar_ne_nil
      | cons byte bytes =>
        rw [List.flatMap_cons, hbytes]
        exact List.nil_lt_cons _ _
    | cons _ ih => exact List.append_left_lt ih
    | rel hlt => exact utf8EncodeChar_lt hlt _ _
  rw [utf8_eq, utf8_eq]
  exact hchars (String.lt_iff.mp h)

/-! ### What is read of a field -/

namespace Json

variable {α : Type} {read : Source → Decoded α} {a fallback : α} {r : Record} {s : Source}
  {position : Nat} {name : String}

theorem exists_of_mem_mapM {l : List Source} {values : List α} (h : l.mapM read = .ok values)
    (ha : a ∈ values) : ∃ s ∈ l, read s = .ok a := by
  induction l generalizing values with
  | nil =>
    cases h
    cases ha
  | cons s l ih =>
    rw [List.mapM_cons] at h
    obtain ⟨first, hfirst, h⟩ := Decoded.bind_eq_ok.mp h
    obtain ⟨rest, hrest, h⟩ := Decoded.bind_eq_ok.mp h
    cases h
    obtain rfl | ha := List.mem_cons.mp ha
    · exact ⟨s, List.mem_cons_self, hfirst⟩
    · obtain ⟨s', hs', hread⟩ := ih hrest ha
      exact ⟨s', List.mem_cons_of_mem _ hs', hread⟩

theorem exists_of_mem_list {values : List α} (h : asList read s = .ok values) (ha : a ∈ values) :
    ∃ item, read item = .ok a := by
  unfold asList at h
  split at h
  · obtain ⟨item, -, hread⟩ := exists_of_mem_mapM h ha
    exact ⟨item, hread⟩
  · cases h

/-- What is read of a field is read of something. -/
theorem exists_of_field? (h : r.field? position name read = .ok (some a)) :
    ∃ s, read s = .ok a := by
  obtain ⟨written, -, h⟩ := Decoded.bind_eq_ok.mp h
  obtain ⟨values, hvalues, h⟩ := Decoded.bind_eq_ok.mp h
  obtain ⟨s, -, hread⟩ := exists_of_mem_mapM hvalues (List.mem_of_getLast? (Except.ok.inj h))
  exact ⟨s, hread⟩

theorem exists_of_required (h : r.required position name read = .ok a) : ∃ s, read s = .ok a := by
  obtain ⟨found, hfound, h⟩ := Decoded.bind_eq_ok.mp h
  cases found with
  | none => cases h
  | some a' =>
    cases h
    exact exists_of_field? hfound

theorem exists_of_optional (h : r.optional position name read = .ok (some a)) :
    ∃ s, read s = .ok a := by
  obtain ⟨found, hfound, h⟩ := Decoded.bind_eq_ok.mp h
  cases found with
  | none => cases h
  | some o =>
    cases h
    obtain ⟨s, hs⟩ := exists_of_field? hfound
    unfold asOptional at hs
    split at hs
    · cases hs
    · cases hread : read s with
      | error e =>
        rw [hread] at hs
        cases hs
      | ok a' =>
        rw [hread] at hs
        cases hs
        exact ⟨s, hread⟩

/-- What a source has for a field of a record, written by name or at its place. -/
def Source.part? (s : Source) (position : Nat) (name : String) : Option Source :=
  match s with
  | .obj fields => Table.lookup name fields
  | .arr items => items[position]?
  | _ => none

/-- A field with a value of its own when it is absent is read of its source, if there is one. -/
theorem orElse_part {least most : Nat} (hr : asRecord least most s = .ok r)
    (h : r.orElse position name fallback read = .ok a) :
    match s.part? position name with
    | none => a = fallback
    | some part => read part = .ok a := by
  cases s with
  | obj fields =>
    cases hr
    unfold Source.part?
    dsimp only
    split
    · rename_i hlookup
      have hempty : (fields.filter fun e => e.1 = name) = [] :=
        List.filter_eq_nil_iff.mpr fun e he => by
          simpa using fun heq => Table.lookup_eq_none_iff.mp hlookup e he heq.symm
      refine orElse_unfound ?_ h
      unfold Record.found
      dsimp only
      rw [hempty]
      rfl
    · rename_i hlookup
      exact orElse_named hlookup h
  | arr items =>
    unfold asRecord at hr
    dsimp only at hr
    split at hr
    · cases hr
      have hfound : (Record.listed items).found position name = .ok items[position]?.toList := rfl
      unfold Source.part?
      dsimp only
      split
      · rename_i hitem
        exact orElse_unfound (hfound.trans (by rw [hitem]; rfl)) h
      · rename_i hitem
        exact orElse_found (hfound.trans (by rw [hitem]; rfl)) h
    · cases hr
  | _ => cases hr

end Json

/-! ### Conditions that were read -/

theorem Condition.storable_of_decode {s : Source} {c : Condition} (h : decode s = .ok c)
    (hyear : Time.InFourDigits c.observation.since.year) : c.observation.Storable := by
  obtain ⟨r, -, h⟩ := Decoded.bind_eq_ok.mp h
  obtain ⟨since, hsince, h⟩ := Decoded.bind_eq_ok.mp h
  obtain ⟨message, -, h⟩ := Decoded.bind_eq_ok.mp h
  obtain ⟨generation, hgeneration, h⟩ := Decoded.bind_eq_ok.mp h
  obtain ⟨reason, -, h⟩ := Decoded.bind_eq_ok.mp h
  obtain ⟨status, -, h⟩ := Decoded.bind_eq_ok.mp h
  obtain ⟨type, -, h⟩ := Decoded.bind_eq_ok.mp h
  cases h
  refine ⟨?_, hyear, ?_⟩
  · obtain ⟨s, hs⟩ := exists_of_required hsince
    obtain ⟨text, -, hs⟩ := Decoded.bind_eq_ok.mp hs
    split at hs
    · rename_i t hread
      cases hs
      exact Time.ofClock_of_read? hread
    · cases hs
  · rintro g rfl
    obtain ⟨s, hs⟩ := exists_of_optional hgeneration
    unfold asInt64 at hs
    split at hs
    · split at hs
      · cases hs
        assumption
      · cases hs
    · cases hs

namespace ConditionSet

variable {c : ConditionSet} {l : List Condition} {type : String} {o : Observation} {s : Source}

/-- An observation is the last one of its type in a list. -/
def LastOf (l : List Condition) (type : String) (o : Observation) : Prop :=
  ∃ before after, l = before ++ ⟨type, o⟩ :: after ∧ ∀ later ∈ after, later.type ≠ type

theorem lastOf_concat_iff {last : Condition} : LastOf (l ++ [last]) type o ↔
    if type = last.type then last.observation = o else LastOf l type o := by
  obtain ⟨lastType, lastObservation⟩ := last
  dsimp only
  constructor
  · rintro ⟨before, after, hsplit, hafter⟩
    obtain rfl | ⟨after, final, rfl⟩ := after.eq_nil_or_concat
    · obtain ⟨rfl, heq⟩ := List.append_inj' hsplit rfl
      cases heq
      rw [if_pos rfl]
    · have hsplit : l ++ [⟨lastType, lastObservation⟩] = (before ++ ⟨type, o⟩ :: after) ++ [final] := by
        simpa using hsplit
      obtain ⟨rfl, heq⟩ := List.append_inj' hsplit rfl
      cases heq
      rw [List.concat_eq_append] at hafter
      obtain ⟨hkept, hfinal⟩ := List.forall_mem_append.mp hafter
      rw [if_neg (Ne.symm (hfinal _ List.mem_cons_self))]
      exact ⟨before, after, rfl, hkept⟩
  · intro h
    by_cases htype : type = lastType
    · rw [if_pos htype] at h
      exact ⟨l, [], by rw [htype, h], List.forall_mem_nil _⟩
    · rw [if_neg htype] at h
      obtain ⟨before, after, rfl, hafter⟩ := h
      refine ⟨before, after ++ [⟨lastType, lastObservation⟩], by simp, ?_⟩
      refine List.forall_mem_append.mpr ⟨hafter, fun later hlater => ?_⟩
      rw [List.mem_singleton.mp hlater]
      exact Ne.symm htype

/-- The last observation of a type stays. -/
theorem get?_ofList_iff : (ofList l).get? type = some o ↔ LastOf l type o := by
  induction l using List.reverseRecOn with
  | nil =>
    refine iff_of_false nofun ?_
    rintro ⟨before, after, hsplit, -⟩
    exact absurd hsplit (by simp)
  | append_singleton l last ih =>
    have hinsert : ofList (l ++ [last]) =
        ⟨(ofList l).byType.insert last.type last.observation⟩ := by
      simp [ofList, Table.ofList, Table.insertMany]
    rw [hinsert, lastOf_concat_iff, ← ih, get?, Table.get?_insert]
    by_cases htype : type = last.type
    · rw [if_pos htype, if_pos htype, Option.some.injEq]
    · rw [if_neg htype, if_neg htype, get?]

/-- A set is read of a list of conditions. -/
theorem exists_list_of_decode (h : decode s = .ok c) :
    ∃ l, asList Condition.decode s = .ok l ∧ c = ofList l := by
  unfold decode at h
  cases hl : asList Condition.decode s with
  | error e =>
    rw [hl] at h
    cases h
  | ok l =>
    rw [hl] at h
    cases h
    exact ⟨l, rfl, rfl⟩

/-- All times are written with years of four digits. -/
def InFourDigits (c : ConditionSet) : Prop :=
  ∀ e ∈ c.byType.entries, Time.InFourDigits e.2.since.year

instance (c : ConditionSet) : Decidable c.InFourDigits :=
  inferInstanceAs (Decidable (∀ e ∈ c.byType.entries, Time.InFourDigits e.2.since.year))

theorem storable_of_decode (h : decode s = .ok c) (hyears : c.InFourDigits) : c.Storable := by
  obtain ⟨l, hl, rfl⟩ := exists_list_of_decode h
  intro e hmem
  have hget : (ofList l).get? e.1 = some e.2 := Table.get?_eq_some_iff.mpr hmem
  obtain ⟨before, after, hsplit, -⟩ := get?_ofList_iff.mp hget
  have hread : (⟨e.1, e.2⟩ : Condition) ∈ l := by
    rw [hsplit]
    exact List.mem_append_right _ List.mem_cons_self
  obtain ⟨item, hitem⟩ := exists_of_mem_list hl hread
  exact Condition.storable_of_decode hitem (hyears e hmem)

theorem encode_truncate (h : c.Storable) : c.truncate.encode = c.encode := by
  unfold encode toList truncate Table.map
  rw [List.map_map, List.map_map, List.map_map]
  refine congrArg Json.arr (List.map_congr_left fun e he => ?_)
  have htext := Time.text_truncate (h e he).clock
  simp only [Function.comp_apply, Condition.encode, Observation.truncate, htext]

end ConditionSet

/-! ### Writings in order -/

/-- The types of the conditions of a writing. -/
def Json.types : Json → List (Option Json)
  | .arr items => items.map (Json.get? "type")
  | _ => []

/-- The conditions of a writing are sorted by the bytes of their types, and none of these comes
twice. -/
def Json.SortedByType (j : Json) : Prop :=
  ∃ types : List String, j.types = types.map (fun type => some (.str type)) ∧ types.Nodup ∧
    types.Pairwise fun a b => utf8 a < utf8 b

theorem ConditionSet.sortedByType_encode (c : ConditionSet) : c.encode.SortedByType := by
  refine ⟨c.byType.keys, ?_, c.byType.nodup_keys, ?_⟩
  · unfold encode toList Json.types Table.keys
    dsimp only
    rw [List.map_map, List.map_map, List.map_map]
    refine List.map_congr_left fun e _ => ?_
    rw [Function.comp_apply, Function.comp_apply, Condition.encode_eq, Json.get?,
      lookup_written (Condition.rising_fields _)]
    rfl
  · exact (List.pairwise_map.mpr c.byType.sorted).imp utf8_lt

/-! ### Normal forms -/

/-- What is written of a value is read as that value, once it has settled, and this is written
alike. -/
structure Normal {α : Type} (read : Source → Decoded α) (write : α → Json) (settle : α → α)
    (a : α) : Prop where
  reads : Reads read (write a) (settle a)
  again : write (settle a) = write a

namespace Status

variable {x : Status} {v : Source}

theorem encode_withTimes (h : x.conditions.Storable) :
    (x.withTimes Time.truncate).encode = x.encode := by
  have hconditions : (x.withTimes Time.truncate).conditions.encode = x.conditions.encode :=
    ConditionSet.encode_truncate h
  have hempty : (x.withTimes Time.truncate).conditions.isEmpty = x.conditions.isEmpty := by
    unfold withTimes ConditionSet.isEmpty Table.isEmpty Table.map
    dsimp only
    rw [List.isEmpty_map]
  unfold encode
  rw [hconditions, hempty]
  rfl

/-- The conditions of a status that was read are those of a list, if it has one. -/
theorem conditions_of_decode (h : decode v = .ok x) :
    match v.part? 0 "conditions" with
    | none => x.conditions = .empty
    | some part => ConditionSet.decode part = .ok x.conditions := by
  obtain ⟨r, hr, h⟩ := Decoded.bind_eq_ok.mp h
  obtain ⟨conditions, hconditions, h⟩ := Decoded.bind_eq_ok.mp h
  obtain ⟨initialized, -, h⟩ := Decoded.bind_eq_ok.mp h
  obtain ⟨ready, -, h⟩ := Decoded.bind_eq_ok.mp h
  obtain ⟨boundTemplate, -, h⟩ := Decoded.bind_eq_ok.mp h
  cases h
  exact orElse_part hr hconditions

theorem storable_of_decode (h : decode v = .ok x) (hyears : x.conditions.InFourDigits) :
    x.conditions.Storable := by
  have hconditions := conditions_of_decode h
  split at hconditions
  · rw [hconditions]
    exact List.forall_mem_nil _
  · exact ConditionSet.storable_of_decode hconditions hyears

/-- The conditions of a written status, if it has any. -/
def writtenConditions (j : Json) : Json := (j.get? "conditions").getD (.arr [])

theorem writtenConditions_encode (x : Status) :
    writtenConditions x.encode = x.conditions.encode := by
  unfold writtenConditions
  rw [encode_eq, Json.get?, lookup_written x.rising_fields]
  by_cases hempty : x.conditions.isEmpty = true
  · have hnone : x.conditions.encode = .arr [] := by
      unfold ConditionSet.encode ConditionSet.toList
      rw [Table.eq_empty_of_isEmpty hempty]
      rfl
    simp [fields, Table.lookup, hempty, hnone]
  · simp [fields, Table.lookup, hempty]

end Status

/-- What is kept of a list of conditions: of every type the last one. -/
def ConditionSet.Keeps (c : ConditionSet) (l : List Condition) : Prop :=
  ∀ type o, c.get? type = some o ↔ LastOf l type o

/-- **What is written is a normal form.**  Whatever source a value is read of, what is written of
the value is read as the same one, but for the fractions of its times, and written again it is the
same.  Conditions are written in the order of the bytes of their types, each type once, and it is
the last condition of a type that is kept.  The times are those of years with four digits. -/
theorem normal_form (v : Source) :
    (∀ x, Spec.decode v = .ok x → Normal Spec.decode Spec.encode id x) ∧
    (∀ x, MachineTemplate.decode v = .ok x →
      Normal MachineTemplate.decode MachineTemplate.encode id x) ∧
    (∀ x, InfrastructureReference.decode v = .ok x →
      Normal InfrastructureReference.decode InfrastructureReference.encode id x) ∧
    (∀ x, SecretReference.decode v = .ok x →
      Normal SecretReference.decode SecretReference.encode id x) ∧
    (∀ x, ConditionSet.decode v = .ok x → x.InFourDigits →
      Normal ConditionSet.decode ConditionSet.encode ConditionSet.truncate x ∧ x.encode.SortedByType ∧
        ∃ l, asList Condition.decode v = .ok l ∧ x.Keeps l) ∧
    ∀ x, Status.decode v = .ok x → x.conditions.InFourDigits →
      Normal Status.decode Status.encode (·.withTimes Time.truncate) x ∧
        (Status.writtenConditions x.encode).SortedByType ∧
        match v.part? 0 "conditions" with
        | none => x.conditions = .empty
        | some part => ∃ l, asList Condition.decode part = .ok l ∧ x.conditions.Keeps l := by
  have hkeeps : ∀ {s : Source} {c : ConditionSet}, ConditionSet.decode s = .ok c →
      ∃ l, asList Condition.decode s = .ok l ∧ c.Keeps l := by
    intro s c h
    obtain ⟨l, hl, rfl⟩ := ConditionSet.exists_list_of_decode h
    exact ⟨l, hl, fun _ _ => ConditionSet.get?_ofList_iff⟩
  refine ⟨fun x _ => ⟨x.decode_encode, rfl⟩, fun x _ => ⟨x.decode_encode, rfl⟩,
    fun x _ => ⟨x.decode_encode, rfl⟩, fun x _ => ⟨x.decode_encode, rfl⟩,
    fun x hx hyears => ?_, fun x hx hyears => ?_⟩
  · have hstorable := ConditionSet.storable_of_decode hx hyears
    exact ⟨⟨ConditionSet.decode_encode hstorable, ConditionSet.encode_truncate hstorable⟩,
      x.sortedByType_encode, hkeeps hx⟩
  · have hstorable := Status.storable_of_decode hx hyears
    refine ⟨⟨Status.decode_encode hstorable, Status.encode_withTimes hstorable⟩, ?_, ?_⟩
    · rw [Status.writtenConditions_encode]
      exact x.conditions.sortedByType_encode
    · have hconditions := Status.conditions_of_decode hx
      split at hconditions
      · exact hconditions
      · exact hkeeps hconditions

namespace Demo

/-- A condition with a type, a reason and a time. -/
def conditionSource (type reason time : String) : Source :=
  .obj [("type", .str type), ("status", .str "True"), ("reason", .str reason),
    ("lastTransitionTime", .str time)]

/-- A status with two conditions of one type, out of order, and with times of many forms. -/
def statusSource : Source :=
  .obj [("ready", .bool false), ("unknown", .null), ("initialized", .bool true),
    ("conditions", .arr [conditionSource "Ready" "First" "2016-12-31T23:59:60.5Z",
      conditionSource "Degraded" "Other" "2020-01-01 02:00:00.25+02:00",
      conditionSource "Ready" "Last" "2016-12-31T23:59:60.75Z"])]

/-- What is read of it. -/
def statusRead : Status :=
  match Status.decode statusSource with
  | .ok x => x
  | .error _ => .blank

end Demo

/-- The last of the two conditions is kept, with the leap second that it has. -/
theorem normal_form_repeated :
    Status.decode Demo.statusSource = .ok Demo.statusRead ∧
      Normal Status.decode Status.encode (·.withTimes Time.truncate) Demo.statusRead ∧
      (Status.writtenConditions Demo.statusRead.encode).types =
        [some (.str "Degraded"), some (.str "Ready")] ∧
      Demo.statusRead.conditions.get? "Ready" =
        some ⟨"True", "Last", "", none, ⟨1483228799, 1750000000⟩⟩ := by
  have hread : Status.decode Demo.statusSource = .ok Demo.statusRead := by rfl
  obtain ⟨-, -, -, -, -, hstatus⟩ := normal_form Demo.statusSource
  obtain ⟨hnormal, -, -⟩ := hstatus Demo.statusRead hread (by decide +kernel)
  exact ⟨hread, hnormal, by rfl, by decide +kernel⟩

end ControlPlane
