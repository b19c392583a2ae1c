/-
Which names of secrets the published schema takes.

The schema limits the name of a secret by a regular expression and by a number of characters.
The controller checks the name on its own, in another order, and counts bytes.  Both come to the
same texts: a name is one letter or digit, or two of them with up to 251 characters in between,
and since each of these characters is one byte it does not matter what is counted.

So a spec that the cluster's API lets through has no fault in this name, and one with a fault in
it never gets so far.
-/
import ControlPlane.Crd.Definition
import ControlPlane.Proofs.Rules

namespace ControlPlane

namespace Crd

/-- The schema of a value inside of a record, by the names of the fields on the way to it. -/
def Schema.at? : List String → Schema → Option Schema
  | [], s => some s
  | name :: path, .record _ fields _ => (fields.lookup name).bind (Schema.at? path)
  | _ :: _, _ => none

/-- A text that is not too long and that the pattern takes.  Its length is the number of its
characters, however many bytes they have. -/
structure TextLimits.Admits (limits : TextLimits) (text : String) : Prop where
  short : ∀ most ∈ limits.most, text.length ≤ most
  taken : ∀ p ∈ limits.pattern, p.Matches text.toList

/-! ### Characters -/

variable {c : Char} {cs : List Char}

theorem inClass_nameEnd_iff : Pattern.inClass nameEnd c = true ↔ NameEnd c := by
  simp [Pattern.inClass, nameEnd, CharRange.contains, NameEnd]

theorem inClass_nameInside_iff : Pattern.inClass nameInside c = true ↔ NameCharacter c := by
  have hsplit : Pattern.inClass nameInside c = true ↔
      c = '-' ∨ c = '.' ∨ Pattern.inClass nameEnd c = true := by
    simp [Pattern.inClass, nameInside, CharRange.contains]
  rw [hsplit, inClass_nameEnd_iff]
  unfold NameCharacter
  constructor
  · intro h
    rcases h with h | h | h
    · exact Or.inr (Or.inl h)
    · exact Or.inr (Or.inr h)
    · exact Or.inl h
  · intro h
    rcases h with h | h | h
    · exact Or.inr (Or.inr h)
    · exact Or.inl h
    · exact Or.inr (Or.inl h)

/-- The characters of a name are ASCII. -/
theorem utf8Size_of_nameCharacter (h : NameCharacter c) : c.utf8Size = 1 := by
  have hsmall : c.toNat ≤ 127 := by
    rcases h with (⟨_, hle⟩ | ⟨_, hle⟩) | rfl | rfl
    · exact Nat.le_trans hle (by decide)
    · exact Nat.le_trans hle (by decide)
    · decide
    · decide
  exact Char.utf8Size_eq_one_iff.mpr hsmall

theorem byteLength_of_nameCharacters (h : ∀ c ∈ cs, NameCharacter c) :
    Text.byteLength cs = cs.length := by
  induction cs with
  | nil => rfl
  | cons c rest ih =>
      obtain ⟨hc, hrest⟩ := List.forall_mem_cons.mp h
      simp only [Text.byteLength, List.length_cons, utf8Size_of_nameCharacter hc, ih hrest]
      omega

/-! ### The pattern -/

/-- What the pattern of names takes, its parts laid open. -/
theorem matches_secretNamePattern_iff : secretNamePattern.Matches cs ↔
    ∃ first rest, cs = first :: rest ∧ NameEnd first ∧
      (rest = [] ∨ ∃ inner last, rest = inner ++ [last] ∧ NameEnd last ∧
        (∀ c ∈ inner, NameCharacter c) ∧ inner.length ≤ 251) := by
  have hclass : ∀ s, Pattern.Matches (.oneOf nameEnd) s ↔ ∃ c, NameEnd c ∧ s = [c] := by
    intro s
    simp only [Pattern.Matches, inClass_nameEnd_iff]
  have hinner : ∀ s, Pattern.Matches (.repeated nameInside 0 251) s ↔
      (∀ c ∈ s, NameCharacter c) ∧ s.length ≤ 251 := by
    intro s
    simp only [Pattern.Matches, inClass_nameInside_iff, Nat.zero_le, true_and]
  show (∃ front back, cs = front ++ back ∧ Pattern.Matches (.oneOf nameEnd) front ∧
    (back = [] ∨ ∃ inner tail, back = inner ++ tail ∧
      Pattern.Matches (.repeated nameInside 0 251) inner ∧
      Pattern.Matches (.oneOf nameEnd) tail)) ↔ _
  simp only [hclass, hinner]
  constructor
  · rintro ⟨_, rest, rfl, ⟨first, hfirst, rfl⟩, hrest⟩
    refine ⟨first, rest, rfl, hfirst, ?_⟩
    rcases hrest with hnil | ⟨inner, _, hsplit, ⟨hin, hlen⟩, last, hlast, rfl⟩
    · exact Or.inl hnil
    · exact Or.inr ⟨inner, last, hsplit, hlast, hin, hlen⟩
  · rintro ⟨first, rest, rfl, hfirst, hrest⟩
    refine ⟨[first], rest, rfl, ⟨first, hfirst, rfl⟩, ?_⟩
    rcases hrest with hnil | ⟨inner, last, hsplit, hlast, hin, hlen⟩
    · exact Or.inl hnil
    · exact Or.inr ⟨inner, [last], hsplit, ⟨hin, hlen⟩, last, hlast, rfl⟩

/-- The same as conditions on the whole text: on its length, on all of its characters, and on its
two ends. -/
theorem matches_iff_ends : secretNamePattern.Matches cs ↔
    cs ≠ [] ∧ cs.length ≤ 253 ∧ (∀ c ∈ cs, NameCharacter c) ∧
      (∀ c ∈ cs.head?, NameEnd c) ∧ ∀ c ∈ cs.getLast?, NameEnd c := by
  rw [matches_secretNamePattern_iff]
  cases cs with
  | nil => simp
  | cons first rest =>
      rcases List.eq_nil_or_concat rest with rfl | ⟨inner, last, rfl⟩
      · -- One character is both ends, and what may stand at an end may stand inside.
        have hinside : NameEnd first → NameCharacter first := Or.inl
        simpa using hinside
      · have hlast : (first :: (inner ++ [last])).getLast? = some last := by
          rw [← List.cons_append, List.getLast?_concat]
        rw [List.concat_eq_append, hlast]
        constructor
        · rintro ⟨_, _, hcons, hfirst, hrest⟩
          obtain ⟨rfl, rfl⟩ := List.cons.inj hcons
          rcases hrest with hnil | ⟨inner', last', hsplit, hend, hin, hlen⟩
          · simp at hnil
          obtain ⟨rfl, hsame⟩ := List.append_inj' hsplit rfl
          obtain rfl := List.singleton_inj.mp hsame
          refine ⟨by simp, by simp; omega, ?_, by simpa using hfirst, by simpa using hend⟩
          intro c hc
          rcases List.mem_cons.mp hc with rfl | hc
          · exact Or.inl hfirst
          rcases List.mem_append.mp hc with hc | hc
          · exact hin c hc
          · exact List.mem_singleton.mp hc ▸ Or.inl hend
        · rintro ⟨-, hlen, hin, hfirst, hend⟩
          refine ⟨first, inner ++ [last], rfl, hfirst first rfl,
            Or.inr ⟨inner, last, rfl, hend last rfl, ?_, ?_⟩⟩
          · intro c hc
            exact hin c (List.mem_cons_of_mem _ (List.mem_append_left _ hc))
          · simp at hlen
            omega

/-- **The pattern takes the names of secrets and nothing else.** -/
theorem matches_iff_isSecretName {name : String} :
    secretNamePattern.Matches name.toList ↔ IsSecretName name := by
  rw [matches_iff_ends]
  constructor
  · rintro ⟨hfilled, hlen, hin, hfirst, hlast⟩
    refine ⟨?_, ?_, hin, hfirst, hlast⟩
    · intro hempty
      exact hfilled (String.toList_eq_nil_iff.mpr hempty)
    · rw [byteLength_of_nameCharacters hin]
      exact hlen
  · intro h
    refine ⟨mt String.toList_eq_nil_iff.mp h.filled, ?_, h.characters, h.first, h.last⟩
    rw [← byteLength_of_nameCharacters h.characters]
    exact h.short

/-! ### The schema and the check -/

/-- The limits that the schema of the resource sets to the name of the install-state secret. -/
def secretNameLimits : TextLimits := { most := some 253, pattern := some secretNamePattern }

theorem admits_iff_isSecretName {name : String} :
    secretNameLimits.Admits name ↔ IsSecretName name := by
  rw [← matches_iff_isSecretName]
  constructor
  · intro h
    exact h.taken secretNamePattern rfl
  · intro h
    refine ⟨?_, ?_⟩
    · intro most hmost
      obtain rfl := Option.some.inj hmost
      rw [← String.length_toList]
      exact (matches_iff_ends.mp h).2.1
    · intro p hp
      exact Option.some.inj hp ▸ h

end Crd

/-- A spec has an error of a field just if a rule on this field is broken. -/
theorem SpecRule.exists_error_iff {s : Spec} {ns field : String} {found : List ValidationError}
    (h : specErrors s ns = some found) :
    (∃ e ∈ found, e.field = field) ↔ ∃ r : SpecRule, r.field = field ∧ ¬ r.Holds s ns := by
  have hmem : (∃ e ∈ found, e.field = field) ↔ field ∈ found.map (·.field) := List.mem_map.symm
  rw [hmem, map_field_specErrors h, List.mem_map]
  constructor
  · rintro ⟨r, hr, hfield⟩
    simp only [List.mem_filter, decide_eq_true_eq] at hr
    exact ⟨r, hfield, hr.2⟩
  · rintro ⟨r, hfield, hbroken⟩
    refine ⟨r, ?_, hfield⟩
    simp only [List.mem_filter, decide_eq_true_eq]
    exact ⟨mem_all r, hbroken⟩

open Crd

/-- **The schema and the check agree on the names of secrets.**  The published schema limits the
name of the install-state secret to 253 characters and to a pattern.  A text is within these limits
exactly if the check of names passes it, whatever field it is checked for, and a spec whose check
comes to an end has an error of this field exactly if its name is not within them. -/
theorem schema_agrees_on_names (field name : String) (s : Spec) (ns : String) :
    ∃ notes limits,
      schema.at? ["spec", "installStateSecretRef", "name"] = some (.text notes limits) ∧
      limits.format = none ∧ limits.most = some 253 ∧
      limits.pattern.map Pattern.text =
        some "^[a-z0-9]([-.a-z0-9]\x7b0,251\x7d[a-z0-9])?$" ∧
      (checkSecretName field name = .ok () ↔ limits.Admits name) ∧
      ∀ found, specErrors s ns = some found →
        ((∃ e ∈ found, e.field = "spec.installStateSecretRef.name") ↔
          ¬ limits.Admits s.installState.name) := by
  refine ⟨_, secretNameLimits, rfl, rfl, rfl, by decide, ?_, ?_⟩
  · rw [admits_iff_isSecretName]
    rcases SpecRule.checkSecretName_cases field name with ⟨hname, hok⟩ | ⟨hname, e, herror, -⟩
    · simp [hname, hok]
    · simp [hname, herror]
  · intro found hfound
    rw [admits_iff_isSecretName, SpecRule.exists_error_iff hfound]
    constructor
    · rintro ⟨r, hfield, hbroken⟩
      have honly : r = .secretName := by
        cases r with
        | secretName => rfl
        | filled part => cases part <;> exact absurd hfield (by decide)
        | ownNamespace => exact absurd hfield (by decide)
        | timeout part => cases part <;> exact absurd hfield (by decide)
        | selector => exact absurd hfield (by decide)
      rw [honly] at hbroken
      exact hbroken
    · intro hname
      exact ⟨.secretName, rfl, hname⟩

/-- A letter that takes two bytes is in no name, however short it is. -/
example : ¬ secretNameLimits.Admits "é" := by
  intro h
  have hbreak : ¬ NameCharacter 'é' := by decide
  exact hbreak ((admits_iff_isSecretName.mp h).characters 'é' (by decide))

end ControlPlane
