/-
The rules on a spec, and what is reported where they are broken.

`SpecRule` lists the rules in the order in which they are checked.  `SpecRule.Holds` says what a
rule asks, and `Breach` which error tells that it is broken.  Each rule has a check of its own,
which finds nothing or one breach, or breaks off (`errors_cases`), and the errors of a spec are
those of the checks in order (`specErrors_eq`).  So there is one error for each broken rule as long
as no timeout breaks off.  Two rules are about one field, the namespace of the infrastructure
object, and they are not broken together: an object without a namespace is in no other one.

What acceptance is good for comes last.  The selector of an accepted spec can be read, and its
timeouts have a meaning, by which accepted templates are compared.
-/
import ControlPlane.Proofs.Templates
import Mathlib.Data.List.Forall2

namespace ControlPlane

/-! ### The name of a secret -/

/-- A lower-case letter or a digit. -/
def NameEnd (c : Char) : Prop := ('a' ≤ c ∧ c ≤ 'z') ∨ ('0' ≤ c ∧ c ≤ '9')

/-- A letter or a digit, a hyphen or a dot. -/
def NameCharacter (c : Char) : Prop := NameEnd c ∨ c = '-' ∨ c = '.'

instance (c : Char) : Decidable (NameEnd c) := inferInstanceAs (Decidable (_ ∨ _))

instance (c : Char) : Decidable (NameCharacter c) := inferInstanceAs (Decidable (_ ∨ _))

/-- What the name of a secret must be: a DNS subdomain. -/
structure IsSecretName (name : String) : Prop where
  filled : name ≠ ""
  short : Text.byteLength name.toList ≤ 253
  characters : ∀ c ∈ name.toList, NameCharacter c
  first : ∀ c ∈ name.toList.head?, NameEnd c
  last : ∀ c ∈ name.toList.getLast?, NameEnd c

theorem isSecretName_iff {name : String} : IsSecretName name ↔
    name ≠ "" ∧ Text.byteLength name.toList ≤ 253 ∧
      name.toList.all (fun c => decide (NameCharacter c)) = true ∧
      name.toList.head?.all (fun c => decide (NameEnd c)) = true ∧
      name.toList.getLast?.all (fun c => decide (NameEnd c)) = true := by
  simp only [List.all_eq_true, Option.all_eq_true, decide_eq_true_eq]
  exact ⟨fun h => ⟨h.filled, h.short, h.characters, h.first, h.last⟩,
    fun ⟨filled, short, characters, first, last⟩ => ⟨filled, short, characters, first, last⟩⟩

instance (name : String) : Decidable (IsSecretName name) := decidable_of_iff _ isSecretName_iff.symm

/-- What is wrong with the name of a secret, the first thing only. -/
inductive NameBreach (field name : String) : ValidationError → Prop where
  | missing (h : name = "") : NameBreach field name (.required field)
  | long (h : 253 < Text.byteLength name.toList) :
      NameBreach field name (.tooLong field 253 (Text.byteLength name.toList))
  | characters {c : Char} (hshort : Text.byteLength name.toList ≤ 253) (hc : c ∈ name.toList)
      (h : ¬ NameCharacter c) : NameBreach field name (.invalidFormat field .characters name)
  | ends {c : Char} (hshort : Text.byteLength name.toList ≤ 253)
      (hcharacters : ∀ c ∈ name.toList, NameCharacter c)
      (hc : c ∈ name.toList.head? ∨ c ∈ name.toList.getLast?) (h : ¬ NameEnd c) :
      NameBreach field name (.invalidFormat field .ends name)

/-- What is refused is not read. -/
theorem not_read_of_error {ε α : Type} {x : Except ε α} {e : ε} (h : x = .error e) :
    ¬ ∃ a, x = .ok a := by
  rintro ⟨a, ha⟩
  rw [h] at ha
  cases ha

theorem Fallible.not_read_of_error {ε α : Type} {x : Fallible ε α} {e : ε} (h : x = .error e) :
    ¬ ∃ a, x = .ok a := by
  rintro ⟨a, ha⟩
  rw [h] at ha
  cases ha

/-! ### The query for manifests -/

section Query

variable {s : Spec} {written : LabelSelector}

theorem manifestsQuery_of_unset (hset : s.manifestsSelector = none) : manifestsQuery s = .ok none := by
  simp [manifestsQuery, Spec.manifestsQuery, hset]

/-- A selector that is read makes a query, unless it excludes nothing. -/
theorem manifestsQuery_of_read {query : Selector} (hset : s.manifestsSelector = some written)
    (hread : written.selector = .ok query) :
    manifestsQuery s = .ok (if query.selectsAll then none else some query) := by
  simp [manifestsQuery, Spec.manifestsQuery, hset, hread, bind, Except.bind]

theorem manifestsQuery_of_refused {e : SelectorError} (hset : s.manifestsSelector = some written)
    (hrefused : written.selector = .error e) :
    manifestsQuery s = .error (.invalidSelector "spec.manifestsSelector" e.message) := by
  simp [manifestsQuery, Spec.manifestsQuery, hset, hrefused, bind, Except.bind]

end Query

/-! ### The rules -/

/-- A part of the reference to the infrastructure object. -/
inductive ReferencePart where
  | kind
  | name
  | apiVersion
  | ns
deriving DecidableEq

namespace ReferencePart

def field : ReferencePart → String
  | .kind => "spec.machineTemplate.infrastructureRef.kind"
  | .name => "spec.machineTemplate.infrastructureRef.name"
  | .apiVersion => "spec.machineTemplate.infrastructureRef.apiVersion"
  | .ns => "spec.machineTemplate.infrastructureRef.namespace"

/-- What a reference has for the part. -/
def of (r : InfrastructureReference) : ReferencePart → String
  | .kind => r.kind
  | .name => r.name
  | .apiVersion => r.apiVersion
  | .ns => r.ns

end ReferencePart

/-- A rule on a spec. -/
inductive SpecRule where
  /-- The name of the install-state secret is one. -/
  | secretName
  /-- A part of the reference to the infrastructure object is not empty. -/
  | filled (part : ReferencePart)
  /-- The infrastructure object, if its namespace is given, is in the namespace of the resource. -/
  | ownNamespace
  /-- A timeout, if it is set, is a duration. -/
  | timeout (part : TimeoutPart)
  /-- The selector, if it is set, has a meaning. -/
  | selector
deriving DecidableEq

namespace SpecRule

/-- The rules in the order in which they are checked. -/
def all : List SpecRule :=
  [.secretName, .filled .kind, .filled .name, .filled .apiVersion, .filled .ns, .ownNamespace,
    .timeout .drain, .timeout .detach, .timeout .deletion, .selector]

/-- The field that a rule is about. -/
def field : SpecRule → String
  | .secretName => "spec.installStateSecretRef.name"
  | .filled part => part.field
  | .ownNamespace => ReferencePart.ns.field
  | .timeout part => part.field
  | .selector => "spec.manifestsSelector"

/-- What a rule asks of a spec in a namespace. -/
def Holds (s : Spec) (ns : String) : SpecRule → Prop
  | .secretName => IsSecretName s.installState.name
  | .filled part => part.of s.template.infrastructure ≠ ""
  | .ownNamespace => s.template.infrastructure.ns = "" ∨ s.template.infrastructure.ns = ns
  | .timeout part => ∀ text ∈ part.of s.template, ∃ d, Duration.parse text = .ok d
  | .selector => ∀ written ∈ s.manifestsSelector, ∃ query, written.selector = .ok query

/-- Something can be read or not. -/
def decidableRead {ε α : Type} : (x : Except ε α) → Decidable (∃ a, x = .ok a)
  | .ok a => isTrue ⟨a, rfl⟩
  | .error _ => isFalse nofun

def decidableFallible {ε α : Type} : (x : Fallible ε α) → Decidable (∃ a, x = .ok a)
  | .ok a => isTrue ⟨a, rfl⟩
  | .error _ | .abort => isFalse nofun

instance (s : Spec) (ns : String) : (r : SpecRule) → Decidable (r.Holds s ns)
  | .secretName => inferInstanceAs (Decidable (IsSecretName s.installState.name))
  | .filled part => inferInstanceAs (Decidable (part.of s.template.infrastructure ≠ ""))
  | .ownNamespace => inferInstanceAs (Decidable (_ ∨ _))
  | .timeout part =>
    letI := fun text => decidableFallible (Duration.parse text)
    inferInstanceAs (Decidable (∀ text ∈ part.of s.template, ∃ d, Duration.parse text = .ok d))
  | .selector =>
    letI := fun written : LabelSelector => decidableRead written.selector
    inferInstanceAs (Decidable (∀ written ∈ s.manifestsSelector, ∃ query, written.selector = .ok query))

/-- A rule is broken, and an error tells so. -/
inductive Breach (s : Spec) (ns : String) : SpecRule → ValidationError → Prop where
  | name {e : ValidationError}
      (h : NameBreach "spec.installStateSecretRef.name" s.installState.name e) :
      Breach s ns .secretName e
  | empty {part : ReferencePart} (h : part.of s.template.infrastructure = "") :
      Breach s ns (.filled part) (.required part.field)
  | elsewhere (hfilled : s.template.infrastructure.ns ≠ "")
      (h : s.template.infrastructure.ns ≠ ns) :
      Breach s ns .ownNamespace
        (.namespaceMismatch ReferencePart.ns.field ns s.template.infrastructure.ns)
  | unreadable {part : TimeoutPart} {text : String} {e : DurationError}
      (hset : part.of s.template = some text) (h : Duration.parse text = .error e) :
      Breach s ns (.timeout part) (.invalidDuration part.field text e.message)
  | meaningless {written : LabelSelector} {e : SelectorError}
      (hset : s.manifestsSelector = some written) (h : written.selector = .error e) :
      Breach s ns .selector (.invalidSelector "spec.manifestsSelector" e.message)

/-- What the check of a rule reports, unless it breaks off. -/
def errors (s : Spec) (ns : String) : SpecRule → Option (List ValidationError)
  | .secretName =>
    some (errorOf (checkSecretName "spec.installStateSecretRef.name" s.installState.name))
  | .filled part => some (checkFilled part.field (part.of s.template.infrastructure))
  | .ownNamespace => some (checkNamespace ReferencePart.ns.field ns s.template.infrastructure.ns)
  | .timeout part => checkTimeout part.field (part.of s.template)
  | .selector => some (errorOf (manifestsQuery s))

variable {s : Spec} {ns name : String} {r : SpecRule} {e : ValidationError}

/-! ### The checks -/

theorem isNameAlphanumeric_iff {c : Char} : isNameAlphanumeric c = true ↔ NameEnd c := by
  simp [isNameAlphanumeric, NameEnd]

theorem isNameCharacter_iff {c : Char} : isNameCharacter c = true ↔ NameCharacter c := by
  simp [isNameCharacter, NameCharacter, isNameAlphanumeric_iff, or_assoc]

theorem all_isNameCharacter_iff :
    name.toList.all isNameCharacter = true ↔ ∀ c ∈ name.toList, NameCharacter c := by
  simp [List.all_eq_true, isNameCharacter_iff]

theorem ends_iff : (name.toList.head?.all isNameAlphanumeric &&
    name.toList.getLast?.all isNameAlphanumeric) = true ↔
      ∀ c, c ∈ name.toList.head? ∨ c ∈ name.toList.getLast? → NameEnd c := by
  rw [Bool.and_eq_true, Option.all_eq_true, Option.all_eq_true]
  simp only [isNameAlphanumeric_iff, or_imp, forall_and, Option.mem_def]

/-- The check of a name passes names of secrets, and tells the first thing that is wrong with any
other text. -/
theorem checkSecretName_cases (field name : String) :
    (IsSecretName name ∧ checkSecretName field name = .ok ()) ∨
      ¬ IsSecretName name ∧ ∃ e, checkSecretName field name = .error e ∧ NameBreach field name e := by
  unfold checkSecretName
  dsimp only
  by_cases hempty : name = ""
  · subst hempty
    exact .inr ⟨fun h => h.filled rfl, _, rfl, .missing rfl⟩
  rw [if_neg (by simpa using hempty)]
  by_cases hlong : 253 < Text.byteLength name.toList
  · rw [if_pos (by exact hlong)]
    exact .inr ⟨fun h => absurd h.short (Nat.not_le.mpr hlong), _, rfl, .long hlong⟩
  rw [if_neg (by exact hlong)]
  have hshort : Text.byteLength name.toList ≤ 253 := Nat.not_lt.mp hlong
  by_cases hcharacters : ∀ c ∈ name.toList, NameCharacter c
  · rw [if_neg (by simpa using all_isNameCharacter_iff.mpr hcharacters)]
    by_cases hends : ∀ c, c ∈ name.toList.head? ∨ c ∈ name.toList.getLast? → NameEnd c
    · rw [if_pos (ends_iff.mpr hends)]
      exact .inl ⟨⟨hempty, hshort, hcharacters, fun c hc => hends c (.inl hc),
        fun c hc => hends c (.inr hc)⟩, rfl⟩
    · rw [if_neg (mt ends_iff.mp hends)]
      obtain ⟨c, hc⟩ := not_forall.mp hends
      obtain ⟨hc, hend⟩ := Classical.not_imp.mp hc
      exact .inr ⟨fun h => hend (hc.elim (h.first c) (h.last c)), _, rfl,
        .ends hshort hcharacters hc hend⟩
  · rw [if_pos (by simpa using mt all_isNameCharacter_iff.mp hcharacters)]
    obtain ⟨c, hc⟩ := not_forall.mp hcharacters
    obtain ⟨hc, hother⟩ := Classical.not_imp.mp hc
    exact .inr ⟨fun h => hother (h.characters c hc), _, rfl, .characters hshort hc hother⟩

/-- A timeout that is set and refused is all that its check reports, and it breaks off where the
reading does. -/
theorem checkTimeout_cases (field : String) (text : Option String) :
    ((∀ t ∈ text, ∃ d, Duration.parse t = .ok d) ∧ checkTimeout field text = some []) ∨
      (∃ t e, text = some t ∧ Duration.parse t = .error e ∧
        checkTimeout field text = some [.invalidDuration field t e.message]) ∨
      Runaway text ∧ checkTimeout field text = none := by
  cases text with
  | none => exact .inl ⟨nofun, rfl⟩
  | some t =>
    cases hread : Duration.parse t with
    | ok d =>
      refine .inl ⟨?_, by simp [checkTimeout, hread]⟩
      rintro _ ⟨⟩
      exact ⟨d, hread⟩
    | error e => exact .inr (.inl ⟨t, e, rfl, hread, by simp [checkTimeout, hread]⟩)
    | abort =>
      exact .inr (.inr ⟨runaway_some_iff.mpr hread, by simp [checkTimeout, hread]⟩)

/-- The selector is reported if it has no meaning. -/
theorem manifestsQuery_cases (s : Spec) :
    ((∀ written ∈ s.manifestsSelector, ∃ query, written.selector = .ok query) ∧
        ∃ query, manifestsQuery s = .ok query) ∨
      ∃ written e, s.manifestsSelector = some written ∧ written.selector = .error e ∧
        manifestsQuery s = .error (.invalidSelector "spec.manifestsSelector" e.message) := by
  cases hset : s.manifestsSelector with
  | none => exact .inl ⟨nofun, none, manifestsQuery_of_unset hset⟩
  | some written =>
    cases hread : written.selector with
    | ok query =>
      refine .inl ⟨?_, _, manifestsQuery_of_read hset hread⟩
      rintro _ ⟨⟩
      exact ⟨query, hread⟩
    | error e => exact .inr ⟨written, e, rfl, hread, manifestsQuery_of_refused hset hread⟩

/-- A rule about a timeout of which the reading breaks off. -/
def Stops (s : Spec) (r : SpecRule) : Prop :=
  ∃ part, r = .timeout part ∧ Runaway (part.of s.template)

/-- A rule holds and its check reports nothing, or the rule is broken and its check tells so, or the
check breaks off. -/
theorem errors_cases (s : Spec) (ns : String) (r : SpecRule) :
    (r.Holds s ns ∧ r.errors s ns = some []) ∨
      (¬ r.Holds s ns ∧ ∃ e, r.errors s ns = some [e] ∧ Breach s ns r e) ∨
      r.Stops s ∧ r.errors s ns = none := by
  cases r with
  | secretName =>
    rcases checkSecretName_cases "spec.installStateSecretRef.name" s.installState.name with
      ⟨hname, hcheck⟩ | ⟨hname, e, hcheck, hbreach⟩
    · exact .inl ⟨hname, by simp [errors, hcheck, errorOf]⟩
    · exact .inr (.inl ⟨hname, e, by simp [errors, hcheck, errorOf], .name hbreach⟩)
  | filled part =>
    by_cases hempty : part.of s.template.infrastructure = ""
    · exact .inr (.inl ⟨fun hfilled => hfilled hempty, _, by simp [errors, checkFilled, hempty],
        .empty hempty⟩)
    · exact .inl ⟨hempty, by simp [errors, checkFilled, hempty]⟩
  | ownNamespace =>
    by_cases hempty : s.template.infrastructure.ns = ""
    · exact .inl ⟨.inl hempty, by simp [errors, checkNamespace, hempty]⟩
    · by_cases hown : s.template.infrastructure.ns = ns
      · exact .inl ⟨.inr hown, by simp [errors, checkNamespace, hown]⟩
      · exact .inr (.inl ⟨fun h => h.elim hempty hown, _,
          by simp [errors, checkNamespace, hempty, hown], .elsewhere hempty hown⟩)
  | timeout part =>
    rcases checkTimeout_cases part.field (part.of s.template) with
      ⟨hread, hcheck⟩ | ⟨t, e, hset, hread, hcheck⟩ | ⟨hrunaway, hcheck⟩
    · exact .inl ⟨hread, hcheck⟩
    · exact .inr (.inl ⟨fun h => Fallible.not_read_of_error hread (h t hset), _, hcheck,
        .unreadable hset hread⟩)
    · exact .inr (.inr ⟨⟨part, rfl, hrunaway⟩, hcheck⟩)
  | selector =>
    rcases manifestsQuery_cases s with ⟨hread, query, hquery⟩ | ⟨written, e, hset, hread, hquery⟩
    · exact .inl ⟨hread, by simp [errors, hquery, errorOf]⟩
    · exact .inr (.inl ⟨fun h => not_read_of_error hread (h written hset), _,
        by simp [errors, hquery, errorOf], .meaningless hset hread⟩)

theorem errors_eq_none_iff : r.errors s ns = none ↔ r.Stops s := by
  constructor
  · intro hnone
    rcases errors_cases s ns r with ⟨-, hsome⟩ | ⟨-, e, hsome, -⟩ | ⟨hstops, -⟩
    · cases hnone.symm.trans hsome
    · cases hnone.symm.trans hsome
    · exact hstops
  · rintro ⟨part, rfl, text, htext, hread⟩
    simp [errors, checkTimeout, Option.mem_def.mp htext, hread]

/-- The errors of a spec are those of the checks in order. -/
theorem specErrors_eq (s : Spec) (ns : String) :
    specErrors s ns = (all.mapM (errors s ns)).map List.flatten := by
  simp only [specErrors, checkTemplate, all, errors, List.mapM_cons, List.mapM_nil,
    TimeoutPart.of, TimeoutPart.field]
  cases checkTimeout "spec.machineTemplate.nodeDrainTimeout" s.template.nodeDrainTimeout with
  | none => rfl
  | some drain =>
    cases checkTimeout "spec.machineTemplate.nodeVolumeDetachTimeout"
        s.template.nodeVolumeDetachTimeout with
    | none => rfl
    | some detach =>
      cases checkTimeout "spec.machineTemplate.nodeDeletionTimeout"
          s.template.nodeDeletionTimeout with
      | none => rfl
      | some deletion => simp [ReferencePart.of, ReferencePart.field]

/-! ### All violations -/

/-- Some checks report one error for each of their rules that is broken, in order, unless one of
them breaks off. -/
theorem mapM_errors_cases (s : Spec) (ns : String) (rules : List SpecRule) :
    (∃ found, rules.mapM (errors s ns) = some found ∧ (∀ r ∈ rules, ¬ r.Stops s) ∧
      List.Forall₂ (Breach s ns) (rules.filter fun r => ¬ r.Holds s ns) found.flatten) ∨
      rules.mapM (errors s ns) = none ∧ ∃ r ∈ rules, r.Stops s := by
  induction rules with
  | nil => exact .inl ⟨[], rfl, nofun, .nil⟩
  | cons r rules ih =>
    rw [List.mapM_cons]
    cases hcheck : r.errors s ns with
    | none => exact .inr ⟨rfl, r, List.mem_cons_self, errors_eq_none_iff.mp hcheck⟩
    | some own =>
      have hgoes : ¬ r.Stops s := fun h => by simp [errors_eq_none_iff.mpr h] at hcheck
      rcases ih with ⟨found, hrules, hquiet, hfound⟩ | ⟨hrules, stop, hmem, hstops⟩
      · rw [hrules]
        refine .inl ⟨own :: found, rfl, List.forall_mem_cons.mpr ⟨hgoes, hquiet⟩, ?_⟩
        rw [List.flatten_cons]
        rcases errors_cases s ns r with ⟨hholds, hnone⟩ | ⟨hbroken, e, hone, hbreach⟩ | ⟨hstops, -⟩
        · cases hcheck.symm.trans hnone
          simpa [hholds] using hfound
        · cases hcheck.symm.trans hone
          simpa [hbroken] using List.Forall₂.cons hbreach hfound
        · exact absurd hstops hgoes
      · rw [hrules]
        exact .inr ⟨rfl, stop, List.mem_cons_of_mem _ hmem, hstops⟩

theorem mem_all (r : SpecRule) : r ∈ all := by
  cases r with
  | filled part => cases part <;> decide
  | timeout part => cases part <;> decide
  | _ => decide

/-- The check of a spec breaks off exactly if the reading of one of its timeouts does; else it
reports one error for each rule that is broken, in order. -/
theorem specErrors_cases (s : Spec) (ns : String) :
    (∃ found, specErrors s ns = some found ∧
      (∀ part : TimeoutPart, ¬ Runaway (part.of s.template)) ∧
      List.Forall₂ (Breach s ns) (all.filter fun r => ¬ r.Holds s ns) found) ∨
      specErrors s ns = none ∧ ∃ part : TimeoutPart, Runaway (part.of s.template) := by
  rw [specErrors_eq]
  rcases mapM_errors_cases s ns all with
    ⟨found, hrules, hquiet, hfound⟩ | ⟨hrules, r, -, part, -, h⟩
  · rw [hrules]
    exact .inl ⟨found.flatten, rfl, fun part h => hquiet _ (mem_all (.timeout part)) ⟨part, rfl, h⟩,
      hfound⟩
  · rw [hrules]
    exact .inr ⟨rfl, part, h⟩

theorem specErrors_eq_none_iff :
    specErrors s ns = none ↔ ∃ part : TimeoutPart, Runaway (part.of s.template) := by
  rcases specErrors_cases s ns with ⟨found, hfound, hquiet, -⟩ | ⟨hnone, hrunaway⟩
  · rw [hfound]
    exact ⟨nofun, fun ⟨part, h⟩ => absurd h (hquiet part)⟩
  · exact ⟨fun _ => hrunaway, fun _ => hnone⟩

theorem forall₂_of_specErrors {found : List ValidationError} (h : specErrors s ns = some found) :
    List.Forall₂ (Breach s ns) (all.filter fun r => ¬ r.Holds s ns) found := by
  rcases specErrors_cases s ns with ⟨found', hfound, -, hbreaches⟩ | ⟨hnone, -⟩
  · cases h.symm.trans hfound
    exact hbreaches
  · cases h.symm.trans hnone

/-- A spec is accepted exactly if it holds to all rules. -/
theorem specErrors_eq_nil_iff : specErrors s ns = some [] ↔ ∀ r : SpecRule, r.Holds s ns := by
  constructor
  · intro hnil r
    have hnone : (all.filter fun r => ¬ r.Holds s ns) = [] :=
      List.forall₂_nil_right_iff.mp (forall₂_of_specErrors hnil)
    have hholds := List.filter_eq_nil_iff.mp hnone r (mem_all r)
    simpa using hholds
  · intro hholds
    rcases specErrors_cases s ns with ⟨found, hfound, -, hbreaches⟩ | ⟨-, part, text, htext, hread⟩
    · have hnone : (all.filter fun r => ¬ r.Holds s ns) = [] := by
        simpa [List.filter_eq_nil_iff] using fun r _ => hholds r
      rw [hnone] at hbreaches
      rw [hfound, List.forall₂_nil_left_iff.mp hbreaches]
    · obtain ⟨d, hd⟩ := hholds (.timeout part) text htext
      rw [hread] at hd
      cases hd

/-- An error names the field of its rule. -/
theorem Breach.field_eq (h : Breach s ns r e) : e.field = r.field := by
  cases h with
  | name h => cases h <;> rfl
  | _ => rfl

/-- Two rules on one field are not broken together. -/
theorem pairwise_field : (all.filter fun r => ¬ r.Holds s ns).Pairwise
    fun a b => a.field ≠ b.field := by
  have hfields : all.Pairwise fun a b =>
      a.field ≠ b.field ∨ a = .filled .ns ∧ b = .ownNamespace := by decide
  refine (List.Pairwise.and_mem.mp (hfields.filter _)).imp ?_
  rintro a b ⟨ha, hb, hfield | ⟨rfl, rfl⟩⟩
  · exact hfield
  · simp only [List.mem_filter, decide_eq_true_eq] at ha hb
    exact absurd (.inl (not_not.mp ha.2)) hb.2

/-- The fields of the errors are those of the broken rules. -/
theorem map_field_specErrors {found : List ValidationError} (h : specErrors s ns = some found) :
    found.map (·.field) = (all.filter fun r => ¬ r.Holds s ns).map field := by
  rw [← List.forall₂_eq_eq_eq, List.forall₂_map_left_iff, List.forall₂_map_right_iff]
  exact (forall₂_of_specErrors h).flip.imp fun e r => Breach.field_eq

theorem nodup_fields {found : List ValidationError} (h : specErrors s ns = some found) :
    (found.map (·.field)).Nodup := by
  rw [map_field_specErrors h, List.Nodup, List.pairwise_map]
  exact pairwise_field

/-! ### What acceptance is good for -/

/-- A timeout that holds to its rule has a meaning. -/
theorem exists_meaning {part : TimeoutPart} (h : (timeout part).Holds s ns) :
    ∃ x, part.meaning (part.of s.template) = .ok x := by
  have hmeans : ∀ text : Option String, (∀ t ∈ text, ∃ d, Duration.parse t = .ok d) →
      (∃ x, Timeout.ofDrain text = .ok x) ∧ ∃ x, Timeout.ofDeletion text = .ok x := by
    intro text hread
    cases text with
    | none => exact ⟨⟨_, rfl⟩, _, rfl⟩
    | some t =>
      obtain ⟨d, hd⟩ := hread t rfl
      simp only [Timeout.ofDrain, Timeout.ofDeletion, hd]
      exact ⟨⟨_, rfl⟩, _, rfl⟩
  obtain ⟨hdrain, hdeletion⟩ := hmeans _ h
  cases part with
  | drain => exact hdrain
  | detach => exact hdrain
  | deletion => exact hdeletion

/-- The template of an accepted spec makes the same machines as itself. -/
theorem equivalent_self_of_accepted (h : specErrors s ns = some []) :
    s.template.equivalent s.template = some true := by
  refine MachineTemplate.equivalent_self_iff.mpr fun part hrunaway => ?_
  have hnone : specErrors s ns = none := specErrors_eq_none_iff.mpr ⟨part, hrunaway⟩
  cases h.symm.trans hnone

/-- Templates whose timeouts have a meaning are compared by it, and never by the texts. -/
theorem equivalent_of_meanings {a b : MachineTemplate}
    (h : ∀ part : TimeoutPart, ∃ x y, part.meaning (part.of a) = .ok x ∧
      part.meaning (part.of b) = .ok y ∧ part.agree a b = some (decide (x = y))) :
    a.equivalent b ≠ none ∧ (a.equivalent b = some true ↔
      a.metadata = b.metadata ∧ a.infrastructure = b.infrastructure ∧
        ∀ part : TimeoutPart, part.meaning (part.of a) = part.meaning (part.of b)) := by
  constructor
  · intro hnone
    obtain ⟨-, part, -, -, -, hstop⟩ := (MachineTemplate.equivalent_eq_none_iff.mp hnone).stop
    obtain ⟨x, y, -, -, heq⟩ := h part
    cases heq.symm.trans (TimeoutPart.agree_eq_none_iff.mpr hstop)
  · rw [MachineTemplate.equivalent_eq_true_iff, and_assoc]
    refine and_congr_right fun _ => and_congr_right fun _ => forall_congr' fun part => ?_
    obtain ⟨x, y, hx, hy, heq⟩ := h part
    rw [heq, hx, hy, Option.some.injEq, decide_eq_true_eq, Fallible.ok.injEq]

/-- **Every broken rule is reported, and acceptance is enough for what relies on it.**  The check of
a spec breaks off exactly if the reading of one of its timeouts does.  A spec is accepted exactly if
it holds to all rules.  Whatever else the check comes to, it is one error for each rule that is
broken, in the order of the rules, and no field has two.  The selector of an accepted spec can be
read.  Each timeout of it has a meaning, and so the template is compared with that of any other
accepted spec by what their timeouts mean and never by their texts. -/
theorem finds_every_violation (s : Spec) (ns : String) :
    (specErrors s ns = none ↔ ∃ part : TimeoutPart, Runaway (part.of s.template)) ∧
    (specErrors s ns = some [] ↔ ∀ r : SpecRule, r.Holds s ns) ∧
    (∀ found, specErrors s ns = some found →
      List.Forall₂ (Breach s ns) (all.filter fun r => ¬ r.Holds s ns) found ∧
        (found.map (·.field)).Nodup) ∧
    (specErrors s ns = some [] →
      (∃ query, manifestsQuery s = .ok query) ∧
      ∀ (other : Spec) (ns' : String), specErrors other ns' = some [] →
        (∀ part : TimeoutPart, ∃ x y, part.meaning (part.of s.template) = .ok x ∧
          part.meaning (part.of other.template) = .ok y ∧
          part.agree s.template other.template = some (decide (x = y))) ∧
        s.template.equivalent other.template ≠ none ∧
        (s.template.equivalent other.template = some true ↔
          s.template.metadata = other.template.metadata ∧
          s.template.infrastructure = other.template.infrastructure ∧
          ∀ part : TimeoutPart,
            part.meaning (part.of s.template) = part.meaning (part.of other.template))) := by
  refine ⟨specErrors_eq_none_iff, specErrors_eq_nil_iff,
    fun found hfound => ⟨forall₂_of_specErrors hfound, nodup_fields hfound⟩,
    fun haccepted => ⟨?_, fun other ns' hother => ?_⟩⟩
  · have hselector := specErrors_eq_nil_iff.mp haccepted .selector
    rcases manifestsQuery_cases s with ⟨-, hquery⟩ | ⟨written, e, hset, hread, -⟩
    · exact hquery
    · exact absurd (hselector written hset) (not_read_of_error hread)
  · have hmeanings : ∀ part : TimeoutPart, ∃ x y, part.meaning (part.of s.template) = .ok x ∧
        part.meaning (part.of other.template) = .ok y ∧
        part.agree s.template other.template = some (decide (x = y)) := by
      intro part
      obtain ⟨x, hx⟩ := exists_meaning (specErrors_eq_nil_iff.mp haccepted (.timeout part))
      obtain ⟨y, hy⟩ := exists_meaning (specErrors_eq_nil_iff.mp hother (.timeout part))
      exact ⟨x, y, hx, hy, by simp [TimeoutPart.agree, Timeout.agree, hx, hy]⟩
    exact ⟨hmeanings, equivalent_of_meanings hmeanings⟩

/-- Five rules at once: a name in capitals, no kind, another namespace, a timeout that is no
duration, and an operator that there is not. -/
def flawed : Spec :=
  { template :=
      { Demo.template with
        infrastructure := ⟨"", "default", "demo-cp", "infrastructure/v1"⟩
        nodeDeletionTimeout := some "soon" }
    installState := ⟨"Demo-Install"⟩
    manifestsSelector := some ⟨none, some [⟨"tier", "Like", none⟩]⟩ }

/-- The five are reported, each once and in order.  A spec that breaks none is compared by what its
timeouts mean. -/
theorem finds_every_violation_flawed :
    (∃ found, specErrors flawed "clusters" = some found ∧
      List.Forall₂ (Breach flawed "clusters")
        [.secretName, .filled .kind, .ownNamespace, .timeout .deletion, .selector] found) ∧
      specErrors (Resource.respelled "90s") "clusters" = some [] ∧
      specErrors (Resource.respelled "1m30s") "clusters" = some [] ∧
      (Resource.respelled "90s").template.equivalent (Resource.respelled "1m30s").template =
        some true := by
  obtain ⟨-, -, hbreaches, -⟩ := finds_every_violation flawed "clusters"
  obtain ⟨found, hfound⟩ := Option.isSome_iff_exists.mp
    (by decide +kernel : (specErrors flawed "clusters").isSome = true)
  have hbroken : (all.filter fun r => ¬ r.Holds flawed "clusters") =
      [.secretName, .filled .kind, .ownNamespace, .timeout .deletion, .selector] := by
    decide +kernel
  have haccepted : ∀ drain ∈ ["90s", "1m30s"],
      specErrors (Resource.respelled drain) "clusters" = some [] := by decide +kernel
  have hseconds := haccepted "90s" (by decide)
  have hminutes := haccepted "1m30s" (by decide)
  obtain ⟨-, -, -, hlater⟩ := finds_every_violation (Resource.respelled "90s") "clusters"
  obtain ⟨-, -, hequivalent⟩ := (hlater hseconds).2 _ "clusters" hminutes
  have hreported := (hbreaches found hfound).1
  rw [hbroken] at hreported
  refine ⟨⟨found, hfound, hreported⟩, hseconds, hminutes,
    hequivalent.mpr ⟨rfl, rfl, fun part => ?_⟩⟩
  cases part <;> decide +kernel

/-- A timeout that is not read to its end breaks its rule, and nothing is reported of any rule. -/
theorem spilling_not_reported :
    ¬ (timeout .drain).Holds (Demo.spilling none).spec "clusters" ∧
      specErrors (Demo.spilling none).spec "clusters" = none := by
  decide +kernel

end SpecRule

end ControlPlane
