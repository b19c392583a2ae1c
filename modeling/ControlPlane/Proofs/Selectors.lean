/-
Which label selectors are accepted, and what they select.

A requirement is well formed if it compares a label with at least one value, or asks whether the
label is there and has no values.  What is read goes beyond that: `In` and `NotIn` are refused only
if the list of values is left out, and `Exists` and `DoesNotExist` pay no heed to it.  The
requirements between the two are `Loose`.  So acceptance is settled by one case distinction,
`expression_cases`, and it tells well-formed selectors from others only where none is loose or
something else is wrong with them.

A selector that is read has a meaning, be it well formed or not: `Satisfied` says it for one
requirement and `Accepts` for the whole, and `holds_iff` is the law of the evaluator.
-/
import ControlPlane.Proofs.Rules

namespace ControlPlane

section Traversal

variable {α β ε : Type}

/-- A list is read as a whole, or up to the first item that is refused. -/
theorem mapM_cases (f : α → Except ε β) (l : List α) :
    (∃ values, l.mapM f = .ok values ∧ List.Forall₂ (fun a b => f a = .ok b) l values) ∨
      ∃ before a after e, l = before ++ a :: after ∧ (∀ x ∈ before, ∃ b, f x = .ok b) ∧
        f a = .error e ∧ l.mapM f = .error e := by
  induction l with
  | nil => exact .inl ⟨[], rfl, .nil⟩
  | cons a l ih =>
    rw [List.mapM_cons]
    cases hfirst : f a with
    | error e => exact .inr ⟨[], a, l, e, rfl, List.forall_mem_nil _, hfirst, rfl⟩
    | ok b =>
      rcases ih with ⟨values, hvalues, hread⟩ | ⟨before, x, after, e, rfl, hbefore, herror, hrest⟩
      · refine .inl ⟨b :: values, ?_, .cons hfirst hread⟩
        rw [hvalues]
        rfl
      · refine .inr ⟨a :: before, x, after, e, rfl, ?_, herror, ?_⟩
        · exact List.forall_mem_cons.mpr ⟨⟨b, hfirst⟩, hbefore⟩
        · rw [hrest]
          rfl

end Traversal

/-- A list as a set has the same items. -/
theorem mem_sortedSet {v : String} {l : List String} : v ∈ sortedSet l ↔ v ∈ l := by
  have hkey : v ∈ sortedSet l ↔ (Table.ofList (l.map fun s => (s, ()))).get? v ≠ none := by
    rw [Option.ne_none_iff_exists']
    simp only [Table.get?_eq_some_iff]
    simp [sortedSet, Table.keys]
  rw [hkey, Table.ofList, Table.get?_insertMany, Table.get?_empty, Option.or_none, ne_eq,
    Table.lookup_eq_none_iff]
  simp

/-! ### Requirements -/

namespace Requirement

variable {r : Requirement} {labels : Labels} {e : Expression}

/-- The values of a requirement: none if the list is left out. -/
def listed (r : Requirement) : List String := r.values.getD []

/-- The requirement compares a label with values. -/
def Compares (r : Requirement) : Prop := r.operator = "In" ∨ r.operator = "NotIn"

/-- The requirement asks whether a label is there. -/
def AsksPresence (r : Requirement) : Prop := r.operator = "Exists" ∨ r.operator = "DoesNotExist"

instance : Decidable r.Compares := inferInstanceAs (Decidable (_ ∨ _))

instance : Decidable r.AsksPresence := inferInstanceAs (Decidable (_ ∨ _))

/-- Values are listed where they are compared with, and nowhere else. -/
def WellFormed (r : Requirement) : Prop :=
  (r.Compares ∧ r.listed ≠ []) ∨ (r.AsksPresence ∧ r.listed = [])

/-- A list of values is there and empty where values are compared with, or there are values where
none is asked for. -/
def Loose (r : Requirement) : Prop :=
  (r.Compares ∧ r.values = some []) ∨ (r.AsksPresence ∧ r.listed ≠ [])

instance : Decidable r.WellFormed := inferInstanceAs (Decidable (_ ∨ _))

instance : Decidable r.Loose := inferInstanceAs (Decidable (_ ∨ _))

/-- Why a requirement is refused, if it is. -/
def refusal (r : Requirement) : SelectorError :=
  if r.Compares then .noValues else .unknownOperator

/-- What a requirement asks of some labels. -/
def Satisfied (r : Requirement) (labels : Labels) : Prop :=
  (r.operator = "In" ∧ ∃ value, labels.get? r.key = some value ∧ value ∈ r.listed) ∨
    (r.operator = "NotIn" ∧ ∀ value, labels.get? r.key = some value → value ∉ r.listed) ∨
    (r.operator = "Exists" ∧ labels.get? r.key ≠ none) ∨
    (r.operator = "DoesNotExist" ∧ labels.get? r.key = none)

theorem Compares.not_asksPresence (h : r.Compares) : ¬ r.AsksPresence := by
  rcases h with h | h <;> simp [AsksPresence, h]

theorem WellFormed.not_loose (h : r.WellFormed) : ¬ r.Loose := by
  rintro (⟨hcompares, hnone⟩ | ⟨hasks, hvalues⟩)
  · rcases h with ⟨-, hvalues⟩ | ⟨hasks, -⟩
    · exact hvalues (by simp [listed, hnone])
    · exact hcompares.not_asksPresence hasks
  · rcases h with ⟨hcompares, -⟩ | ⟨-, hnone⟩
    · exact hcompares.not_asksPresence hasks
    · exact hvalues hnone

/-- A requirement is read if it is well formed or loose, and refused otherwise. -/
theorem expression_cases (r : Requirement) :
    ((r.WellFormed ∨ r.Loose) ∧ ∃ e, r.expression = .ok e) ∨
      ¬ (r.WellFormed ∨ r.Loose) ∧ r.expression = .error r.refusal := by
  by_cases hcompares : r.Compares
  · have hasks : ¬ r.AsksPresence := hcompares.not_asksPresence
    cases hvalues : r.values with
    | none =>
      refine .inr ⟨by simp [WellFormed, Loose, hasks, listed, hvalues], ?_⟩
      rcases hcompares with h | h <;> simp [expression, refusal, Compares, h, hvalues]
    | some values =>
      refine .inl ⟨?_, ?_⟩
      · by_cases hempty : values = []
        · exact .inr (.inl ⟨hcompares, by rw [hvalues, hempty]⟩)
        · exact .inl (.inl ⟨hcompares, by simpa [listed, hvalues] using hempty⟩)
      · rcases hcompares with h | h <;> simp [expression, h, hvalues]
  · by_cases hasks : r.AsksPresence
    · refine .inl ⟨?_, ?_⟩
      · by_cases hempty : r.listed = []
        · exact .inl (.inr ⟨hasks, hempty⟩)
        · exact .inr (.inr ⟨hasks, hempty⟩)
      · rcases hasks with h | h <;> simp [expression, h]
    · refine .inr ⟨by simp [WellFormed, Loose, hcompares, hasks], ?_⟩
      have hunknown := hcompares
      rw [Compares, not_or] at hunknown
      rw [AsksPresence, not_or] at hasks
      simp [expression, refusal, hcompares, hunknown, hasks]

theorem exists_expression_iff : (∃ e, r.expression = .ok e) ↔ r.WellFormed ∨ r.Loose := by
  rcases r.expression_cases with ⟨hform, hread⟩ | ⟨hform, hrefused⟩
  · exact ⟨fun _ => hform, fun _ => hread⟩
  · simp [hform, hrefused]

theorem expression_eq_error {error : SelectorError} (h : r.expression = .error error) :
    ¬ (r.WellFormed ∨ r.Loose) ∧ error = r.refusal := by
  rcases r.expression_cases with ⟨-, hread⟩ | ⟨hform, hrefused⟩
  · exact absurd hread (not_read_of_error h)
  · rw [h] at hrefused
    exact ⟨hform, Except.error.inj hrefused⟩

/-- What is read of a requirement goes by its operator. -/
theorem expression_eq_ok (h : r.expression = .ok e) :
    (r.operator = "In" ∧ e = .isIn r.key (sortedSet r.listed)) ∨
      (r.operator = "NotIn" ∧ e = .notIn r.key (sortedSet r.listed)) ∨
      (r.operator = "Exists" ∧ e = .present r.key) ∨
      (r.operator = "DoesNotExist" ∧ e = .absent r.key) := by
  unfold expression at h
  split at h
  case isTrue hin =>
    cases hvalues : r.values with
    | none => simp [hvalues] at h
    | some values => exact .inl ⟨hin, by simpa [hvalues, listed] using h.symm⟩
  split at h
  case isTrue hnotIn =>
    cases hvalues : r.values with
    | none => simp [hvalues] at h
    | some values => exact .inr (.inl ⟨hnotIn, by simpa [hvalues, listed] using h.symm⟩)
  split at h
  case isTrue hexists =>
    cases h
    exact .inr (.inr (.inl ⟨hexists, rfl⟩))
  split at h
  case isTrue habsent =>
    cases h
    exact .inr (.inr (.inr ⟨habsent, rfl⟩))
  cases h

/-- What is read of a requirement holds of the labels that satisfy it. -/
theorem holds_iff (h : r.expression = .ok e) : e.holds labels = true ↔ r.Satisfied labels := by
  rcases expression_eq_ok h with ⟨hop, rfl⟩ | ⟨hop, rfl⟩ | ⟨hop, rfl⟩ | ⟨hop, rfl⟩
  · cases hlabel : labels.get? r.key <;>
      simp [Expression.holds, Satisfied, hop, hlabel, mem_sortedSet]
  · cases hlabel : labels.get? r.key <;>
      simp [Expression.holds, Satisfied, hop, hlabel, mem_sortedSet]
  · simp [Expression.holds, Satisfied, hop, Table.contains, Option.isSome_iff_ne_none]
  · simp [Expression.holds, Satisfied, hop, Table.contains]

/-- What is read of some requirements holds of the labels that satisfy all of them. -/
theorem forall_holds_iff {rs : List Requirement} {es : List Expression}
    (h : List.Forall₂ (fun r e => r.expression = .ok e) rs es) :
    (∀ e ∈ es, e.holds labels = true) ↔ ∀ r ∈ rs, r.Satisfied labels := by
  induction h with
  | nil => simp
  | cons hread _ ih => simp only [List.forall_mem_cons, holds_iff hread, ih]

theorem forall_readable {rs : List Requirement} {es : List Expression}
    (h : List.Forall₂ (fun r e => r.expression = .ok e) rs es) :
    ∀ r ∈ rs, r.WellFormed ∨ r.Loose := by
  induction h with
  | nil => exact List.forall_mem_nil _
  | cons hread _ ih => exact List.forall_mem_cons.mpr ⟨exists_expression_iff.mp ⟨_, hread⟩, ih⟩

end Requirement

/-! ### Selectors -/

namespace LabelSelector

variable {w : LabelSelector} {q : Selector} {labels : Labels}

/-- The labels that a selector asks for, with their values. -/
def pairs (w : LabelSelector) : List (String × String) := (w.matchLabels.getD .empty).entries

/-- The requirements of a selector. -/
def requirements (w : LabelSelector) : List Requirement := w.matchExpressions.getD []

/-- What a selector asks of some labels. -/
structure Accepts (w : LabelSelector) (labels : Labels) : Prop where
  pairs : ∀ p ∈ w.pairs, labels.get? p.1 = some p.2
  requirements : ∀ r ∈ w.requirements, r.Satisfied labels

/-- What is read of a selector: its labels, and something for each of its requirements. -/
structure Reads (w : LabelSelector) (q : Selector) (es : List Expression) : Prop where
  expressions : q.expressions = w.pairs.map (fun p => .equal p.1 p.2) ++ es
  requirements : List.Forall₂ (fun r e => r.expression = .ok e) w.requirements es

/-- A selector is read, or refused for the first requirement that is. -/
theorem selector_cases (w : LabelSelector) :
    (∃ q es, w.selector = .ok q ∧ w.Reads q es) ∨
      ∃ before r after, w.requirements = before ++ r :: after ∧
        (∀ p ∈ before, p.WellFormed ∨ p.Loose) ∧ ¬ (r.WellFormed ∨ r.Loose) ∧
        w.selector = .error r.refusal := by
  rcases mapM_cases Requirement.expression w.requirements with
    ⟨es, hes, hread⟩ | ⟨before, r, after, e, hsplit, hbefore, he, herror⟩
  · refine .inl ⟨⟨w.pairs.map (fun p => .equal p.1 p.2) ++ es⟩, es, ?_, rfl, hread⟩
    show (w.requirements.mapM Requirement.expression >>= _) = _
    rw [hes]
    rfl
  · obtain ⟨hrefused, rfl⟩ := Requirement.expression_eq_error he
    refine .inr ⟨before, r, after, hsplit,
      fun p hp => Requirement.exists_expression_iff.mp (hbefore p hp), hrefused, ?_⟩
    show (w.requirements.mapM Requirement.expression >>= _) = _
    rw [herror]
    rfl

theorem exists_reads (h : w.selector = .ok q) : ∃ es, w.Reads q es := by
  rcases w.selector_cases with ⟨q', es, hq, hreads⟩ | ⟨_, _, _, -, -, -, herror⟩
  · rw [h] at hq
    cases hq
    exact ⟨es, hreads⟩
  · exact absurd ⟨q, h⟩ (not_read_of_error herror)

/-- What is read of a selector holds of the labels that it accepts. -/
theorem holds_iff (h : w.selector = .ok q) : q.holds labels = true ↔ w.Accepts labels := by
  obtain ⟨es, hexpressions, hes⟩ := exists_reads h
  rw [Selector.holds, hexpressions, List.all_eq_true, List.forall_mem_append,
    Requirement.forall_holds_iff hes, List.forall_mem_map]
  simp only [Expression.holds, decide_eq_true_eq]
  constructor
  · rintro ⟨hpairs, hrequirements⟩
    exact ⟨hpairs, hrequirements⟩
  · intro haccepts
    exact ⟨haccepts.pairs, haccepts.requirements⟩

/-- A selector excludes nothing if it asks for no labels and has no requirements. -/
theorem selectsAll_iff (h : w.selector = .ok q) :
    q.selectsAll = true ↔ w.pairs = [] ∧ w.requirements = [] := by
  obtain ⟨es, hexpressions, hes⟩ := exists_reads h
  rw [Selector.selectsAll, hexpressions, List.isEmpty_iff, List.append_eq_nil_iff,
    List.map_eq_nil_iff]
  refine and_congr_right fun _ => ?_
  constructor
  · rintro rfl
    exact List.forall₂_nil_right_iff.mp hes
  · intro hnone
    rw [hnone] at hes
    exact List.forall₂_nil_left_iff.mp hes

end LabelSelector

/-! ### Acceptance -/

namespace Spec

variable {s : Spec} {ns : String}

/-- The requirements of the selector of a spec: none if it has no selector. -/
def requirements (s : Spec) : List Requirement :=
  (s.manifestsSelector.map LabelSelector.requirements).getD []

/-- The selector is checked behind all the rest. -/
theorem specErrors_eq_append (s : Spec) (ns : String) :
    specErrors s ns = (specErrors { s with manifestsSelector := none } ns).map
      (· ++ errorOf (ControlPlane.manifestsQuery s)) := by
  have hnone : errorOf (ControlPlane.manifestsQuery { s with manifestsSelector := none }) = [] := by
    rw [manifestsQuery_of_unset rfl]
    rfl
  unfold specErrors
  rw [hnone]
  cases checkTemplate s.template ns <;> simp

/-- A spec that is otherwise valid is accepted, or refused for the first requirement that cannot be
read. -/
theorem specErrors_cases (hvalid : specErrors { s with manifestsSelector := none } ns = some []) :
    ((∀ r ∈ s.requirements, r.WellFormed ∨ r.Loose) ∧ specErrors s ns = some []) ∨
      ∃ before r after, s.requirements = before ++ r :: after ∧
        (∀ p ∈ before, p.WellFormed ∨ p.Loose) ∧ ¬ (r.WellFormed ∨ r.Loose) ∧
        specErrors s ns = some [.invalidSelector "spec.manifestsSelector" r.refusal.message] := by
  rw [specErrors_eq_append, hvalid, Option.map_some, List.nil_append]
  cases hset : s.manifestsSelector with
  | none => exact .inl ⟨by simp [requirements, hset], by simp [manifestsQuery_of_unset hset, errorOf]⟩
  | some w =>
    have hrequirements : s.requirements = w.requirements := by simp [requirements, hset]
    rw [hrequirements]
    rcases w.selector_cases with
      ⟨q, es, hq, hreads⟩ | ⟨before, r, after, hsplit, hbefore, hrefused, herror⟩
    · refine .inl ⟨Requirement.forall_readable hreads.requirements, ?_⟩
      simp [manifestsQuery_of_read hset hq, errorOf]
    · refine .inr ⟨before, r, after, hsplit, hbefore, hrefused, ?_⟩
      simp [manifestsQuery_of_refused hset herror, errorOf]

/-- **Which selectors are accepted.**  A spec that is valid apart from its selector is accepted
exactly if each requirement is well formed or loose, and it is refused for the first requirement
that is neither.  So acceptance stands for well-formed requirements exactly if none is loose, or
one is refused anyway. -/
theorem accepts_selector_iff (s : Spec) (ns : String)
    (hvalid : specErrors { s with manifestsSelector := none } ns = some []) :
    (specErrors s ns = some [] ↔ ∀ r ∈ s.requirements, r.WellFormed ∨ r.Loose) ∧
    (specErrors s ns ≠ some [] → ∃ before r after, s.requirements = before ++ r :: after ∧
      (∀ p ∈ before, p.WellFormed ∨ p.Loose) ∧ ¬ (r.WellFormed ∨ r.Loose) ∧
      specErrors s ns = some [.invalidSelector "spec.manifestsSelector" r.refusal.message]) ∧
    ((specErrors s ns = some [] ↔ ∀ r ∈ s.requirements, r.WellFormed) ↔
      (∀ r ∈ s.requirements, ¬ r.Loose) ∨ ∃ r ∈ s.requirements, ¬ (r.WellFormed ∨ r.Loose)) := by
  have haccepts : specErrors s ns = some [] ↔ ∀ r ∈ s.requirements, r.WellFormed ∨ r.Loose := by
    rcases specErrors_cases hvalid with
      ⟨hform, hnone⟩ | ⟨before, r, after, hsplit, -, hrefused, hone⟩
    · exact ⟨fun _ => hform, fun _ => hnone⟩
    · rw [hone]
      refine ⟨nofun, fun hform => absurd (hform r ?_) hrefused⟩
      simp [hsplit]
  refine ⟨haccepts, fun hrefused => ?_, ?_⟩
  · rcases specErrors_cases hvalid with ⟨-, hnone⟩ | hfirst
    · exact absurd hnone hrefused
    · exact hfirst
  rw [haccepts]
  constructor
  · intro htells
    by_cases hform : ∀ r ∈ s.requirements, r.WellFormed ∨ r.Loose
    · exact .inl fun r hr => (htells.mp hform r hr).not_loose
    · obtain ⟨r, hr⟩ := not_forall.mp hform
      obtain ⟨hr, hrefused⟩ := Classical.not_imp.mp hr
      exact .inr ⟨r, hr, hrefused⟩
  · rintro (hnone | ⟨r, hr, hrefused⟩)
    · exact ⟨fun hform r hr => (hform r hr).resolve_right (hnone r hr),
        fun hform r hr => .inl (hform r hr)⟩
    · exact ⟨fun hform => absurd (hform r hr) hrefused,
        fun hform => absurd (.inl (hform r hr)) hrefused⟩

/-- The demo with requirements on the secrets of its manifests. -/
def requiring (requirements : List Requirement) : Spec :=
  { (Demo.resource none).spec with manifestsSelector := some ⟨none, some requirements⟩ }

/-- A label that is to have one of no values is accepted, and it is not well formed. -/
theorem no_values_accepted :
    let s := requiring [⟨"tier", "In", some []⟩]
    specErrors { s with manifestsSelector := none } "clusters" = some [] ∧
      ¬ (specErrors s "clusters" = some [] ↔ ∀ r ∈ s.requirements, r.WellFormed) := by
  decide

/-- Well-formed requirements are accepted, values that nothing compares with are not minded, and
of an operator without values and an unknown one the first is reported. -/
theorem accepts_selector_iff_requiring :
    (specErrors (requiring [⟨"tier", "In", some ["web"]⟩, ⟨"old", "DoesNotExist", none⟩]) "clusters"
        = some []) ∧
      (specErrors (requiring [⟨"tier", "Exists", some ["web"]⟩]) "clusters" = some [] ∧
        ¬ Requirement.WellFormed ⟨"tier", "Exists", some ["web"]⟩) ∧
      specErrors (requiring [⟨"tier", "NotIn", none⟩, ⟨"tier", "Like", none⟩]) "clusters" ≠
        some [] := by
  have hvalid : ∀ rs,
      specErrors { requiring rs with manifestsSelector := none } "clusters" = some [] := by
    intro rs
    show specErrors { requiring [] with manifestsSelector := none } "clusters" = some []
    decide
  obtain ⟨hformed, -⟩ := accepts_selector_iff
    (requiring [⟨"tier", "In", some ["web"]⟩, ⟨"old", "DoesNotExist", none⟩]) "clusters" (hvalid _)
  obtain ⟨hloose, -⟩ := accepts_selector_iff
    (requiring [⟨"tier", "Exists", some ["web"]⟩]) "clusters" (hvalid _)
  obtain ⟨hrefused, -⟩ := accepts_selector_iff
    (requiring [⟨"tier", "NotIn", none⟩, ⟨"tier", "Like", none⟩]) "clusters" (hvalid _)
  exact ⟨hformed.mpr (by decide), ⟨hloose.mpr (by decide), by decide⟩, mt hrefused.mp (by decide)⟩

end Spec

end ControlPlane
