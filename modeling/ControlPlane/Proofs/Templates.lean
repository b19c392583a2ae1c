/-
Templates that make the same machines.

A timeout stands for a class of texts.  What sets nothing in its field is one class, the
spellings of one duration are another, and a text that is no duration stands alone.
`Timeout.Same` lists these classes by what a text reads as; the fields differ only in which
durations count as setting nothing.  `agree` compares meanings where both timeouts have one
and texts otherwise, and it comes to just these classes.  So templates are compared by an
equivalence relation, among those whose timeouts are all read to an end.

A text on which the reading breaks off is in no class, not even in one with itself.  A template
that has it may still differ in something that is looked at earlier, and is then told apart from
another one; else the comparison breaks off.

An accepted update moves the spec within the class of the bound template.  Judged by the
bound template or by the spec that was accepted last, every update meets with the same, however
many there have been.
-/
import ControlPlane.Proofs.Reconcile

namespace ControlPlane

/-! ### Timeouts -/

/-- A timeout that is set to a text on which the reading breaks off. -/
def Runaway (timeout : Option String) : Prop := ∃ text ∈ timeout, Duration.parse text = .abort

theorem runaway_some_iff {text : String} : Runaway (some text) ↔ Duration.parse text = .abort :=
  ⟨fun ⟨_, htext, h⟩ => Option.some.inj htext ▸ h, fun h => ⟨text, rfl, h⟩⟩

namespace Timeout

variable {meaning : Option String → Fallible DurationError Timeout} {a b c : Option String}

theorem agree_eq_none_iff : agree meaning a b = none ↔ meaning a = .abort ∨ meaning b = .abort := by
  unfold agree
  cases meaning a <;> cases meaning b <;> simp

/-- Two timeouts have one meaning, or are one text without a meaning. -/
theorem agree_iff : agree meaning a b = some true ↔
    (∃ x, meaning a = .ok x ∧ meaning b = .ok x) ∨ (∃ e, meaning a = .error e) ∧ a = b := by
  unfold agree
  cases ha : meaning a with
  | ok x =>
    cases hb : meaning b with
    | ok y => simp [eq_comm]
    | error e =>
      have hne : a ≠ b := fun h => by simp [h, hb] at ha
      simp [hne]
    | abort => simp
  | error e =>
    cases hb : meaning b with
    | ok y => simp
    | error e => simp
    | abort =>
      have hne : a ≠ b := fun h => by simp [h, hb] at ha
      simp [hne]
  | abort => simp

theorem agree_self (h : meaning a ≠ .abort) : agree meaning a a = some true := by
  cases ha : meaning a with
  | ok x => exact agree_iff.mpr (.inl ⟨x, ha, ha⟩)
  | error e => exact agree_iff.mpr (.inr ⟨⟨e, ha⟩, rfl⟩)
  | abort => exact absurd ha h

theorem agree_comm : agree meaning a b = agree meaning b a := by
  unfold agree
  cases meaning a <;> cases meaning b <;> simp [eq_comm]

/-- A timeout with a meaning agrees with none without, so the two ways of comparing never
meet in a chain. -/
theorem agree_congr (hab : agree meaning a b = some true) :
    agree meaning a c = agree meaning b c := by
  rcases agree_iff.mp hab with ⟨x, ha, hb⟩ | ⟨-, rfl⟩
  · unfold agree
    rw [ha, hb]
    cases hc : meaning c with
    | ok y => rfl
    | error e =>
      have hac : a ≠ c := fun h => by simp [h, hc] at ha
      have hbc : b ≠ c := fun h => by simp [h, hc] at hb
      simp [hac, hbc]
    | abort => rfl
  · rfl

/-- Several fields agree if each of them does. -/
theorem allAgree_eq_true_iff {fields : List (Option Bool)} :
    allAgree fields = some true ↔ ∀ field ∈ fields, field = some true := by
  induction fields with
  | nil => simp [allAgree]
  | cons field rest ih =>
    rw [List.forall_mem_cons, ← ih]
    rcases field with _ | _ | _ <;> simp [allAgree]

/-- The comparison breaks off at a field that it comes to, all fields before which agree. -/
theorem allAgree_eq_none_iff {fields : List (Option Bool)} :
    allAgree fields = none ↔ ∃ earlier later, fields = earlier ++ none :: later ∧
      ∀ field ∈ earlier, field = some true := by
  induction fields with
  | nil => simp [allAgree]
  | cons field rest ih =>
    constructor
    · intro hnone
      rcases field with _ | _ | _
      · exact ⟨[], rest, rfl, nofun⟩
      · cases hnone
      · obtain ⟨earlier, later, rfl, hagree⟩ := ih.mp hnone
        exact ⟨some true :: earlier, later, rfl, List.forall_mem_cons.mpr ⟨rfl, hagree⟩⟩
    · rintro ⟨earlier, later, hfields, hagree⟩
      cases earlier with
      | nil =>
        obtain ⟨rfl, rfl⟩ := List.cons.inj hfields
        rfl
      | cons first earlier =>
        obtain ⟨rfl, hrest⟩ := List.cons.inj hfields
        obtain ⟨rfl, hearlier⟩ := List.forall_mem_cons.mp hagree
        exact ih.mpr ⟨earlier, later, hrest, hearlier⟩

/-- The timeout sets nothing in a field in which the durations of `free` do not count: it is
unset, or it is one of them. -/
inductive SetsNothing (free : Duration → Prop) : Option String → Prop where
  | unset : SetsNothing free none
  | free {text : String} {d : Duration} (hread : Duration.parse text = .ok d) (hfree : free d) :
      SetsNothing free (some text)

/-- Two timeouts mean the same in such a field. -/
inductive Same (free : Duration → Prop) : Option String → Option String → Prop where
  | nothing {a b : Option String} (ha : SetsNothing free a) (hb : SetsNothing free b) :
      Same free a b
  | duration {text text' : String} {d : Duration} (hread : Duration.parse text = .ok d)
      (hread' : Duration.parse text' = .ok d) : Same free (some text) (some text')
  | unreadable {text : String} {e : DurationError} (h : Duration.parse text = .error e) :
      Same free (some text) (some text)

/-- For the time to drain a node or to detach its volumes, zero is no limit. -/
abbrev SameDrain : Option String → Option String → Prop := Same (· = .zero)

/-- For the time to delete a node every duration is a limit. -/
abbrev SameDeletion : Option String → Option String → Prop := Same fun _ => False

/-- The meanings of a field, of which one is that nothing is set. -/
structure Means (meaning : Option String → Fallible DurationError Timeout) (free : Duration → Prop)
    (nothing : Timeout) : Prop where
  ne_limit : ∀ d, nothing ≠ .limit d
  of_unset : meaning none = .ok nothing
  of_free : ∀ {text d}, Duration.parse text = .ok d → free d → meaning (some text) = .ok nothing
  of_limit : ∀ {text d}, Duration.parse text = .ok d → ¬ free d →
    meaning (some text) = .ok (.limit d)
  of_unreadable : ∀ {text e}, Duration.parse text = .error e → meaning (some text) = .error e
  of_abort : ∀ {text}, Duration.parse text = .abort → meaning (some text) = .abort

theorem means_drain : Means ofDrain (· = .zero) .noLimit where
  ne_limit := nofun
  of_unset := rfl
  of_free hread hfree := by
    rw [hfree] at hread
    simp only [ofDrain, hread]
    rfl
  of_limit {_ d} hread hfree := by
    have hnanos : ¬ d.nanos = 0 := fun h => hfree (congrArg Duration.mk h)
    simp only [ofDrain, hread]
    exact congrArg Fallible.ok (if_neg hnanos)
  of_unreadable hread := by
    simp only [ofDrain, hread]
    rfl
  of_abort hread := by
    simp only [ofDrain, hread]
    rfl

theorem means_deletion : Means ofDeletion (fun _ => False) .machineDefault where
  ne_limit := nofun
  of_unset := rfl
  of_free _ hfree := hfree.elim
  of_limit hread _ := by
    simp only [ofDeletion, hread]
    rfl
  of_unreadable hread := by
    simp only [ofDeletion, hread]
    rfl
  of_abort hread := by
    simp only [ofDeletion, hread]
    rfl

section Means

variable {free : Duration → Prop} {nothing : Timeout}

theorem Means.eq_nothing (h : Means meaning free nothing) (ha : SetsNothing free a) :
    meaning a = .ok nothing := by
  cases ha with
  | unset => exact h.of_unset
  | free hread hfree => exact h.of_free hread hfree

/-- A timeout sets nothing, or it is a limit, or it is refused, or the reading breaks off. -/
theorem Means.cases (h : Means meaning free nothing) (a : Option String) :
    SetsNothing free a ∨
      (∃ text d, a = some text ∧ Duration.parse text = .ok d ∧ meaning a = .ok (.limit d)) ∨
      (∃ text e, a = some text ∧ Duration.parse text = .error e ∧ meaning a = .error e) ∨
      Runaway a ∧ meaning a = .abort := by
  cases a with
  | none => exact .inl .unset
  | some text =>
    cases hread : Duration.parse text with
    | error e => exact .inr (.inr (.inl ⟨text, e, rfl, hread, h.of_unreadable hread⟩))
    | abort => exact .inr (.inr (.inr ⟨runaway_some_iff.mpr hread, h.of_abort hread⟩))
    | ok d =>
      by_cases hfree : free d
      · exact .inl (.free hread hfree)
      · exact .inr (.inl ⟨text, d, rfl, hread, h.of_limit hread hfree⟩)

/-- A meaning breaks off where the reading of its text does. -/
theorem Means.eq_abort_iff (h : Means meaning free nothing) : meaning a = .abort ↔ Runaway a := by
  constructor
  · intro habort
    rcases h.cases a with ha | ⟨_, _, -, -, ha⟩ | ⟨_, _, -, -, ha⟩ | ⟨ha, -⟩
    · cases habort.symm.trans (h.eq_nothing ha)
    · cases habort.symm.trans ha
    · cases habort.symm.trans ha
    · exact ha
  · rintro ⟨text, htext, hread⟩
    cases htext
    exact h.of_abort hread

/-- Timeouts agree exactly if they mean the same. -/
theorem Means.agree_iff_same (h : Means meaning free nothing) :
    agree meaning a b = some true ↔ Same free a b := by
  constructor
  · intro hagree
    rcases agree_iff.mp hagree with ⟨x, hx, hx'⟩ | ⟨⟨e, he⟩, rfl⟩
    · rcases h.cases a with ha | ⟨text, d, rfl, hread, ha⟩ | ⟨_, _, -, -, ha⟩ | ⟨-, ha⟩
      · rcases h.cases b with hb | ⟨_, d', rfl, -, hb⟩ | ⟨_, _, -, -, hb⟩ | ⟨-, hb⟩
        · exact .nothing ha hb
        · rw [h.eq_nothing ha] at hx
          cases hx
          exact absurd (Fallible.ok.inj (hx'.symm.trans hb)) (h.ne_limit d')
        · cases hx'.symm.trans hb
        · cases hx'.symm.trans hb
      · rcases h.cases b with hb | ⟨text', d', rfl, hread', hb⟩ | ⟨_, _, -, -, hb⟩ | ⟨-, hb⟩
        · cases hx'.symm.trans (h.eq_nothing hb)
          exact absurd (Fallible.ok.inj (hx.symm.trans ha)) (h.ne_limit d)
        · cases hx.symm.trans ha
          cases hx'.symm.trans hb
          exact .duration hread hread'
        · cases hx'.symm.trans hb
        · cases hx'.symm.trans hb
      · cases hx.symm.trans ha
      · cases hx.symm.trans ha
    · rcases h.cases a with ha | ⟨_, _, -, -, ha⟩ | ⟨text, _, rfl, hread, -⟩ | ⟨-, ha⟩
      · cases he.symm.trans (h.eq_nothing ha)
      · cases he.symm.trans ha
      · exact .unreadable hread
      · cases he.symm.trans ha
  · intro hsame
    cases hsame with
    | nothing ha hb => exact agree_iff.mpr (.inl ⟨nothing, h.eq_nothing ha, h.eq_nothing hb⟩)
    | @duration text text' d hread hread' =>
      by_cases hfree : free d
      · exact agree_iff.mpr (.inl ⟨nothing, h.of_free hread hfree, h.of_free hread' hfree⟩)
      · exact agree_iff.mpr (.inl ⟨.limit d, h.of_limit hread hfree, h.of_limit hread' hfree⟩)
    | @unreadable text e hread =>
      exact agree_iff.mpr (.inr ⟨⟨e, h.of_unreadable hread⟩, rfl⟩)

end Means

end Timeout

/-- A timeout of a machine template. -/
inductive TimeoutPart where
  | drain
  | detach
  | deletion
deriving DecidableEq

namespace TimeoutPart

/-- The timeouts in the order in which they are compared. -/
def all : List TimeoutPart := [.drain, .detach, .deletion]

theorem mem_all (part : TimeoutPart) : part ∈ all := by cases part <;> decide

def field : TimeoutPart → String
  | .drain => "spec.machineTemplate.nodeDrainTimeout"
  | .detach => "spec.machineTemplate.nodeVolumeDetachTimeout"
  | .deletion => "spec.machineTemplate.nodeDeletionTimeout"

/-- The text of the timeout, if it is set. -/
def of (t : MachineTemplate) : TimeoutPart → Option String
  | .drain => t.nodeDrainTimeout
  | .detach => t.nodeVolumeDetachTimeout
  | .deletion => t.nodeDeletionTimeout

/-- What such a timeout means. -/
def meaning : TimeoutPart → Option String → Fallible DurationError Timeout
  | .drain | .detach => Timeout.ofDrain
  | .deletion => Timeout.ofDeletion

/-- Whether the timeout means the same in two templates. -/
def agree (a b : MachineTemplate) (part : TimeoutPart) : Option Bool :=
  Timeout.agree part.meaning (part.of a) (part.of b)

variable {a b c : MachineTemplate} {part : TimeoutPart}

theorem meaning_eq_abort_iff {timeout : Option String} :
    part.meaning timeout = .abort ↔ Runaway timeout := by
  cases part with
  | drain => exact Timeout.means_drain.eq_abort_iff
  | detach => exact Timeout.means_drain.eq_abort_iff
  | deletion => exact Timeout.means_deletion.eq_abort_iff

theorem agree_eq_none_iff : part.agree a b = none ↔ Runaway (part.of a) ∨ Runaway (part.of b) := by
  unfold agree
  rw [Timeout.agree_eq_none_iff, meaning_eq_abort_iff, meaning_eq_abort_iff]

end TimeoutPart

/-! ### Templates -/

namespace MachineTemplate

variable {a b c : MachineTemplate}

theorem equivalent_eq (a b : MachineTemplate) : a.equivalent b =
    if a.metadata = b.metadata ∧ a.infrastructure = b.infrastructure then
      Timeout.allAgree (TimeoutPart.all.map (TimeoutPart.agree a b))
    else some false := rfl

theorem equivalent_eq_true_iff : a.equivalent b = some true ↔
    (a.metadata = b.metadata ∧ a.infrastructure = b.infrastructure) ∧
      ∀ part : TimeoutPart, part.agree a b = some true := by
  rw [equivalent_eq]
  by_cases hrest : a.metadata = b.metadata ∧ a.infrastructure = b.infrastructure
  · rw [if_pos hrest, Timeout.allAgree_eq_true_iff, List.forall_mem_map]
    exact ⟨fun h => ⟨hrest, fun part => h part part.mem_all⟩, fun h part _ => h.2 part⟩
  · rw [if_neg hrest]
    exact ⟨nofun, fun h => absurd h.1 hrest⟩

/-- Templates are equivalent exactly if all but their timeouts is equal and each timeout means
the same. -/
theorem equivalent_iff : a.equivalent b = some true ↔
    a.metadata = b.metadata ∧ a.infrastructure = b.infrastructure ∧
      Timeout.SameDrain a.nodeDrainTimeout b.nodeDrainTimeout ∧
      Timeout.SameDrain a.nodeVolumeDetachTimeout b.nodeVolumeDetachTimeout ∧
      Timeout.SameDeletion a.nodeDeletionTimeout b.nodeDeletionTimeout := by
  rw [equivalent_eq_true_iff, and_assoc]
  refine and_congr_right fun _ => and_congr_right fun _ => ?_
  constructor
  · intro h
    exact ⟨Timeout.means_drain.agree_iff_same.mp (h .drain),
      Timeout.means_drain.agree_iff_same.mp (h .detach),
      Timeout.means_deletion.agree_iff_same.mp (h .deletion)⟩
  · rintro ⟨hdrain, hdetach, hdeletion⟩ part
    cases part with
    | drain => exact Timeout.means_drain.agree_iff_same.mpr hdrain
    | detach => exact Timeout.means_drain.agree_iff_same.mpr hdetach
    | deletion => exact Timeout.means_deletion.agree_iff_same.mpr hdeletion

/-- The comparison of two templates comes to a timeout of which the reading breaks off: all that
is looked at before it is the same. -/
structure ComesToStop (a b : MachineTemplate) : Prop where
  metadata : a.metadata = b.metadata
  infrastructure : a.infrastructure = b.infrastructure
  stop : ∃ earlier part later, TimeoutPart.all = earlier ++ part :: later ∧
    (∀ other ∈ earlier, other.agree a b = some true) ∧
      (Runaway (part.of a) ∨ Runaway (part.of b))

theorem equivalent_eq_none_iff : a.equivalent b = none ↔ a.ComesToStop b := by
  have hstop : Timeout.allAgree (TimeoutPart.all.map (TimeoutPart.agree a b)) = none ↔
      ∃ earlier part later, TimeoutPart.all = earlier ++ part :: later ∧
        (∀ other ∈ earlier, other.agree a b = some true) ∧
          (Runaway (part.of a) ∨ Runaway (part.of b)) := by
    rw [Timeout.allAgree_eq_none_iff]
    constructor
    · rintro ⟨agreed, rest, hfields, hagree⟩
      obtain ⟨earlier, parts, hparts, rfl, hrest⟩ := List.map_eq_append_iff.mp hfields
      obtain ⟨part, later, rfl, hnone, rfl⟩ := List.map_eq_cons_iff.mp hrest
      exact ⟨earlier, part, later, hparts, List.forall_mem_map.mp hagree,
        TimeoutPart.agree_eq_none_iff.mp hnone⟩
    · rintro ⟨earlier, part, later, hparts, hagree, hstop⟩
      refine ⟨earlier.map (TimeoutPart.agree a b), later.map (TimeoutPart.agree a b), ?_,
        List.forall_mem_map.mpr hagree⟩
      rw [hparts, List.map_append, List.map_cons, TimeoutPart.agree_eq_none_iff.mpr hstop]
  rw [equivalent_eq]
  by_cases hrest : a.metadata = b.metadata ∧ a.infrastructure = b.infrastructure
  · rw [if_pos hrest, hstop]
    exact ⟨fun h => ⟨hrest.1, hrest.2, h⟩, ComesToStop.stop⟩
  · rw [if_neg hrest]
    exact ⟨nofun, fun h => absurd ⟨h.metadata, h.infrastructure⟩ hrest⟩

/-- A template makes the same machines as itself, unless the reading of a timeout breaks off. -/
theorem equivalent_self_iff {t : MachineTemplate} :
    t.equivalent t = some true ↔ ∀ part : TimeoutPart, ¬ Runaway (part.of t) := by
  rw [equivalent_eq_true_iff]
  constructor
  · rintro ⟨-, hagree⟩ part hrunaway
    have hnone : part.agree t t = none := TimeoutPart.agree_eq_none_iff.mpr (.inl hrunaway)
    rw [hagree part] at hnone
    cases hnone
  · exact fun h => ⟨⟨rfl, rfl⟩, fun part =>
      Timeout.agree_self (mt TimeoutPart.meaning_eq_abort_iff.mp (h part))⟩

theorem equivalent_comm : a.equivalent b = b.equivalent a := by
  have hparts : TimeoutPart.agree a b = TimeoutPart.agree b a :=
    funext fun _ => Timeout.agree_comm
  rw [equivalent_eq, equivalent_eq, hparts]
  exact ite_congr (propext (and_congr eq_comm eq_comm)) (fun _ => rfl) fun _ => rfl

/-- Equivalent templates are compared alike with any other. -/
theorem equivalent_congr (hab : a.equivalent b = some true) : a.equivalent c = b.equivalent c := by
  obtain ⟨⟨hmetadata, hinfrastructure⟩, hagree⟩ := equivalent_eq_true_iff.mp hab
  have hparts : TimeoutPart.agree a c = TimeoutPart.agree b c :=
    funext fun part => Timeout.agree_congr (hagree part)
  rw [equivalent_eq, equivalent_eq, hparts, hmetadata, hinfrastructure]

theorem equivalent_trans (hab : a.equivalent b = some true) (hbc : b.equivalent c = some true) :
    a.equivalent c = some true :=
  (equivalent_congr hab).trans hbc

end MachineTemplate

/-! ### Updates -/

theorem checkTemplateUpdate_ok_iff {accepted proposed : MachineTemplate} :
    checkTemplateUpdate (some accepted) proposed = .ok () ↔
      accepted.equivalent proposed = some true := by
  unfold checkTemplateUpdate
  rcases hequivalent : accepted.equivalent proposed with _ | _ | _ <;> simp [hequivalent]

theorem checkTemplateUpdate_eq_abort_iff {accepted : Option MachineTemplate}
    {proposed : MachineTemplate} : checkTemplateUpdate accepted proposed = .abort ↔
      ∃ a ∈ accepted, a.ComesToStop proposed := by
  cases accepted with
  | none => simp [checkTemplateUpdate]
  | some a =>
    simp only [Option.mem_def, Option.some.injEq, exists_eq_left',
      ← MachineTemplate.equivalent_eq_none_iff]
    unfold checkTemplateUpdate
    rcases hequivalent : a.equivalent proposed with _ | _ | _ <;> simp [hequivalent]

/-- Equivalent templates are the same baseline. -/
theorem checkTemplateUpdate_congr {a b proposed : MachineTemplate}
    (h : a.equivalent b = some true) :
    checkTemplateUpdate (some a) proposed = checkTemplateUpdate (some b) proposed := by
  unfold checkTemplateUpdate
  dsimp only
  rw [MachineTemplate.equivalent_congr h]

namespace Resource

/-- The verdicts on some updates of a resource, each judged by its bound template, and the
resource after them. -/
def updateEach (r : Resource) : List Spec → List (Fallible ValidationError Unit) × Resource
  | [] => ([], r)
  | proposed :: rest =>
    let (verdict, r) := r.updateSpec proposed
    let (verdicts, r) := updateEach r rest
    (verdict :: verdicts, r)

end Resource

namespace Spec

/-- The verdicts on some updates of a spec, each judged by the spec that was accepted last,
and the last one that is accepted. -/
def updateEach (last : Spec) : List Spec → List (Fallible ValidationError Unit) × Spec
  | [] => ([], last)
  | proposed :: rest =>
    match checkSpecUpdate (some last) proposed with
    | .ok () =>
      let (verdicts, last) := updateEach proposed rest
      (.ok () :: verdicts, last)
    | refused =>
      let (verdicts, last) := updateEach last rest
      (refused :: verdicts, last)

/-- The updates among some proposals that are accepted, by the verdicts on them. -/
def accepted : List Spec → List (Fallible ValidationError Unit) → List Spec
  | proposed :: rest, .ok () :: verdicts => proposed :: accepted rest verdicts
  | _ :: rest, _ :: verdicts => accepted rest verdicts
  | _, _ => []

end Spec

namespace Resource

variable {r r' : Resource} {bound : MachineTemplate} {proposed : Spec}

theorem updateSpec_of_ok
    (h : checkTemplateUpdate r.acceptedTemplate proposed.template = .ok ()) :
    r.updateSpec proposed = (.ok (), { r with spec := proposed }) := by
  unfold updateSpec
  rw [h]

/-- What is not accepted leaves the resource as it is. -/
theorem updateSpec_of_ne_ok
    (h : checkTemplateUpdate r.acceptedTemplate proposed.template ≠ .ok ()) :
    r.updateSpec proposed = (checkTemplateUpdate r.acceptedTemplate proposed.template, r) := by
  unfold updateSpec
  split
  · rename_i hok
    exact absurd hok h
  · rfl

/-- The spec stands where the bound template is: it carries it, or one of its class. -/
def AtBaseline (r : Resource) (bound : MachineTemplate) : Prop :=
  r.acceptedTemplate = some bound ∧
    (r.spec.template = bound ∨ bound.equivalent r.spec.template = some true)

/-- An update has one verdict by the bound template and by a spec that stands there. -/
theorem AtBaseline.checkSpecUpdate_eq (h : r.AtBaseline bound) :
    checkSpecUpdate (some r.spec) proposed =
      checkTemplateUpdate r.acceptedTemplate proposed.template := by
  obtain ⟨hbound, rfl | hspec⟩ := h
  · rw [hbound]
    rfl
  · rw [hbound]
    exact (checkTemplateUpdate_congr hspec).symm

/-- An accepted update leaves it in the class of the bound template. -/
theorem AtBaseline.update (h : r.AtBaseline bound)
    (hok : checkTemplateUpdate r.acceptedTemplate proposed.template = .ok ()) :
    bound.equivalent proposed.template = some true ∧
      AtBaseline { r with spec := proposed } bound := by
  have hequivalent : bound.equivalent proposed.template = some true := by
    rw [h.1] at hok
    exact checkTemplateUpdate_ok_iff.mp hok
  exact ⟨hequivalent, h.1, .inr hequivalent⟩

/-- Judged by the bound template or by the spec that was accepted last, updates meet with the
same. -/
theorem updateEach_eq (h : r.AtBaseline bound) (proposals : List Spec) :
    updateEach r proposals =
      ((Spec.updateEach r.spec proposals).1,
        { r with spec := (Spec.updateEach r.spec proposals).2 }) := by
  induction proposals generalizing r with
  | nil => rfl
  | cons proposed rest ih =>
    unfold updateEach Spec.updateEach
    rw [h.checkSpecUpdate_eq]
    by_cases hok : checkTemplateUpdate r.acceptedTemplate proposed.template = .ok ()
    · rw [updateSpec_of_ok hok, hok]
      dsimp only
      rw [ih (h.update hok).2]
    · rw [updateSpec_of_ne_ok hok]
      dsimp only
      rw [ih h]
      split
      · rename_i hok'
        exact absurd hok' hok
      · rfl

/-- Every update that is accepted has a template of the bound one's class. -/
theorem equivalent_of_accepted (h : r.AtBaseline bound) {proposals : List Spec} {s : Spec}
    (hs : s ∈ Spec.accepted proposals (updateEach r proposals).1) :
    bound.equivalent s.template = some true := by
  induction proposals generalizing r with
  | nil => cases hs
  | cons proposed rest ih =>
    unfold updateEach at hs
    by_cases hok : checkTemplateUpdate r.acceptedTemplate proposed.template = .ok ()
    · rw [updateSpec_of_ok hok] at hs
      obtain ⟨hequivalent, hnext⟩ := h.update hok
      rcases List.mem_cons.mp hs with rfl | hrest
      · exact hequivalent
      · exact ih hnext hrest
    · rw [updateSpec_of_ne_ok hok] at hs
      cases hverdict : checkTemplateUpdate r.acceptedTemplate proposed.template with
      | ok _ => exact absurd hverdict hok
      | error e =>
        rw [hverdict] at hs
        exact ih h hs
      | abort =>
        rw [hverdict] at hs
        exact ih h hs

/-- **Templates are compared by an equivalence relation, and the baseline of updates cannot
drift.**  The relation is that all but the timeouts is equal and each timeout means the same; a
text that is refused means the same as itself alone.  It is symmetric and transitive, and a
template is related to itself unless the reading of one of its timeouts breaks off.  Then nothing
comes of the comparison if it comes to that timeout, whichever of the two templates has it.

For a resource whose spec carries its bound template, any sequence of updates meets with the same,
judged by the bound template or by the spec that was accepted last; the resource then differs in
the spec alone, which is that one.  All accepted templates are equivalent to the bound one and to
each other.  An update that is refused, or whose judgement breaks off, leaves the resource as it
was. -/
theorem template_baseline (hbound : r.acceptedTemplate = some bound)
    (hspec : r.spec.template = bound ∨ bound.equivalent r.spec.template = some true) :
    (∀ a b : MachineTemplate, a.equivalent b = b.equivalent a) ∧
    (∀ a b c : MachineTemplate, a.equivalent b = some true → b.equivalent c = some true →
      a.equivalent c = some true) ∧
    (∀ t : MachineTemplate,
      t.equivalent t = some true ↔ ∀ part : TimeoutPart, ¬ Runaway (part.of t)) ∧
    (∀ a b : MachineTemplate, a.equivalent b = some true ↔
      a.metadata = b.metadata ∧ a.infrastructure = b.infrastructure ∧
        Timeout.SameDrain a.nodeDrainTimeout b.nodeDrainTimeout ∧
        Timeout.SameDrain a.nodeVolumeDetachTimeout b.nodeVolumeDetachTimeout ∧
        Timeout.SameDeletion a.nodeDeletionTimeout b.nodeDeletionTimeout) ∧
    (∀ a b : MachineTemplate, a.equivalent b = none ↔ a.ComesToStop b) ∧
    (∀ proposals : List Spec,
      let verdicts := (updateEach r proposals).1
      verdicts = (Spec.updateEach r.spec proposals).1 ∧
        (updateEach r proposals).2 = { r with spec := (Spec.updateEach r.spec proposals).2 } ∧
        (∀ s ∈ Spec.accepted proposals verdicts, bound.equivalent s.template = some true) ∧
        ∀ s ∈ Spec.accepted proposals verdicts, ∀ s' ∈ Spec.accepted proposals verdicts,
          s.template.equivalent s'.template = some true) ∧
    ∀ (r : Resource) (proposed : Spec), (r.updateSpec proposed).1 ≠ .ok () →
      (r.updateSpec proposed).2 = r := by
  refine ⟨fun _ _ => MachineTemplate.equivalent_comm, fun _ _ _ => MachineTemplate.equivalent_trans,
    fun _ => MachineTemplate.equivalent_self_iff, fun _ _ => MachineTemplate.equivalent_iff,
    fun _ _ => MachineTemplate.equivalent_eq_none_iff, fun proposals => ?_,
    fun r proposed hne => ?_⟩
  · have hbaseline : r.AtBaseline bound := ⟨hbound, hspec⟩
    have heq := updateEach_eq hbaseline proposals
    have hclass : ∀ s ∈ Spec.accepted proposals (updateEach r proposals).1,
        bound.equivalent s.template = some true := fun _ => equivalent_of_accepted hbaseline
    exact ⟨congrArg Prod.fst heq, congrArg Prod.snd heq, hclass, fun s hs s' hs' =>
      MachineTemplate.equivalent_trans (MachineTemplate.equivalent_comm.trans (hclass s hs))
        (hclass s' hs')⟩
  · have hcheck : checkTemplateUpdate r.acceptedTemplate proposed.template ≠ .ok () :=
      fun hok => hne (congrArg Prod.fst (updateSpec_of_ok hok))
    exact congrArg Prod.snd (updateSpec_of_ne_ok hcheck)

/-- The demo with a template that respells the bound one's drain timeout, which is unset. -/
def respelled (drain : String) : Spec :=
  { (Demo.resource none).spec with template := { Demo.template with nodeDrainTimeout := some drain } }

/-- Spellings of zero are accepted one after another, and a limit is refused between them. -/
theorem template_baseline_respelled :
    let r := Demo.resource (some { Status.blank with boundTemplate := some Demo.template })
    let verdicts := (updateEach r [respelled "0s", respelled "10m", respelled "0h0m"]).1
    verdicts = [.ok (), .error (.immutable templateField), .ok ()] ∧
      (updateEach r [respelled "0s", respelled "10m", respelled "0h0m"]).2 =
        { r with spec := respelled "0h0m" } ∧
      (respelled "0s").template.equivalent (respelled "0h0m").template = some true := by
  intro r verdicts
  obtain ⟨-, -, -, -, -, hjudged, -⟩ := @template_baseline r Demo.template rfl (.inl rfl)
  obtain ⟨hverdicts, hresource, -, hpairs⟩ :=
    hjudged [respelled "0s", respelled "10m", respelled "0h0m"]
  have hspec : Spec.updateEach r.spec [respelled "0s", respelled "10m", respelled "0h0m"] =
      ([.ok (), .error (.immutable templateField), .ok ()], respelled "0h0m") := rfl
  rw [hspec] at hverdicts hresource
  refine ⟨hverdicts, hresource, ?_⟩
  rw [hverdicts] at hpairs
  exact hpairs _ (.head _) _ (.tail _ (.head _))

/-- A template is not equivalent to itself if one of its timeouts is not read to an end, and to
propose it over itself breaks off. -/
theorem spilling_not_equivalent_self :
    Demo.spillingTemplate.equivalent Demo.spillingTemplate = none ∧
      checkTemplateUpdate (some Demo.spillingTemplate) Demo.spillingTemplate = .abort := by
  decide +kernel

end Resource

end ControlPlane
