/-
What is read of a spec or a status that was written.

Every record is read back from its own writing as it was: a reference, the metadata of
machines, a template, a selector.  Only the times of conditions lose their fraction of a second.  What
holds of a record rests on what holds of its fields, since a field is found where it was
written and what was left out is read as the value that it was left out for.
-/
import ControlPlane.Proofs.Records
import ControlPlane.Proofs.Status
import ControlPlane.Proofs.TimeText

namespace ControlPlane

open Json

/-! ### Templates -/

/-- A table of texts, unless it is empty. -/
def Labels.field? (t : Labels) : Option Json := if t.isEmpty then none else some (ofTexts t)

theorem Json.orElse_texts {all : List (String × Option Json)} {name : String} {once : Bool}
    {position : Nat} {t : Labels} (h : Rising all)
    (hfield : Table.lookup name all = some t.field?) :
    (Record.named once (Source.ofFields (written all))).orElse position name .empty
      (asTable asString) = .ok t := by
  unfold Labels.field? at hfield
  by_cases hempty : t.isEmpty = true
  · rw [if_pos hempty] at hfield
    rw [orElse_unwritten h hfield, Table.eq_empty_of_isEmpty hempty]
  · rw [if_neg hempty] at hfield
    exact orElse_written h hfield (reads_texts t)

namespace InfrastructureReference

theorem decode_encode (r : InfrastructureReference) : Reads decode r.encode r := rfl

end InfrastructureReference

namespace MachineMetadata

def fields (m : MachineMetadata) : List (String × Option Json) :=
  [("annotations", m.annotations.field?), ("labels", m.labels.field?)]

theorem rising_fields (m : MachineMetadata) : Rising m.fields := by
  have hnames : ["annotations", "labels"].Pairwise (· < ·) := by decide
  exact rising_of_names hnames

theorem encode_eq (m : MachineMetadata) : m.encode = .obj (written m.fields) := by
  unfold encode fieldIfFilled fields Labels.field?
  cases m.annotations.isEmpty <;> cases m.labels.isEmpty <;> rfl

theorem decode_encode (m : MachineMetadata) : Reads decode m.encode m := by
  rw [encode_eq]
  unfold Reads decode
  exact Decoded.bind_eq_ok.mpr ⟨_, rfl,
    Decoded.bind_eq_ok.mpr ⟨_, orElse_texts m.rising_fields rfl,
    Decoded.bind_eq_ok.mpr ⟨_, orElse_texts m.rising_fields rfl, rfl⟩⟩⟩

end MachineMetadata

namespace MachineTemplate

def fields (t : MachineTemplate) : List (String × Option Json) :=
  [("infrastructureRef", some t.infrastructure.encode), ("metadata", some t.metadata.encode),
    ("nodeDeletionTimeout", t.nodeDeletionTimeout.map .str),
    ("nodeDrainTimeout", t.nodeDrainTimeout.map .str),
    ("nodeVolumeDetachTimeout", t.nodeVolumeDetachTimeout.map .str)]

theorem rising_fields (t : MachineTemplate) : Rising t.fields := by
  have hnames : ["infrastructureRef", "metadata", "nodeDeletionTimeout",
      "nodeDrainTimeout", "nodeVolumeDetachTimeout"].Pairwise (· < ·) := by decide
  exact rising_of_names hnames

theorem encode_eq (t : MachineTemplate) : t.encode = .obj (written t.fields) := by
  unfold encode fields
  cases t.nodeDeletionTimeout <;> cases t.nodeDrainTimeout <;>
    cases t.nodeVolumeDetachTimeout <;> rfl

theorem decode_encode (t : MachineTemplate) : Reads decode t.encode t := by
  rw [encode_eq]
  unfold Reads decode
  exact Decoded.bind_eq_ok.mpr ⟨_, rfl,
    Decoded.bind_eq_ok.mpr ⟨_, orElse_written t.rising_fields rfl t.metadata.decode_encode,
    Decoded.bind_eq_ok.mpr ⟨_, required_written t.rising_fields rfl t.infrastructure.decode_encode,
    Decoded.bind_eq_ok.mpr ⟨_, optional_written t.rising_fields rfl fun _ _ => rfl,
    Decoded.bind_eq_ok.mpr ⟨_, optional_written t.rising_fields rfl fun _ _ => rfl,
    Decoded.bind_eq_ok.mpr ⟨_, optional_written t.rising_fields rfl fun _ _ => rfl, rfl⟩⟩⟩⟩⟩⟩

end MachineTemplate

/-! ### Specs -/

namespace SecretReference

theorem decode_encode (r : SecretReference) : Reads decode r.encode r := rfl

end SecretReference

namespace Requirement

def fields (r : Requirement) : List (String × Option Json) :=
  [("key", some (.str r.key)), ("operator", some (.str r.operator)),
    ("values", r.values.map ofTextList)]

theorem rising_fields (r : Requirement) : Rising r.fields := by
  have hnames : ["key", "operator", "values"].Pairwise (· < ·) := by decide
  exact rising_of_names hnames

theorem encode_eq (r : Requirement) : r.encode = .obj (written r.fields) := by
  unfold encode fields
  cases r.values <;> rfl

theorem decode_encode (r : Requirement) : Reads decode r.encode r := by
  rw [encode_eq]
  unfold Reads decode
  exact Decoded.bind_eq_ok.mpr ⟨_, rfl,
    Decoded.bind_eq_ok.mpr ⟨_, nullable_written r.rising_fields rfl rfl,
    Decoded.bind_eq_ok.mpr ⟨_, nullable_written r.rising_fields rfl rfl,
    Decoded.bind_eq_ok.mpr ⟨_, optional_written r.rising_fields rfl
      fun l _ => reads_optional (reads_same fun _ => rfl) nofun, rfl⟩⟩⟩⟩

end Requirement

namespace LabelSelector

def fields (s : LabelSelector) : List (String × Option Json) :=
  [("matchExpressions", s.matchExpressions.map fun l => .arr (l.map Requirement.encode)),
    ("matchLabels", s.matchLabels.map ofTexts)]

theorem rising_fields (s : LabelSelector) : Rising s.fields := by
  have hnames : ["matchExpressions", "matchLabels"].Pairwise (· < ·) := by decide
  exact rising_of_names hnames

theorem encode_eq (s : LabelSelector) : s.encode = .obj (written s.fields) := by
  unfold encode fields
  cases s.matchExpressions <;> cases s.matchLabels <;> rfl

theorem decode_encode (s : LabelSelector) : Reads decode s.encode s := by
  rw [encode_eq]
  unfold Reads decode
  exact Decoded.bind_eq_ok.mpr ⟨_, rfl,
    Decoded.bind_eq_ok.mpr ⟨_, optional_written s.rising_fields rfl
      fun t _ => reads_optional (reads_texts t) nofun,
    Decoded.bind_eq_ok.mpr ⟨_, optional_written s.rising_fields rfl
      fun l _ => reads_optional (reads_same Requirement.decode_encode) nofun, rfl⟩⟩⟩

end LabelSelector

namespace Spec

def fields (s : Spec) : List (String × Option Json) :=
  [("installStateSecretRef", some s.installState.encode), ("machineTemplate", some s.template.encode),
    ("manifestsSelector", s.manifestsSelector.map LabelSelector.encode)]

theorem rising_fields (s : Spec) : Rising s.fields := by
  have hnames : ["installStateSecretRef", "machineTemplate", "manifestsSelector"].Pairwise
      (· < ·) := by decide
  exact rising_of_names hnames

theorem encode_eq (s : Spec) : s.encode = .obj (written s.fields) := by
  unfold encode fields
  cases s.manifestsSelector <;> rfl

theorem decode_encode (s : Spec) : Reads decode s.encode s := by
  rw [encode_eq]
  unfold Reads decode
  exact Decoded.bind_eq_ok.mpr ⟨_, rfl,
    Decoded.bind_eq_ok.mpr ⟨_, required_written s.rising_fields rfl s.template.decode_encode,
    Decoded.bind_eq_ok.mpr ⟨_, required_written s.rising_fields rfl s.installState.decode_encode,
    Decoded.bind_eq_ok.mpr ⟨_, optional_written s.rising_fields rfl
      fun l _ => reads_optional l.decode_encode nofun, rfl⟩⟩⟩⟩

end Spec

/-! ### Conditions -/

/-- A whole number of 64 bits with a sign. -/
def InInt64 (n : Int) : Prop := -9223372036854775808 ≤ n ∧ n ≤ 9223372036854775807

instance (n : Int) : Decidable (InInt64 n) :=
  inferInstanceAs (Decidable (-9223372036854775808 ≤ n ∧ n ≤ 9223372036854775807))

namespace Observation

/-- The observation as it is read back. -/
def truncate (o : Observation) : Observation := { o with since := o.since.truncate }

/-- The time is one of a clock, its year has four digits, and the generation is a number that
an object can have. -/
structure Storable (o : Observation) : Prop where
  clock : o.since.OfClock
  year : Time.InFourDigits o.since.year
  generation : ∀ g ∈ o.generation, InInt64 g

instance (o : Observation) : Decidable o.Storable :=
  decidable_of_iff (o.since.OfClock ∧ Time.InFourDigits o.since.year ∧
      ∀ g ∈ o.generation, InInt64 g)
    ⟨fun h => ⟨h.1, h.2.1, h.2.2⟩, fun h => ⟨h.clock, h.year, h.generation⟩⟩

end Observation

namespace Condition

def fields (c : Condition) : List (String × Option Json) :=
  [("lastTransitionTime", some (.str c.observation.since.text)),
    ("message", some (.str c.observation.message)),
    ("observedGeneration", c.observation.generation.map .int),
    ("reason", some (.str c.observation.reason)), ("status", some (.str c.observation.status)),
    ("type", some (.str c.type))]

theorem rising_fields (c : Condition) : Rising c.fields := by
  have hnames : ["lastTransitionTime", "message", "observedGeneration", "reason",
      "status", "type"].Pairwise (· < ·) := by decide
  exact rising_of_names hnames

theorem encode_eq (c : Condition) : c.encode = .obj (written c.fields) := by
  unfold encode fields
  cases c.observation.generation <;> rfl

theorem reads_time {t : Time} (h : t.OfClock) (hyear : Time.InFourDigits t.year) :
    Reads asTime (.str t.text) t.truncate := by
  unfold Reads asTime
  refine Decoded.bind_eq_ok.mpr ⟨_, rfl, ?_⟩
  rw [Time.read?_text h hyear]

theorem reads_generation {g : Int} (h : InInt64 g) :
    Reads (asOptional asInt64) (.int g) (some g) :=
  reads_optional (if_pos h) nofun

theorem decode_encode {c : Condition} (h : c.observation.Storable) :
    Reads decode c.encode ⟨c.type, c.observation.truncate⟩ := by
  rw [encode_eq]
  unfold Reads decode
  exact Decoded.bind_eq_ok.mpr ⟨_, rfl,
    Decoded.bind_eq_ok.mpr ⟨_, required_written c.rising_fields rfl (reads_time h.clock h.year),
    Decoded.bind_eq_ok.mpr ⟨_, nullable_written c.rising_fields rfl rfl,
    Decoded.bind_eq_ok.mpr ⟨_, optional_written c.rising_fields rfl
      fun g hg => reads_generation (h.generation g hg),
    Decoded.bind_eq_ok.mpr ⟨_, nullable_written c.rising_fields rfl rfl,
    Decoded.bind_eq_ok.mpr ⟨_, nullable_written c.rising_fields rfl rfl,
    Decoded.bind_eq_ok.mpr ⟨_, nullable_written c.rising_fields rfl rfl, rfl⟩⟩⟩⟩⟩⟩⟩

end Condition

namespace ConditionSet

/-- All observations are as they are read back. -/
def truncate (c : ConditionSet) : ConditionSet := ⟨c.byType.map fun _ o => o.truncate⟩

/-- All observations can be stored. -/
def Storable (c : ConditionSet) : Prop := ∀ e ∈ c.byType.entries, e.2.Storable

instance (c : ConditionSet) : Decidable c.Storable :=
  inferInstanceAs (Decidable (∀ e ∈ c.byType.entries, e.2.Storable))

theorem decode_encode {c : ConditionSet} (h : c.Storable) :
    Reads decode c.encode c.truncate := by
  have hread : Reads (asList Condition.decode) c.encode
      (c.toList.map fun x => ⟨x.type, x.observation.truncate⟩) := by
    refine reads_list fun x hx => Condition.decode_encode ?_
    obtain ⟨e, he, rfl⟩ := List.mem_map.mp hx
    exact h e he
  unfold Reads decode
  rw [hread]
  have hentries : (c.toList.map fun x => (⟨x.type, x.observation.truncate⟩ : Condition)).map
      (fun x => (x.type, x.observation)) = (c.byType.map fun _ o => o.truncate).entries := by
    unfold toList Table.map
    rw [List.map_map, List.map_map]
    rfl
  refine congrArg Except.ok (congrArg ConditionSet.mk ?_)
  rw [hentries]
  exact Table.ofList_entries _

end ConditionSet

/-! ### Statuses -/

namespace Status

def fields (s : Status) : List (String × Option Json) :=
  [("boundMachineTemplate", s.boundTemplate.map MachineTemplate.encode),
    ("conditions", if s.conditions.isEmpty then none else some s.conditions.encode),
    ("initialized", some (.bool s.initialized)), ("ready", some (.bool s.ready))]

theorem rising_fields (s : Status) : Rising s.fields := by
  have hnames : ["boundMachineTemplate", "conditions", "initialized", "ready"].Pairwise (· < ·) := by
    decide
  exact rising_of_names hnames

theorem encode_eq (s : Status) : s.encode = .obj (written s.fields) := by
  unfold encode fields
  cases s.boundTemplate <;> cases s.conditions.isEmpty <;> rfl

theorem reads_template (t : MachineTemplate) :
    Reads (asOptional MachineTemplate.decode) t.encode (some t) :=
  reads_optional t.decode_encode nofun

/-- **A status is read back as it was written**, but for the fractions of its times. -/
theorem decode_encode {s : Status} (h : s.conditions.Storable) :
    Reads decode s.encode (s.withTimes Time.truncate) := by
  have hconditions : (Record.named true (Source.ofFields (written s.fields))).orElse 0 "conditions"
      .empty ConditionSet.decode = .ok s.conditions.truncate := by
    have hfield : Table.lookup "conditions" s.fields =
        some (if s.conditions.isEmpty then none else some s.conditions.encode) := rfl
    by_cases hempty : s.conditions.isEmpty = true
    · have hnone : s.conditions.truncate = .empty := by
        unfold ConditionSet.truncate
        rw [Table.eq_empty_of_isEmpty hempty]
        rfl
      rw [if_pos hempty] at hfield
      rw [orElse_unwritten s.rising_fields hfield, hnone]
    · rw [if_neg hempty] at hfield
      exact orElse_written s.rising_fields hfield (ConditionSet.decode_encode h)
  rw [encode_eq]
  unfold Reads decode
  exact Decoded.bind_eq_ok.mpr ⟨_, rfl,
    Decoded.bind_eq_ok.mpr ⟨_, hconditions,
    Decoded.bind_eq_ok.mpr ⟨_, orElse_written s.rising_fields rfl rfl,
    Decoded.bind_eq_ok.mpr ⟨_, orElse_written s.rising_fields rfl rfl,
    Decoded.bind_eq_ok.mpr ⟨_, optional_written s.rising_fields rfl fun t _ => reads_template t,
      rfl⟩⟩⟩⟩⟩

end Status

end ControlPlane
