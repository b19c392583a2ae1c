/-
Timeouts as the machine API reads them.

A timeout goes into the spec of a machine as it was written, and the API there reads durations of
Go: segments with nothing between them, in units from a nanosecond to an hour, of less than
`2 ^ 63` nanoseconds together, or a bare zero (`ApiReads`).  Go reckons decimals in floating point;
what it makes of them is a parameter here.

A spec is checked by another reader, which passes over white space, knows more units and counts
further.  Of the texts that it reads the API reads just the plain ones (`apiReads_iff`), and those
as the same duration unless it loses some of their decimals.
-/
import ControlPlane.Kubernetes.Machines
import ControlPlane.Proofs.Additions
import ControlPlane.Proofs.Rules
import ControlPlane.Proofs.Segments

namespace ControlPlane

namespace Duration

open Text

/-! ### The reader of the machine API -/

/-- The length of a unit of the API in nanoseconds. -/
def apiUnit? (name : String) : Option Nat :=
  if name = "ns" then some 1
  else if name = "us" ∨ name = "µs" then some 1000
  else if name = "ms" then some 1000000
  else if name = "s" then some 1000000000
  else if name = "m" then some 60000000000
  else if name = "h" then some 3600000000000
  else none

/-- What a part comes to for the API, which makes `cut f u` of decimals `f` of a unit of length
`u`. -/
def Part.apiWorth (cut : Fraction → Nat → Nat) (p : Part) : Nat :=
  match apiUnit? p.unit with
  | none => 0
  | some u => p.n * u + (p.fraction.toList.map fun f => cut f u).sum

/-- What the parts of a row come to for the API. -/
def apiTotal (cut : Fraction → Nat → Nat) (parts : List Part) : Nat :=
  (parts.map (Part.apiWorth cut)).sum

/-- The API reads a text as a number of nanoseconds. -/
inductive ApiReads (cut : Fraction → Nat → Nat) : String → Nat → Prop where
  | zero : ApiReads cut "0" 0
  | segments {text : String} {segments : List Segment} (hsome : segments ≠ [])
      (htext : text.toList = Segment.join segments)
      (hunits : ∀ p ∈ segments.map Segment.part, (apiUnit? p.unit).isSome = true)
      (hrange : apiTotal cut (segments.map Segment.part) < 2 ^ 63) :
      ApiReads cut text (apiTotal cut (segments.map Segment.part))

/-! ### Plain texts -/

/-- A text without white space, in units of the API. -/
structure Plain (text : String) : Prop where
  dark : ∀ c ∈ text.toList, isBlank c = false
  units : ∀ p ∈ (row text).parts, (apiUnit? p.unit).isSome = true

/-- No decimals of a text are lost. -/
def Kept (cut : Fraction → Nat → Nat) (text : String) : Prop :=
  ∀ p ∈ (row text).parts, ∀ f ∈ p.fraction, ∀ u, apiUnit? p.unit = some u →
    cut f u = f.numerator * u / f.denominator

section Plain

variable {cut : Fraction → Nat → Nat} {text : String} {d : Duration} {n : Nat}

theorem trim_of_dark (h : ∀ c ∈ text.toList, isBlank c = false) :
    trim text.toList = text.toList :=
  trim_eq_self (fun _ hc => h _ (List.mem_of_mem_head? hc))
    (fun _ hc => h _ (List.mem_of_mem_getLast? hc))

/-- A part that can be measured has a unit. -/
theorem Part.Measured.unit_ne {p : Part} (h : p.Measured) : p.unit ≠ "" := by
  obtain ⟨u, hu, -⟩ := h
  intro hempty
  rw [hempty] at hu
  cases hu

/-- A text that is read and has no white space is made of segments, unless it is a bare zero. -/
theorem exists_segments_of_parse (hread : parse text = .ok d)
    (hdark : ∀ c ∈ text.toList, isBlank c = false) (hzero : text.toList ≠ ['0']) :
    ∃ segments, segments ≠ [] ∧ text.toList = Segment.join segments ∧
      (row text).parts = segments.map Segment.part := by
  rw [← trim_of_dark hdark] at hzero
  obtain ⟨hfault, hmeasured, -⟩ := worth_of_parse hzero hread
  have hscan : scan .start 0 text.toList = ⟨(row text).parts, none⟩ := by
    rw [← hfault, row, trim_of_dark hdark]
  exact exists_segments hdark hscan fun p hp => (hmeasured p hp).unit_ne

theorem toList_eq_zero_iff : text.toList = ['0'] ↔ text = "0" := by
  constructor
  · intro h
    rw [← String.ofList_toList (s := text), h]
  · rintro rfl
    rfl

/-- A bare zero has no unit. -/
theorem Plain.ne_zero (h : Plain text) : text.toList ≠ ['0'] := by
  intro hzero
  have hunit := h.units ⟨0, none, ""⟩
  rw [toList_eq_zero_iff.mp hzero] at hunit
  exact absurd (hunit (by decide)) (by decide)

/-- **The API reads just the plain texts** of those that are read here. -/
theorem apiReads_iff (hread : parse text = .ok d) :
    ApiReads cut text n ↔
      (text = "0" ∧ n = 0) ∨ (Plain text ∧ n = apiTotal cut (row text).parts ∧ n < 2 ^ 63) := by
  constructor
  · intro h
    cases h with
    | zero => exact Or.inl ⟨rfl, rfl⟩
    | @segments _ segments hsome htext hunits hrange =>
        have hdark : ∀ c ∈ text.toList, isBlank c = false := by
          intro c hc
          rw [htext] at hc
          exact isBlank_of_mem_join hc
        have hzero : text.toList ≠ ['0'] := by
          rw [htext]
          exact join_ne_zero segments
        obtain ⟨others, -, hjoin, hparts⟩ := exists_segments_of_parse hread hdark hzero
        rw [join_inj (hjoin.symm.trans htext)] at hparts
        rw [← hparts] at hunits hrange ⊢
        exact Or.inr ⟨⟨hdark, hunits⟩, rfl, hrange⟩
  · intro h
    rcases h with ⟨rfl, rfl⟩ | ⟨hplain, rfl, hrange⟩
    · exact .zero
    · obtain ⟨segments, hsome, hjoin, hparts⟩ :=
        exists_segments_of_parse hread hplain.dark hplain.ne_zero
      have hunits := hplain.units
      rw [hparts] at hunits hrange ⊢
      exact .segments hsome hjoin hunits hrange

/-- The units of the API are as long here. -/
theorem exists_unit {name : String} {u : Nat} (h : apiUnit? name = some u) :
    ∃ v, TimeUnit.ofText? name = some v ∧ v.nanos = u := by
  unfold apiUnit? at h
  split_ifs at h with hns hus hms hs hm hh
  · exact ⟨.nanosecond, by rw [hns]; rfl, Option.some.inj h⟩
  · rcases hus with hus | hus
    · exact ⟨.microsecond, by rw [hus]; rfl, Option.some.inj h⟩
    · exact ⟨.microsecond, by rw [hus]; rfl, Option.some.inj h⟩
  · exact ⟨.millisecond, by rw [hms]; rfl, Option.some.inj h⟩
  · exact ⟨.second, by rw [hs]; rfl, Option.some.inj h⟩
  · exact ⟨.minute, by rw [hm]; rfl, Option.some.inj h⟩
  · exact ⟨.hour, by rw [hh]; rfl, Option.some.inj h⟩

theorem apiTotal_eq {parts : List Part} (hunits : ∀ p ∈ parts, (apiUnit? p.unit).isSome = true)
    (hkept : ∀ p ∈ parts, ∀ f ∈ p.fraction, ∀ u, apiUnit? p.unit = some u →
      cut f u = f.numerator * u / f.denominator) :
    apiTotal cut parts = (parts.map Part.worth).sum := by
  unfold apiTotal
  congr 1
  refine List.map_congr_left ?_
  intro p hp
  obtain ⟨u, hu⟩ := Option.isSome_iff_exists.mp (hunits p hp)
  obtain ⟨v, hv, rfl⟩ := exists_unit hu
  unfold Part.apiWorth Part.worth
  rw [hu, hv]
  dsimp only
  congr 2
  refine List.map_congr_left ?_
  intro f hf
  exact hkept p hp f (Option.mem_toList.mp hf) _ hu

/-- Without such a loss the API comes to what is read here. -/
theorem apiTotal_of_kept (hread : parse text = .ok d) (hplain : Plain text) (hkept : Kept cut text) :
    apiTotal cut (row text).parts = d.nanos := by
  have hzero := hplain.ne_zero
  rw [← trim_of_dark hplain.dark] at hzero
  rw [apiTotal_eq hplain.units hkept, (worth_of_parse hzero hread).2.2]

end Plain

end Duration

/-! ### What a machine carries -/

open Text (isBlank)

open Duration (ApiReads Plain Kept apiTotal apiReads_iff apiTotal_of_kept row)

/-- The field of a timeout in the spec of a machine. -/
def TimeoutPart.key : TimeoutPart → String
  | .drain => "nodeDrainTimeout"
  | .detach => "nodeVolumeDetachTimeout"
  | .deletion => "nodeDeletionTimeout"

/-- The timeout that a machine carries. -/
def machineTimeout (machine : Json) (part : TimeoutPart) : Option Json :=
  (machine.get? "spec").bind (Json.get? part.key)

/-- A machine carries the timeouts of its template as they are written. -/
theorem machineTimeout_machineObject (r : MachineSetRequest) (role : MachineRole) (name : String)
    (part : TimeoutPart) :
    machineTimeout (Kubernetes.machineObject r role name) part = (part.of r.template).map .str := by
  obtain ⟨ns, cluster, ⟨metadata, infrastructure, drain, detach, deletion⟩, replicas, bootSecret⟩ := r
  unfold machineTimeout Kubernetes.machineObject
  cases part <;> cases drain <;> cases detach <;> cases deletion <;> rfl

/-- **The API reads the timeouts of an accepted spec as they are read here, or not at all**, but for
decimals that it loses.  It reads those that are plain and below `2 ^ 63` nanoseconds, and a bare
zero. -/
theorem api_reads_timeout_iff (cut : Duration.Fraction → Nat → Nat) {s : Spec} {ns : String}
    (haccepted : specErrors s ns = some []) {r : MachineSetRequest}
    (htemplate : r.template = s.template) (role : MachineRole) (name : String)
    {part : TimeoutPart} {text : String}
    (hcopied : machineTimeout (Kubernetes.machineObject r role name) part = some (.str text)) :
    ∃ d, Duration.parse text = .ok d ∧
      (ApiReads cut text d.nanos ↔
        text = "0" ∨
          (Plain text ∧ apiTotal cut (row text).parts = d.nanos ∧ d.nanos < 2 ^ 63)) ∧
      (Plain text → Kept cut text → apiTotal cut (row text).parts = d.nanos) := by
  rw [machineTimeout_machineObject, htemplate] at hcopied
  obtain ⟨written, hset, hwritten⟩ := Option.map_eq_some_iff.mp hcopied
  cases hwritten
  obtain ⟨d, hread⟩ := SpecRule.specErrors_eq_nil_iff.mp haccepted (.timeout part) text hset
  refine ⟨d, hread, ?_, fun hplain hkept => apiTotal_of_kept hread hplain hkept⟩
  rw [apiReads_iff hread]
  constructor
  · intro h
    rcases h with ⟨hzero, -⟩ | ⟨hplain, htotal, hrange⟩
    · exact Or.inl hzero
    · exact Or.inr ⟨hplain, htotal.symm, hrange⟩
  · intro h
    rcases h with rfl | ⟨hplain, htotal, hrange⟩
    · have hnothing : Duration.parse "0" = .ok Duration.zero := rfl
      rw [hnothing] at hread
      cases hread
      exact Or.inl ⟨rfl, rfl⟩
    · exact Or.inr ⟨hplain, htotal.symm, hrange⟩

/-- The bootstrap machine of a spec that sets a drain timeout. -/
def Demo.drained (drain : String) : Json :=
  Kubernetes.machineObject ⟨"clusters", "demo", (Resource.respelled drain).template, 1, "demo-inputs"⟩
    .bootstrap "demo-bootstrap"

/-- An hour and a half is the same for both, if decimals are cut off behind the nanosecond. -/
theorem api_reads_timeout_iff_hours :
    specErrors (Resource.respelled "1h30m") "clusters" = some [] ∧
      machineTimeout (Demo.drained "1h30m") .drain = some (.str "1h30m") ∧
      Duration.parse "1h30m" = .ok ⟨5400000000000⟩ ∧
      ApiReads (fun f u => f.numerator * u / f.denominator) "1h30m" 5400000000000 := by
  have haccepted : specErrors (Resource.respelled "1h30m") "clusters" = some [] := by decide +kernel
  have hcopied : machineTimeout (Demo.drained "1h30m") .drain = some (.str "1h30m") := rfl
  obtain ⟨d, hread, hreads, htotal⟩ :=
    api_reads_timeout_iff (fun f u => f.numerator * u / f.denominator) haccepted rfl _ _ hcopied
  have hparse : Duration.parse "1h30m" = .ok ⟨5400000000000⟩ := by decide +kernel
  rw [hparse] at hread
  cases hread
  have hdark : "1h30m".toList.all (fun c => !isBlank c) = true := by decide
  have hplain : Plain "1h30m" := ⟨by simpa using hdark, by decide⟩
  have hkept : Kept (fun f u => f.numerator * u / f.denominator) "1h30m" := fun _ _ _ _ _ _ => rfl
  exact ⟨haccepted, hcopied, hparse,
    hreads.mpr (Or.inr ⟨hplain, htotal hplain hkept, by decide⟩)⟩

/-- A day is accepted and goes into the machine, and the API has no such unit. -/
theorem day_unreadable_to_api :
    specErrors (Resource.respelled "1d") "clusters" = some [] ∧
      machineTimeout (Demo.drained "1d") .drain = some (.str "1d") ∧
      ¬ ∃ cut n, ApiReads cut "1d" n := by
  have hparse : Duration.parse "1d" = .ok ⟨86400000000000⟩ := by decide +kernel
  refine ⟨by decide +kernel, rfl, ?_⟩
  rintro ⟨cut, n, hreads⟩
  rcases (apiReads_iff hparse).mp hreads with ⟨hzero, -⟩ | ⟨hplain, -, -⟩
  · exact absurd hzero (by decide)
  · have hunit := hplain.units ⟨1, none, "d"⟩ (by decide)
    exact absurd hunit (by decide)

end ControlPlane
