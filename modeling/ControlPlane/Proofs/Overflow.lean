/-
Durations in 64 bits.

Whatever a duration text says, the reader is to come to a duration in range or to report why not.
Every number that it holds on the way has been looked at: those it reads digit by digit
(`scan_numbers`), the products with the lengths of units, and the sums.  So a text that is read
comes to the exact total of its parts, with nothing cut off on the way (`Exact`).

One sum is not looked at.  An addition that spills over is neither made nor reported, and nothing
that was about to read the text goes on from there: not the check of a spec with such a timeout,
not an update that is judged by one, and no pass that has either before it.
-/
import ControlPlane.Proofs.Additions
import ControlPlane.Proofs.Rules

namespace ControlPlane

namespace Duration

/-! ### Products -/

/-- The products of a part with the length of its unit. -/
def Part.products (p : Part) : List Nat :=
  match TimeUnit.ofText? p.unit with
  | none => []
  | some u => p.n * u.wholeScale :: p.fraction.toList.map (·.numerator * u.decimalsScale)

section Demands

variable {u : TimeUnit} {f : Fraction} {n : Nat} {p : Part}

/-- The products of a part that is granted what it asks for. -/
theorem products_lt (h : ∀ demand ∈ p.demands, ∃ a, demand = .ok a) :
    ∀ n ∈ p.products, n < UInt64.size := by
  unfold Part.demands at h
  unfold Part.products
  cases hu : TimeUnit.ofText? p.unit with
  | none => exact nofun
  | some u =>
      rw [hu] at h
      obtain ⟨⟨a, hwhole⟩, hdecimals⟩ := List.forall_mem_cons.mp h
      refine List.forall_mem_cons.mpr ⟨?_, ?_⟩
      · rcases whole_cases u p.n with ⟨b, -, hfits, -⟩ | ⟨hrefused, -⟩
        · exact hfits
        · rw [hrefused] at hwhole
          cases hwhole
      · intro n hn
        obtain ⟨f, hf, rfl⟩ := List.mem_map.mp hn
        obtain ⟨b, hb⟩ := hdecimals _ (List.mem_map.mpr ⟨f, hf, rfl⟩)
        rcases decimals_cases u f with ⟨c, -, hfits, -⟩ | ⟨hrefused, -⟩
        · exact hfits
        · rw [hrefused] at hb
          cases hb

end Demands

section Text

variable {text : String} {d : Duration}

/-- A text is read with all of its numbers in 64 bits, and comes to its exact total. -/
structure Exact (text : String) (d : Duration) : Prop where
  numbers : ∀ p ∈ (row text).parts, ∀ n ∈ p.read, n < UInt64.size
  products : ∀ p ∈ (row text).parts, ∀ n ∈ p.products, n < UInt64.size
  sums : ∃ as : List Addition,
    demands text = as.map .ok ∧ AllFit zero as ∧ d.nanos = (as.map Addition.value).sum
  seconds : d.seconds < UInt64.size
  nanos : d.subsecNanos < nanosPerSecond

/-- The parts of a text add up until one spills over. -/
def BreaksOff (text : String) : Prop := Spilling zero (demands text)

theorem parse_eq_abort_iff : parse text = .abort ↔ BreaksOff text := by
  rw [parse_eq_addAll]
  exact addAll_eq_abort_iff

/-- The products of a text whose demands are all granted; a bare zero has no unit. -/
theorem row_products_lt {as : List Addition} (h : demands text = as.map .ok) :
    ∀ p ∈ (row text).parts, ∀ n ∈ p.products, n < UInt64.size := by
  intro p hp
  by_cases hzero : Text.trim text.toList = ['0']
  · unfold row at hp
    rw [hzero] at hp
    rw [List.mem_singleton.mp hp]
    exact nofun
  · refine products_lt ?_
    intro demand hdemand
    rw [demands, if_neg hzero, Row.demands] at h
    have hmem : demand ∈ as.map Except.ok := by
      rw [← h]
      exact List.mem_append_left _ (List.mem_flatMap.mpr ⟨p, hp, hdemand⟩)
    obtain ⟨a, -, ha⟩ := List.mem_map.mp hmem
    exact ⟨a, ha.symm⟩

theorem exact_of_parse (h : parse text = .ok d) : Exact text d := by
  rw [parse_eq_addAll] at h
  obtain ⟨as, hds, hfit, hd⟩ := addAll_eq_ok h
  have hrange : d.InRange := by
    rw [hd]
    exact inRange_foldl (by decide) hfit
  have htotal : d.nanos = (as.map Addition.value).sum := by
    rw [hd, foldl_plus_nanos]
    exact Nat.zero_add _
  exact
    { numbers := scan_numbers _ nofun
      products := row_products_lt hds
      sums := ⟨as, hds, hfit, htotal⟩
      seconds := seconds_lt_of_inRange hrange
      nanos := Nat.mod_lt _ (by decide) }

/-- A text is read exactly, or why not is reported, or the reading breaks off. -/
theorem parse_cases (text : String) :
    (∃ d, parse text = .ok d ∧ Exact text d) ∨
      (∃ e, parse text = .error e ∧ ¬ BreaksOff text) ∨
      parse text = .abort ∧ BreaksOff text := by
  cases hparse : parse text with
  | ok d => exact .inl ⟨d, rfl, exact_of_parse hparse⟩
  | abort => exact .inr (.inr ⟨rfl, parse_eq_abort_iff.mp hparse⟩)
  | error e =>
    refine .inr (.inl ⟨e, rfl, fun hbreaks => ?_⟩)
    cases hparse.symm.trans (parse_eq_abort_iff.mpr hbreaks)

end Text

end Duration

open Duration (BreaksOff)

theorem runaway_iff {timeout : Option String} :
    Runaway timeout ↔ ∃ text ∈ timeout, BreaksOff text := by
  unfold Runaway
  simp only [Duration.parse_eq_abort_iff]

/-- A pass breaks off if a timeout of its spec does, or else if the spec is accepted and its
comparison with the bound template comes to a timeout that does. -/
theorem Pass.judge_breaks_off_iff {p : Pass} {bound : Option MachineTemplate} :
    p.judge bound = .abort ↔
      (∃ part : TimeoutPart, Runaway (part.of p.resource.spec.template)) ∨
      (∀ r : SpecRule, r.Holds p.resource.spec p.ns) ∧
        ∃ a ∈ bound, a.ComesToStop p.resource.spec.template := by
  rw [judge_eq_abort_iff, SpecRule.specErrors_eq_none_iff, SpecRule.specErrors_eq_nil_iff,
    checkTemplateUpdate_eq_abort_iff]

/-- **Every text is read within 64 bits, or refused, or spills over.**  A text that is read comes
to its exact total, which is in range like every number, product and sum on the way.  Any other text
is refused, unless its parts add up until one of them fills a second behind the last: then the
reading breaks off.  So the check of a spec comes to an end exactly if no timeout has such a text,
and the judgement of an update exactly if its comparison does not come to one. -/
theorem in_range_unless_spilling (text ns : String) (s : Spec) (accepted : Option MachineTemplate)
    (proposed : MachineTemplate) :
    ((∃ d, Duration.parse text = .ok d ∧ Duration.Exact text d) ∨
      (∃ e, Duration.parse text = .error e ∧ ¬ BreaksOff text) ∨
      Duration.parse text = .abort ∧ BreaksOff text) ∧
    (∀ timeout : Option String, Runaway timeout ↔ ∃ t ∈ timeout, BreaksOff t) ∧
    (specErrors s ns = none ↔ ∃ part : TimeoutPart, Runaway (part.of s.template)) ∧
    (checkTemplateUpdate accepted proposed = .abort ↔ ∃ a ∈ accepted, a.ComesToStop proposed) :=
  ⟨Duration.parse_cases text, fun _ => runaway_iff, SpecRule.specErrors_eq_none_iff,
    checkTemplateUpdate_eq_abort_iff⟩

/-- One second more than can be counted, the last one in nanoseconds. -/
theorem full_second_breaks_off :
    Duration.parse "18446744073709551615s1000000000ns" = .abort ∧
      specErrors (Resource.respelled "18446744073709551615s1000000000ns") "clusters" = none ∧
      checkTemplateUpdate (some (Resource.respelled "90s").template)
        (Resource.respelled "18446744073709551615s1000000000ns").template = .abort := by
  decide +kernel

end ControlPlane
