/-
Durations as the cluster API writes them.

The API takes over Go's way of writing a duration, which is a fraction of the largest unit below a
second, or hours, minutes and seconds.  `wireText` is that text.  It is made of segments, each of
which comes to what was written (`decimal_comeTo`), so reading the text gives the duration back.
-/
import ControlPlane.Proofs.Additions
import ControlPlane.Proofs.Segments
import Mathlib.Data.List.DropRight

namespace ControlPlane.Duration

open Text

/-! ### The text -/

/-- The decimals of a number of `10 ^ places` parts of a unit, without zeros at the end. -/
def decimalsOf (places r : Nat) : List Char :=
  if r = 0 then [] else (Time.padded places r).rdropWhile (· == '0')

/-- A number of `10 ^ places` parts of a unit, as a decimal number of units. -/
def decimal (places n : Nat) : List Char :=
  let ds := decimalsOf places (n % 10 ^ places)
  Nat.toDigits 10 (n / 10 ^ places) ++ if ds = [] then [] else '.' :: ds

/-- The text of a duration on the wire. -/
def wireText (d : Duration) : String :=
  let n := d.nanos
  if n = 0 then "0s"
  else if n < 1000 then String.ofList (decimal 0 n) ++ "ns"
  else if n < 1000000 then String.ofList (decimal 3 n) ++ "µs"
  else if n < 1000000000 then String.ofList (decimal 6 n) ++ "ms"
  else
    let h := n / 3600000000000
    let m := n / 60000000000 % 60
    (if h = 0 then "" else String.ofList (decimal 0 h) ++ "h") ++
      (if h = 0 ∧ m = 0 then "" else String.ofList (decimal 0 m) ++ "m") ++
      (String.ofList (decimal 9 (n % 60000000000)) ++ "s")

/-! ### Decimals -/

variable {places n r k : Nat} {u : TimeUnit} {unit : List Char}

theorem isDigit_of_mem_decimalsOf {c : Char} (h : c ∈ decimalsOf places r) : c.isDigit = true := by
  unfold decimalsOf at h
  by_cases hzero : r = 0
  · rw [if_pos hzero] at h
    cases h
  · rw [if_neg hzero] at h
    exact Time.isDigit_of_mem_padded ((List.rdropWhile_prefix _ _).subset h)

/-- What is left out behind the decimals is a power of ten. -/
theorem exists_zeros (hr : r < 10 ^ places) : ∃ zeros,
    (decimalsOf places r).length + zeros = places ∧
      Nat.ofDigitChars 10 (decimalsOf places r) 0 * 10 ^ zeros = r := by
  unfold decimalsOf
  by_cases hzero : r = 0
  · rw [if_pos hzero, hzero]
    exact ⟨places, Nat.zero_add _, Nat.zero_mul _⟩
  · rw [if_neg hzero]
    have hplaces : 0 < places := by
      apply Nat.pos_of_ne_zero
      intro hnone
      rw [hnone, Nat.pow_zero] at hr
      omega
    have hlength := Time.length_padded ((Nat.length_toDigits_le_iff (by decide) hplaces).mpr hr)
    have hvalue := @Time.ofDigitChars_padded places r
    have hsplit := @List.rdropWhile_append_rtakeWhile _ (· == '0') (Time.padded places r)
    have hzeros : (Time.padded places r).rtakeWhile (· == '0') =
        List.replicate ((Time.padded places r).rtakeWhile (· == '0')).length '0' := by
      refine List.eq_replicate_iff.mpr ⟨rfl, ?_⟩
      intro c hc
      have hzero := List.mem_rtakeWhile_imp hc
      exact eq_of_beq hzero
    refine ⟨((Time.padded places r).rtakeWhile (· == '0')).length, ?_, ?_⟩
    · rw [← List.length_append, hsplit, hlength]
    · rw [← hsplit, hzeros, Nat.ofDigitChars_append, Nat.ofDigitChars_replicate_zero] at hvalue
      rw [Nat.mul_comm]
      simpa using hvalue

/-! ### Segments -/

/-- A decimal number with its unit. -/
def Segment.decimal (places n : Nat) (unit : List Char) (hne : unit ≠ [])
    (hletters : unit.all isUnitLetter = true) : Segment where
  decimals := decimalsOf places (n % 10 ^ places)
  unit := unit
  unit_ne_nil := hne
  isDigit_decimals := fun _ => isDigit_of_mem_decimalsOf
  isUnitLetter_unit := List.all_eq_true.mp hletters
  whole := Nat.toDigits 10 (n / 10 ^ places)
  whole_ne_nil := Nat.toDigits_ne_nil
  isDigit_whole := fun _ => Nat.isDigit_of_mem_toDigits (by decide) (by decide)

/-- Segments that ask for nothing that is too large, and what they are worth together. -/
structure ComeTo (segments : List Segment) (v : Nat) : Prop where
  worth : ((segments.map Segment.part).map Part.worth).sum = v
  granted : ∀ s ∈ segments, ∃ as : List Addition, s.part.demands = as.map .ok
  fits : ∀ s ∈ segments, ∀ m ∈ s.part.read, m < UInt64.size

theorem ComeTo.nil : ComeTo [] 0 := ⟨rfl, nofun, nofun⟩

theorem ComeTo.single {s : Segment} {v : Nat}
    (h : s.part.worth = v ∧ (∃ as : List Addition, s.part.demands = as.map .ok) ∧
      ∀ m ∈ s.part.read, m < UInt64.size) : ComeTo [s] v where
  worth := by simp [h.1]
  granted := List.forall_mem_singleton.mpr h.2.1
  fits := List.forall_mem_singleton.mpr h.2.2

theorem ComeTo.append {a b : List Segment} {v w : Nat} (ha : ComeTo a v) (hb : ComeTo b w) :
    ComeTo (a ++ b) (v + w) where
  worth := by rw [List.map_append, List.map_append, List.sum_append, ha.worth, hb.worth]
  granted := List.forall_mem_append.mpr ⟨ha.granted, hb.granted⟩
  fits := List.forall_mem_append.mpr ⟨ha.fits, hb.fits⟩

section Decimal

variable {hne : unit ≠ []} {hletters : unit.all isUnitLetter = true}

theorem text_decimal :
    (Segment.decimal places n unit hne hletters).text = decimal places n ++ unit :=
  (List.append_assoc ..).symm

/-- The part of a decimal number: its fraction, if it has one, is its remainder. -/
theorem part_decimal : ∃ o, (Segment.decimal places n unit hne hletters).part =
      ⟨n / 10 ^ places, o, String.ofList unit⟩ ∧
    ((o = none ∧ n % 10 ^ places = 0) ∨
      ∃ f zeros, o = some f ∧ 0 < places ∧ f.denominator * 10 ^ zeros = 10 ^ places ∧
        f.numerator * 10 ^ zeros = n % 10 ^ places) := by
  have hrest := Nat.mod_lt n (Nat.pow_pos (by decide) : 0 < 10 ^ places)
  obtain ⟨zeros, hlength, hvalue⟩ := exists_zeros hrest
  have hpart : (Segment.decimal places n unit hne hletters).part =
      ⟨n / 10 ^ places, (Segment.decimal places n unit hne hletters).fraction, String.ofList unit⟩ := by
    rw [Segment.part]
    exact congrArg (Part.mk · _ _) Nat.ofDigitChars_ten_toDigits
  refine ⟨_, hpart, ?_⟩
  unfold Ending.fraction
  by_cases hnone : decimalsOf places (n % 10 ^ places) = []
  · refine Or.inl ⟨if_pos hnone, ?_⟩
    rw [hnone, Nat.ofDigitChars_nil, Nat.zero_mul] at hvalue
    exact hvalue.symm
  · have hpos := List.length_pos_iff.mpr hnone
    refine Or.inr ⟨_, zeros, if_neg hnone, by omega, ?_, hvalue⟩
    show 10 ^ (decimalsOf places (n % 10 ^ places)).length * 10 ^ zeros = 10 ^ places
    rw [← Nat.pow_add, hlength]

/-- A remainder with the zeros at its end left out is a small fraction. -/
theorem fraction_bounds {f : Fraction} {zeros : Nat}
    (hdenominator : f.denominator * 10 ^ zeros = 10 ^ places)
    (hnumerator : f.numerator * 10 ^ zeros = n % 10 ^ places) :
    0 < f.denominator ∧ f.denominator ≤ 10 ^ places ∧ f.numerator ≤ 10 ^ places := by
  have hpower : 0 < 10 ^ places := Nat.pow_pos (by decide)
  have hzeros : 0 < 10 ^ zeros := Nat.pow_pos (by decide)
  refine ⟨?_, ?_, ?_⟩
  · rw [← hdenominator] at hpower
    exact Nat.pos_of_mul_pos_right hpower
  · rw [← hdenominator]
    exact Nat.le_mul_of_pos_right _ hzeros
  · have hle : f.numerator ≤ f.numerator * 10 ^ zeros := Nat.le_mul_of_pos_right _ hzeros
    have hrest := Nat.mod_lt n hpower
    omega

/-- The decimals times the unit are the remainder times the denominator. -/
theorem fraction_product {f : Fraction} {zeros : Nat} (hscale : u.nanos = 10 ^ places * k)
    (hdenominator : f.denominator * 10 ^ zeros = 10 ^ places)
    (hnumerator : f.numerator * 10 ^ zeros = n % 10 ^ places) :
    f.numerator * u.nanos = f.denominator * (n % 10 ^ places * k) :=
  calc f.numerator * u.nanos
      = f.denominator * (f.numerator * 10 ^ zeros * k) := by rw [hscale, ← hdenominator]; ring
    _ = f.denominator * (n % 10 ^ places * k) := by rw [hnumerator]

/-- A number of parts of a unit comes to what it was. -/
theorem decimal_comeTo (hu : TimeUnit.ofText? (String.ofList unit) = some u)
    (hscale : u.nanos = 10 ^ places * k)
    (hfine : 0 < places → u.isFine = true ∧ u ≠ .nanosecond)
    (hbound : 10 ^ places * u.nanos < UInt64.size) (hn : n * k < UInt64.size) :
    ComeTo [.decimal places n unit hne hletters] (n * k) := by
  have hpos : 0 < u.nanos := by cases u <;> decide
  have hpower := Nat.lt_of_le_of_lt (Nat.le_mul_of_pos_right _ hpos) hbound
  have hsum : n / 10 ^ places * u.nanos + n % 10 ^ places * k = n * k :=
    calc n / 10 ^ places * u.nanos + n % 10 ^ places * k
        = (10 ^ places * (n / 10 ^ places) + n % 10 ^ places) * k := by rw [hscale]; ring
      _ = n * k := by rw [Nat.div_add_mod]
  have hwhole := Nat.lt_of_le_of_lt (Nat.le_of_add_right_le (Nat.le_of_eq hsum)) hn
  have hread := Nat.lt_of_le_of_lt (Nat.le_mul_of_pos_right (n / 10 ^ places) hpos) hwhole
  obtain ⟨o, hpart, hfraction⟩ := @part_decimal places n unit hne hletters
  refine ComeTo.single ?_
  rw [hpart]
  rcases hfraction with ⟨rfl, hnone⟩ | ⟨f, zeros, rfl, hplaces, hdenominator, hnumerator⟩
  · refine ⟨?_, exists_additions hu hwhole nofun, List.forall_mem_singleton.mpr hread⟩
    rw [← hsum, hnone, Nat.zero_mul]
    simp [Part.worth, hu]
  · obtain ⟨hisFine, hnano⟩ := hfine hplaces
    obtain ⟨hpositive, hsmall, hsmaller⟩ := fraction_bounds hdenominator hnumerator
    have hproduct := fraction_product hscale hdenominator hnumerator
    refine ⟨?_, exists_additions hu hwhole ?_, ?_⟩
    · rw [← hsum]
      simp [Part.worth, hu, hproduct, Nat.mul_div_cancel_left _ hpositive]
    · intro g hg
      cases hg
      refine ⟨hisFine, hnano, Nat.lt_of_le_of_lt (Nat.mul_le_mul_right _ hsmaller) hbound, ?_⟩
      rw [hproduct]
      exact Nat.dvd_mul_right ..
    · exact List.forall_mem_cons.mpr ⟨hread, List.forall_mem_cons.mpr
        ⟨by omega, List.forall_mem_singleton.mpr (by omega)⟩⟩

/-- The same for a unit that has just these parts in nanoseconds. -/
theorem parts_comeTo (hu : TimeUnit.ofText? (String.ofList unit) = some u)
    (hscale : u.nanos = 10 ^ places)
    (hfine : 0 < places → u.isFine = true ∧ u ≠ .nanosecond)
    (hbound : 10 ^ places * u.nanos < UInt64.size) (hn : n < UInt64.size) :
    ComeTo [.decimal places n unit hne hletters] n := by
  rw [← Nat.mul_one (10 ^ places)] at hscale
  rw [← Nat.mul_one n] at hn
  have hcome : ComeTo [.decimal places n unit hne hletters] (n * 1) :=
    decimal_comeTo hu hscale hfine hbound hn
  rw [Nat.mul_one] at hcome
  exact hcome

end Decimal

/-! ### Reading it back -/

/-- The segments of the text of a duration. -/
def wireSegments (d : Duration) : List Segment :=
  let n := d.nanos
  if n = 0 then [.decimal 9 n ['s'] (by decide) (by decide)]
  else if n < 1000 then [.decimal 0 n ['n', 's'] (by decide) (by decide)]
  else if n < 1000000 then [.decimal 3 n ['µ', 's'] (by decide) (by decide)]
  else if n < 1000000000 then [.decimal 6 n ['m', 's'] (by decide) (by decide)]
  else
    let h := n / 3600000000000
    let m := n / 60000000000 % 60
    (if h = 0 then [] else [.decimal 0 h ['h'] (by decide) (by decide)]) ++
      (if h = 0 ∧ m = 0 then [] else [.decimal 0 m ['m'] (by decide) (by decide)]) ++
      [.decimal 9 (n % 60000000000) ['s'] (by decide) (by decide)]

variable {d : Duration}

theorem wireText_eq (d : Duration) : (wireText d).toList = Segment.join (wireSegments d) := by
  unfold wireText wireSegments Segment.join
  dsimp only
  by_cases hzero : d.nanos = 0
  · rw [if_pos hzero, if_pos hzero, hzero]
    decide
  rw [if_neg hzero, if_neg hzero]
  by_cases hnano : d.nanos < 1000
  · rw [if_pos hnano, if_pos hnano]
    simp [text_decimal]
  rw [if_neg hnano, if_neg hnano]
  by_cases hmicro : d.nanos < 1000000
  · rw [if_pos hmicro, if_pos hmicro]
    simp [text_decimal]
  rw [if_neg hmicro, if_neg hmicro]
  by_cases hmilli : d.nanos < 1000000000
  · rw [if_pos hmilli, if_pos hmilli]
    simp [text_decimal]
  rw [if_neg hmilli, if_neg hmilli, List.flatMap_append, List.flatMap_append, String.toList_append,
    String.toList_append]
  congr 1
  · congr 1
    · split_ifs
      · rfl
      · simp [text_decimal]
    · split_ifs
      · rfl
      · simp [text_decimal]
  · simp [text_decimal]

theorem wireSegments_ne_nil (d : Duration) : wireSegments d ≠ [] := by
  unfold wireSegments
  dsimp only
  split_ifs <;> simp

/-- Hours, or minutes behind them, that are left out when there are none. -/
theorem leading_comeTo {segments : List Segment} {v : Nat} {c : Prop} [Decidable c]
    (hnone : c → v = 0) (h : ComeTo segments v) : ComeTo (if c then [] else segments) v := by
  by_cases hc : c
  · rw [if_pos hc, hnone hc]
    exact ComeTo.nil
  · rw [if_neg hc]
    exact h

/-- Hours, minutes and seconds; hours that are none are left out, and so are minutes then. -/
theorem clock_comeTo {h m s : Nat}
    (hbound : h * 3600000000000 + m * 60000000000 + s < UInt64.size) :
    ComeTo ((if h = 0 then [] else [.decimal 0 h ['h'] (by decide) (by decide)]) ++
        (if h = 0 ∧ m = 0 then [] else [.decimal 0 m ['m'] (by decide) (by decide)]) ++
        [.decimal 9 s ['s'] (by decide) (by decide)])
      (h * 3600000000000 + m * 60000000000 + s) := by
  have hclock := Nat.lt_of_le_of_lt (Nat.le_add_right _ s) hbound
  have hhours := Nat.lt_of_le_of_lt (Nat.le_add_right _ _) hclock
  have hminutes := Nat.lt_of_le_of_lt (Nat.le_add_left _ _) hclock
  have hseconds := Nat.lt_of_le_of_lt (Nat.le_add_left s _) hbound
  refine ((leading_comeTo (by omega) ?_).append (leading_comeTo (by omega) ?_)).append ?_
  · exact decimal_comeTo (u := .hour) rfl rfl nofun (by decide) hhours
  · exact decimal_comeTo (u := .minute) rfl rfl nofun (by decide) hminutes
  · exact parts_comeTo (u := .second) rfl rfl (fun _ => ⟨rfl, nofun⟩) (by decide) hseconds

/-- The segments of a duration come to the duration. -/
theorem wireSegments_comeTo (h : d.nanos < 2 ^ 63) : ComeTo (wireSegments d) d.nanos := by
  have hword : UInt64.size = 18446744073709551616 := rfl
  unfold wireSegments
  dsimp only
  by_cases hzero : d.nanos = 0
  · rw [if_pos hzero]
    exact parts_comeTo (u := .second) rfl rfl (fun _ => ⟨rfl, nofun⟩) (by decide) (by omega)
  rw [if_neg hzero]
  by_cases hnano : d.nanos < 1000
  · rw [if_pos hnano]
    exact parts_comeTo (u := .nanosecond) rfl rfl nofun (by decide) (by omega)
  rw [if_neg hnano]
  by_cases hmicro : d.nanos < 1000000
  · rw [if_pos hmicro]
    exact parts_comeTo (u := .microsecond) rfl rfl (fun _ => ⟨rfl, nofun⟩) (by decide) (by omega)
  rw [if_neg hmicro]
  by_cases hmilli : d.nanos < 1000000000
  · rw [if_pos hmilli]
    exact parts_comeTo (u := .millisecond) rfl rfl (fun _ => ⟨rfl, nofun⟩) (by decide) (by omega)
  rw [if_neg hmilli]
  have hsum : d.nanos / 3600000000000 * 3600000000000 + d.nanos / 60000000000 % 60 * 60000000000 +
      d.nanos % 60000000000 = d.nanos := by omega
  have hclock := @clock_comeTo (d.nanos / 3600000000000) (d.nanos / 60000000000 % 60)
    (d.nanos % 60000000000) (by omega)
  rw [hsum] at hclock
  exact hclock

/-- **What the API writes is read back exactly**, for all durations that it can hold. -/
theorem parse_wireText (d : Duration) (h : d.nanos < 2 ^ 63) : parse (wireText d) = .ok d := by
  have hcome := wireSegments_comeTo h
  have htext := wireText_eq d
  have hzero : trim (wireText d).toList ≠ ['0'] := by
    rw [htext, trim_join]
    exact join_ne_zero _
  have hsmall : (((wireSegments d).map Segment.part).map Part.worth).sum < UInt64.size := by
    rw [hcome.worth]
    exact Nat.lt_trans h (by decide)
  have hgranted : ∀ p ∈ (wireSegments d).map Segment.part, ∃ as : List Addition,
      p.demands = as.map .ok := by
    intro p hp
    obtain ⟨s, hs, rfl⟩ := List.mem_map.mp hp
    exact hcome.granted s hs
  have hrow := row_join (wireSegments_ne_nil d) hcome.fits htext
  rw [parse_of_row hzero hrow hgranted hsmall, hcome.worth]

/-- Ninety minutes and a quarter of a second. -/
theorem parse_wireText_ninety_minutes :
    (5400250000000 : Nat) < 2 ^ 63 ∧ wireText ⟨5400250000000⟩ = "1h30m0.25s" ∧
      parse "1h30m0.25s" = .ok ⟨5400250000000⟩ := by
  have htext : wireText ⟨5400250000000⟩ = "1h30m0.25s" := by decide +kernel
  refine ⟨by decide, htext, ?_⟩
  rw [← htext]
  exact parse_wireText ⟨5400250000000⟩ (by decide)

example : [0, 1, 1500, 20000000, 90000000000, 3600000000000, 2 ^ 63 - 1].map
      (fun n => wireText ⟨n⟩) =
    ["0s", "1ns", "1.5µs", "20ms", "1m30s", "1h0m0s", "2562047h47m16.854775807s"] := by
  decide +kernel

end ControlPlane.Duration
