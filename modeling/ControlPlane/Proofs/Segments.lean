/-
Duration texts without white space.

Such a text is a row of segments: digits, perhaps a point and more digits, and the letters of a
unit.  A `Segment` is its three runs of characters, and it knows what they are made of.  Scanning
takes one run after the other, so the row of a text of segments is that of their parts
(`scan_join`).  A run ends where a character of another kind follows, so a text is made of segments
in one way only (`join_inj`).

The way back is `exists_segments`.  What may follow at a place, for a text to be scanned to its end,
is written down for each place (`Continues`); a step back over one character is a step back in the
runs.
-/
import ControlPlane.Proofs.Rows
import ControlPlane.Proofs.TimeText
import Mathlib.Algebra.Group.Nat.Defs

namespace ControlPlane.Duration

open Text

/-- What stands behind the whole digits of a number: a point and decimals, if there are any, and
the unit. -/
@[ext] structure Ending where
  decimals : List Char
  unit : List Char
  unit_ne_nil : unit ≠ []
  isDigit_decimals : ∀ c ∈ decimals, c.isDigit = true
  isUnitLetter_unit : ∀ c ∈ unit, isUnitLetter c = true

namespace Ending

def text (e : Ending) : List Char :=
  (if e.decimals = [] then [] else '.' :: e.decimals) ++ e.unit

/-- The fraction that the decimals stand for. -/
def fraction (e : Ending) : Option Fraction :=
  if e.decimals = [] then none
  else some ⟨Nat.ofDigitChars 10 e.decimals 0, 10 ^ e.decimals.length⟩

end Ending

/-- A number with its unit, as it is written. -/
@[ext] structure Segment extends Ending where
  whole : List Char
  whole_ne_nil : whole ≠ []
  isDigit_whole : ∀ c ∈ whole, c.isDigit = true

namespace Segment

def text (s : Segment) : List Char := s.whole ++ s.toEnding.text

/-- The part that a segment stands for. -/
def part (s : Segment) : Part :=
  ⟨Nat.ofDigitChars 10 s.whole 0, s.fraction, String.ofList s.unit⟩

/-- The text of segments that follow each other at once. -/
def join (segments : List Segment) : List Char := segments.flatMap text

end Segment

/-! ### Scanning segments -/

section Scan

variable {n pos : Nat} {f : Fraction} {o : Option Fraction} {c : Char}
  {ds cs letters unit : List Char}

theorem le_ofDigitChars (n : Nat) (ds : List Char) : n ≤ Nat.ofDigitChars 10 ds n := by
  rw [Nat.ofDigitChars_eq_ofDigitChars_zero]
  exact Nat.le_add_right_of_le (Nat.le_mul_of_pos_left _ (Nat.pow_pos (by decide)))

theorem ofDigitChars_cons_ten (n : Nat) (c : Char) (ds : List Char) :
    Nat.ofDigitChars 10 (c :: ds) n = Nat.ofDigitChars 10 ds (n * 10 + (c.toNat - '0'.toNat)) := by
  rw [Nat.ofDigitChars_cons, Nat.mul_comm]

theorem mul_pow_length_cons (n : Nat) (c : Char) (ds : List Char) :
    n * 10 ^ (c :: ds).length = n * 10 * 10 ^ ds.length := by
  rw [List.length_cons, Nat.pow_succ']
  exact (Nat.mul_assoc ..).symm

theorem scan_digits (hds : ∀ c ∈ ds, c.isDigit = true)
    (hfits : Nat.ofDigitChars 10 ds n < UInt64.size) (cs : List Char) :
    ∃ pos', scan (.whole n) pos (ds ++ cs) = scan (.whole (Nat.ofDigitChars 10 ds n)) pos' cs := by
  induction ds generalizing n pos with
  | nil => exact ⟨pos, rfl⟩
  | cons c ds ih =>
      obtain ⟨hc, hds⟩ := List.forall_mem_cons.mp hds
      rw [ofDigitChars_cons_ten] at hfits ⊢
      have hnext := Nat.lt_of_le_of_lt (le_ofDigitChars _ ds) hfits
      rw [List.cons_append, scan_of_moved (.digit (digit?_of_isDigit hc) hnext)]
      exact ih hds hfits

theorem scan_decimals {fault : Nat} (hds : ∀ c ∈ ds, c.isDigit = true)
    (hnumerator : Nat.ofDigitChars 10 ds f.numerator < UInt64.size)
    (hdenominator : f.denominator * 10 ^ ds.length < UInt64.size) (cs : List Char) :
    ∃ pos' fault', scan (.decimals n f fault) pos (ds ++ cs) =
      scan (.decimals n ⟨Nat.ofDigitChars 10 ds f.numerator, f.denominator * 10 ^ ds.length⟩ fault')
        pos' cs := by
  induction ds generalizing f fault pos with
  | nil => exact ⟨pos, fault, by rw [List.length_nil, Nat.pow_zero, Nat.mul_one]; rfl⟩
  | cons c ds ih =>
      obtain ⟨hc, hds⟩ := List.forall_mem_cons.mp hds
      rw [ofDigitChars_cons_ten] at hnumerator ⊢
      rw [mul_pow_length_cons] at hdenominator ⊢
      have hnumerator' := Nat.lt_of_le_of_lt (le_ofDigitChars _ ds) hnumerator
      have hdenominator' := Nat.lt_of_le_of_lt
        (Nat.le_mul_of_pos_right _ (Nat.pow_pos (by decide))) hdenominator
      rw [List.cons_append,
        scan_of_moved (.decimal (digit?_of_isDigit hc) hdenominator' hnumerator')]
      exact ih hds hnumerator hdenominator

theorem scan_letters (hunit : ∀ c ∈ unit, isUnitLetter c = true) (cs : List Char) :
    ∃ pos', scan (.unit n o letters) pos (unit ++ cs) =
      scan (.unit n o (unit.reverse ++ letters)) pos' cs := by
  induction unit generalizing letters pos with
  | nil => exact ⟨pos, rfl⟩
  | cons c unit ih =>
      obtain ⟨hc, hunit⟩ := List.forall_mem_cons.mp hunit
      rw [List.cons_append, scan_of_moved (.letter hc), List.reverse_cons, List.append_assoc]
      exact ih hunit

/-- Behind the whole digits of a number, up to its end. -/
theorem scan_ending (e : Ending) (hfits : ∀ m ∈ Fraction.numbers e.fraction, m < UInt64.size)
    (cs : List Char) :
    ∃ pos', scan (.whole n) pos (e.text ++ cs) = scan (.unit n e.fraction e.unit.reverse) pos' cs := by
  obtain ⟨c, unit, hunit⟩ := List.exists_cons_of_ne_nil e.unit_ne_nil
  have hletters := e.isUnitLetter_unit
  unfold Ending.text Ending.fraction at *
  rw [hunit] at hletters ⊢
  obtain ⟨hc, hletters⟩ := List.forall_mem_cons.mp hletters
  by_cases hnone : e.decimals = []
  · rw [if_pos hnone, if_pos hnone, List.nil_append, List.cons_append, scan_of_moved (.unit hc),
      List.reverse_cons]
    exact scan_letters hletters cs
  · rw [if_neg hnone] at hfits
    obtain ⟨hnumerator, hdenominator⟩ := List.forall_mem_cons.mp hfits
    have hdenominator := hdenominator _ List.mem_cons_self
    dsimp only at hnumerator hdenominator
    rw [if_neg hnone, if_neg hnone, List.append_assoc, List.cons_append, scan_of_moved (.point rfl)]
    rw [← Nat.one_mul (10 ^ e.decimals.length)] at hdenominator ⊢
    obtain ⟨pos', fault', hscan⟩ := scan_decimals (f := ⟨0, 1⟩) (n := n)
      e.isDigit_decimals hnumerator hdenominator (c :: unit ++ cs)
    have hsome : 1 * 10 ^ e.decimals.length ≠ 1 := by
      rw [Nat.one_mul]
      exact Nat.ne_of_gt (Nat.one_lt_pow (by simpa using hnone) (by decide))
    rw [hscan, List.cons_append, scan_of_moved (.unitDecimals hc hsome), List.reverse_cons]
    exact scan_letters hletters cs

/-- A segment whose first digit has been taken. -/
theorem scan_behind_digit (s : Segment) (hwhole : s.whole = c :: ds)
    (hfits : ∀ m ∈ s.part.read, m < UInt64.size) (cs : List Char) :
    ∃ pos', scan (.whole (c.toNat - '0'.toNat)) pos (ds ++ s.toEnding.text ++ cs) =
      scan (.unit s.part.n s.part.fraction s.unit.reverse) pos' cs := by
  have hdigits := s.isDigit_whole
  rw [hwhole] at hdigits
  have hn : s.part.n = Nat.ofDigitChars 10 ds (c.toNat - '0'.toNat) := by
    rw [Segment.part, hwhole, ofDigitChars_cons_ten, Nat.zero_mul, Nat.zero_add]
  obtain ⟨hlt, hfraction⟩ := List.forall_mem_cons.mp hfits
  rw [hn] at hlt ⊢
  obtain ⟨pos', hscan⟩ := @scan_digits _ pos _ (List.forall_mem_cons.mp hdigits).2 hlt
    (s.toEnding.text ++ cs)
  rw [List.append_assoc, hscan]
  exact scan_ending s.toEnding hfraction cs

theorem scan_start (s : Segment) (hfits : ∀ m ∈ s.part.read, m < UInt64.size) (cs : List Char) :
    ∃ pos', scan .start pos (s.text ++ cs) =
      scan (.unit s.part.n s.part.fraction s.unit.reverse) pos' cs := by
  obtain ⟨c, ds, hwhole⟩ := List.exists_cons_of_ne_nil s.whole_ne_nil
  have hc := s.isDigit_whole c (by rw [hwhole]; exact List.mem_cons_self)
  rw [Segment.text, hwhole, List.cons_append, List.cons_append,
    scan_of_moved (.first (digit?_of_isDigit hc))]
  exact scan_behind_digit s hwhole hfits cs

/-- The first digit of a segment ends the unit of the segment before. -/
theorem scan_next (s : Segment) (hfits : ∀ m ∈ s.part.read, m < UInt64.size) (cs : List Char) :
    ∃ pos', scan (.unit n o letters) pos (s.text ++ cs) =
      (scan (.unit s.part.n s.part.fraction s.unit.reverse) pos' cs).cons (.ofUnit n o letters) := by
  obtain ⟨c, ds, hwhole⟩ := List.exists_cons_of_ne_nil s.whole_ne_nil
  have hc := s.isDigit_whole c (by rw [hwhole]; exact List.mem_cons_self)
  rw [Segment.text, hwhole, List.cons_append, List.cons_append,
    scan_of_ended (.next (digit?_of_isDigit hc))]
  obtain ⟨pos', hscan⟩ := scan_behind_digit s hwhole hfits cs
  exact ⟨pos', by rw [hscan]⟩

theorem ofUnit_reverse (s : Segment) : .ofUnit s.part.n s.part.fraction s.unit.reverse = s.part := by
  rw [Part.ofUnit, List.reverse_reverse]
  rfl

theorem scan_unit_join (segments : List Segment)
    (hfits : ∀ s ∈ segments, ∀ m ∈ s.part.read, m < UInt64.size) :
    scan (.unit n o letters) pos (Segment.join segments) =
      ⟨.ofUnit n o letters :: segments.map Segment.part, none⟩ := by
  induction segments generalizing n o letters pos with
  | nil => rfl
  | cons s segments ih =>
      obtain ⟨hs, hfits⟩ := List.forall_mem_cons.mp hfits
      obtain ⟨pos', hscan⟩ := scan_next s hs (Segment.join segments)
      have hjoin : Segment.join (s :: segments) = s.text ++ Segment.join segments := rfl
      rw [hjoin, hscan, ih hfits, ofUnit_reverse]
      rfl

/-- The row of segments is that of their parts. -/
theorem scan_join {segments : List Segment} (hsome : segments ≠ [])
    (hfits : ∀ s ∈ segments, ∀ m ∈ s.part.read, m < UInt64.size) :
    scan .start pos (Segment.join segments) = ⟨segments.map Segment.part, none⟩ := by
  obtain ⟨s, segments, rfl⟩ := List.exists_cons_of_ne_nil hsome
  obtain ⟨hs, hfits⟩ := List.forall_mem_cons.mp hfits
  obtain ⟨pos', hscan⟩ := scan_start s hs (Segment.join segments)
  have hjoin : Segment.join (s :: segments) = s.text ++ Segment.join segments := rfl
  rw [hjoin, hscan, scan_unit_join segments hfits, ofUnit_reverse]
  rfl

end Scan

/-! ### The text of segments -/

section Text

theorem isBlank_of_mem_text {s : Segment} {c : Char} (h : c ∈ s.text) : isBlank c = false := by
  unfold Segment.text Ending.text at h
  rcases List.mem_append.mp h with hwhole | h
  · exact isBlank_of_isDigit (s.isDigit_whole c hwhole)
  rcases List.mem_append.mp h with hpoint | hunit
  · by_cases hnone : s.decimals = []
    · rw [if_pos hnone] at hpoint
      cases hpoint
    · rw [if_neg hnone] at hpoint
      rcases List.mem_cons.mp hpoint with rfl | hdecimal
      · rfl
      · exact isBlank_of_isDigit (s.isDigit_decimals c hdecimal)
  · exact isBlank_eq_false (Or.inl (s.isUnitLetter_unit c hunit))

theorem isBlank_of_mem_join {segments : List Segment} {c : Char} (h : c ∈ Segment.join segments) :
    isBlank c = false := by
  obtain ⟨s, -, hc⟩ := List.mem_flatMap.mp h
  exact isBlank_of_mem_text hc

theorem trim_join (segments : List Segment) :
    trim (Segment.join segments) = Segment.join segments :=
  trim_eq_self (fun _ hc => isBlank_of_mem_join (List.mem_of_mem_head? hc))
    (fun _ hc => isBlank_of_mem_join (List.mem_of_mem_getLast? hc))

/-- A segment has a digit and a letter at least, so it is no bare zero. -/
theorem join_ne_zero (segments : List Segment) : Segment.join segments ≠ ['0'] := by
  cases segments with
  | nil => exact nofun
  | cons s segments =>
      intro h
      have hlength := congrArg List.length h
      have hwhole := List.length_pos_iff.mpr s.whole_ne_nil
      have hunit := List.length_pos_iff.mpr s.unit_ne_nil
      simp only [Segment.join, Segment.text, Ending.text, List.flatMap_cons, List.length_append,
        List.length_singleton] at hlength
      omega

theorem row_join {segments : List Segment} {text : String} (hsome : segments ≠ [])
    (hfits : ∀ s ∈ segments, ∀ m ∈ s.part.read, m < UInt64.size)
    (htext : text.toList = Segment.join segments) :
    row text = ⟨segments.map Segment.part, none⟩ := by
  rw [row, htext, trim_join, scan_join hsome hfits]

end Text

/-! ### One way to be made of segments -/

section Unique

variable {P : Char → Bool} {c : Char} {cs ds xs ys : List Char}

/-- A run of characters ends where a character of another kind follows. -/
theorem run_inj (hcs : ∀ c ∈ cs, P c = true) (hds : ∀ c ∈ ds, P c = true)
    (hxs : ∀ c ∈ xs.head?, P c = false) (hys : ∀ c ∈ ys.head?, P c = false)
    (h : cs ++ xs = ds ++ ys) : cs = ds ∧ xs = ys := by
  induction cs generalizing ds with
  | nil =>
      cases ds with
      | nil => exact ⟨rfl, h⟩
      | cons d ds =>
          have hd := hds d List.mem_cons_self
          rw [List.nil_append] at h
          rw [hxs d (by rw [h]; rfl)] at hd
          cases hd
  | cons c cs ih =>
      obtain ⟨hc, hcs⟩ := List.forall_mem_cons.mp hcs
      cases ds with
      | nil =>
          rw [List.nil_append] at h
          rw [hys c (by rw [← h]; rfl)] at hc
          cases hc
      | cons d ds =>
          obtain ⟨rfl, hrest⟩ := List.cons.inj h
          obtain ⟨rfl, htail⟩ := ih hcs (List.forall_mem_cons.mp hds).2 hrest
          exact ⟨rfl, htail⟩

theorem isDigit_eq_false (h : isUnitLetter c = true ∨ c = '.') : c.isDigit = false := by
  cases hc : c.isDigit with
  | false => rfl
  | true =>
      have hnone := digit?_eq_none (Or.inr h)
      rw [digit?_of_isDigit hc] at hnone
      cases hnone

/-- A unit starts with a letter. -/
theorem exists_letter (e : Ending) : ∃ c unit, e.unit = c :: unit ∧ isUnitLetter c = true := by
  obtain ⟨c, unit, hunit⟩ := List.exists_cons_of_ne_nil e.unit_ne_nil
  exact ⟨c, unit, hunit, e.isUnitLetter_unit c (by rw [hunit]; exact List.mem_cons_self)⟩

theorem head_unit (e : Ending) (xs : List Char) :
    ∀ c ∈ (e.unit ++ xs).head?, c.isDigit = false ∧ c ≠ '.' := by
  obtain ⟨c, unit, hunit, hc⟩ := exists_letter e
  intro d hd
  rw [hunit] at hd
  cases hd
  refine ⟨isDigit_eq_false (Or.inl hc), ?_⟩
  rintro rfl
  cases hc

theorem head_ending (e : Ending) (xs : List Char) :
    ∀ c ∈ (e.text ++ xs).head?, c.isDigit = false := by
  intro c hc
  unfold Ending.text at hc
  by_cases hnone : e.decimals = []
  · rw [if_pos hnone] at hc
    exact (head_unit e xs c hc).1
  · rw [if_neg hnone] at hc
    cases hc
    rfl

theorem ending_inj {e e' : Ending} (hxs : ∀ c ∈ xs.head?, isUnitLetter c = false)
    (hys : ∀ c ∈ ys.head?, isUnitLetter c = false) (h : e.text ++ xs = e'.text ++ ys) :
    e = e' ∧ xs = ys := by
  have hunits := @run_inj isUnitLetter _ _ _ _ e.isUnitLetter_unit e'.isUnitLetter_unit hxs hys
  unfold Ending.text at h
  by_cases hnone : e.decimals = []
  · by_cases hnone' : e'.decimals = []
    · rw [if_pos hnone, if_pos hnone'] at h
      obtain ⟨hunit, htail⟩ := hunits h
      exact ⟨Ending.ext (hnone.trans hnone'.symm) hunit, htail⟩
    · rw [if_pos hnone, if_neg hnone'] at h
      have hpoint := (head_unit e xs '.' (by rw [← List.nil_append e.unit, h]; rfl)).2
      exact absurd rfl hpoint
  · by_cases hnone' : e'.decimals = []
    · rw [if_neg hnone, if_pos hnone'] at h
      have hpoint := (head_unit e' ys '.' (by rw [← List.nil_append e'.unit, ← h]; rfl)).2
      exact absurd rfl hpoint
    · rw [if_neg hnone, if_neg hnone', List.append_assoc, List.append_assoc] at h
      obtain ⟨hdecimals, h⟩ := run_inj e.isDigit_decimals e'.isDigit_decimals
        (fun c hc => (head_unit e xs c hc).1) (fun c hc => (head_unit e' ys c hc).1)
        (List.cons.inj h).2
      obtain ⟨hunit, htail⟩ := hunits h
      exact ⟨Ending.ext hdecimals hunit, htail⟩

/-- What follows a segment starts with a digit. -/
theorem head_join (segments : List Segment) :
    ∀ c ∈ (Segment.join segments).head?, isUnitLetter c = false := by
  intro c hc
  cases segments with
  | nil => cases hc
  | cons s segments =>
      obtain ⟨d, ds, hwhole⟩ := List.exists_cons_of_ne_nil s.whole_ne_nil
      have hdigit := s.isDigit_whole d (by rw [hwhole]; exact List.mem_cons_self)
      rw [Segment.join, List.flatMap_cons, Segment.text, hwhole] at hc
      cases hc
      rw [← Bool.not_eq_true]
      intro hletter
      rw [isDigit_eq_false (Or.inl hletter)] at hdigit
      cases hdigit

/-- A text is made of segments in one way only. -/
theorem join_inj {a b : List Segment} (h : Segment.join a = Segment.join b) : a = b := by
  have hcons : ∀ s segments, Segment.join (s :: segments) =
      s.whole ++ (s.toEnding.text ++ Segment.join segments) := by
    intro s segments
    rw [Segment.join, List.flatMap_cons, Segment.text, List.append_assoc]
    rfl
  have hne : ∀ s segments, Segment.join (s :: segments) ≠ [] := by
    intro s segments hnil
    rw [hcons] at hnil
    exact s.whole_ne_nil (List.append_eq_nil_iff.mp hnil).1
  induction a generalizing b with
  | nil =>
      cases b with
      | nil => rfl
      | cons s b => exact absurd h.symm (hne s b)
  | cons s a ih =>
      cases b with
      | nil => exact absurd h (hne s a)
      | cons t b =>
          rw [hcons, hcons] at h
          obtain ⟨hwhole, h⟩ := run_inj s.isDigit_whole t.isDigit_whole (head_ending _ _)
            (head_ending _ _) h
          obtain ⟨hending, h⟩ := ending_inj (head_join a) (head_join b) h
          have hst : s = t := Segment.ext (congrArg Ending.decimals hending)
            (congrArg Ending.unit hending) hwhole
          rw [hst, ih h]

end Unique

/-! ### Back from a row to its segments -/

/-- The runs of a text behind a place that is scanned into some parts.  A place in a segment asks for
the rest of its runs first. -/
def Continues : Place → List Char → List Part → Prop
  | .start, cs, parts =>
    ∃ segments, segments ≠ [] ∧ cs = Segment.join segments ∧ parts = segments.map Segment.part
  | .between _, cs, parts =>
    ∃ segments, cs = Segment.join segments ∧ parts = segments.map Segment.part
  | .whole n, cs, parts =>
    ∃ (ds : List Char) (e : Ending) (segments : List Segment), (∀ c ∈ ds, c.isDigit = true) ∧
      cs = ds ++ e.text ++ Segment.join segments ∧
      parts = ⟨Nat.ofDigitChars 10 ds n, e.fraction, String.ofList e.unit⟩ ::
        segments.map Segment.part
  | .decimals n f _, cs, parts =>
    ∃ (ds unit : List Char) (segments : List Segment), (∀ c ∈ ds, c.isDigit = true) ∧
      f.denominator * 10 ^ ds.length ≠ 1 ∧ unit ≠ [] ∧ (∀ c ∈ unit, isUnitLetter c = true) ∧
      cs = ds ++ unit ++ Segment.join segments ∧
      parts = ⟨n, some ⟨Nat.ofDigitChars 10 ds f.numerator, f.denominator * 10 ^ ds.length⟩,
        String.ofList unit⟩ :: segments.map Segment.part
  | .unit n o letters, cs, parts =>
    ∃ (unit : List Char) (segments : List Segment), (∀ c ∈ unit, isUnitLetter c = true) ∧
      cs = unit ++ Segment.join segments ∧
      parts = .ofUnit n o (unit.reverse ++ letters) :: segments.map Segment.part

section Back

variable {c : Char} {pos next d : Nat} {place place' : Place} {ended : Option Part} {cs : List Char}
  {parts : List Part}

theorem isDigit_of_digit? (h : digit? c = some d) : c.isDigit = true ∧ d = c.toNat - '0'.toNat := by
  obtain ⟨hlow, hhigh, hd⟩ := toNat_of_digit? h
  refine ⟨?_, hd⟩
  simp only [Char.isDigit, Bool.and_eq_true, decide_eq_true_eq]
  exact ⟨hlow, hhigh⟩

/-- A digit in front of the rest of a segment makes it a segment. -/
theorem continues_of_whole (hd : digit? c = some d) (h : Continues (.whole d) cs parts) :
    ∃ segments, segments ≠ [] ∧ c :: cs = Segment.join segments ∧
      parts = segments.map Segment.part := by
  obtain ⟨ds, e, segments, hds, hcs, hparts⟩ := h
  obtain ⟨hc, hvalue⟩ := isDigit_of_digit? hd
  refine ⟨⟨e, c :: ds, List.cons_ne_nil _ _, List.forall_mem_cons.mpr ⟨hc, hds⟩⟩ :: segments,
    List.cons_ne_nil _ _, ?_, ?_⟩
  · rw [hcs]
    rfl
  · rw [hparts, hvalue, List.map_cons, Segment.part, ofDigitChars_cons_ten, Nat.zero_mul,
      Nat.zero_add]

/-- What continues a place continues the place before, with one more character in front. -/
theorem Moved.continues (h : Moved c pos next place ended place') (hdark : isBlank c = false)
    (hcs : Continues place' cs parts) : Continues place (c :: cs) (ended.toList ++ parts) := by
  cases h with
  | first hd => exact continues_of_whole hd hcs
  | again hd =>
      obtain ⟨segments, -, hjoin, hparts⟩ := continues_of_whole hd hcs
      exact ⟨segments, hjoin, hparts⟩
  | digit hd hn =>
      obtain ⟨ds, e, segments, hds, hcs, hparts⟩ := hcs
      obtain ⟨hc, hvalue⟩ := isDigit_of_digit? hd
      refine ⟨c :: ds, e, segments, List.forall_mem_cons.mpr ⟨hc, hds⟩, ?_, ?_⟩
      · rw [hcs]
        rfl
      · rw [ofDigitChars_cons_ten, ← hvalue]
        exact hparts
  | decimal hd hdenominator hnumerator =>
      obtain ⟨ds, unit, segments, hds, hsome, hne, hunit, hcs, hparts⟩ := hcs
      obtain ⟨hc, hvalue⟩ := isDigit_of_digit? hd
      refine ⟨c :: ds, unit, segments, List.forall_mem_cons.mpr ⟨hc, hds⟩, ?_, hne, hunit, ?_, ?_⟩
      · rw [mul_pow_length_cons]
        exact hsome
      · rw [hcs]
        rfl
      · rw [mul_pow_length_cons, ofDigitChars_cons_ten, ← hvalue]
        exact hparts
  | next hd =>
      obtain ⟨segments, -, hjoin, hparts⟩ := continues_of_whole hd hcs
      refine ⟨[], segments, nofun, hjoin, ?_⟩
      rw [hparts]
      rfl
  | unit hc =>
      obtain ⟨unit, segments, hunit, hcs, hparts⟩ := hcs
      refine ⟨[], ⟨[], c :: unit, List.cons_ne_nil _ _, nofun,
        List.forall_mem_cons.mpr ⟨hc, hunit⟩⟩, segments, nofun, ?_, ?_⟩
      · rw [hcs]
        rfl
      · rw [Part.ofUnit, List.reverse_append, List.reverse_reverse] at hparts
        exact hparts
  | unitDecimals hc hsome =>
      obtain ⟨unit, segments, hunit, hcs, hparts⟩ := hcs
      refine ⟨[], c :: unit, segments, nofun, ?_, List.cons_ne_nil _ _,
        List.forall_mem_cons.mpr ⟨hc, hunit⟩, ?_, ?_⟩
      · rw [List.length_nil, Nat.pow_zero, Nat.mul_one]
        exact hsome
      · rw [hcs]
        rfl
      · rw [Part.ofUnit, List.reverse_append, List.reverse_reverse] at hparts
        rw [List.length_nil, Nat.pow_zero, Nat.mul_one]
        exact hparts
  | letter hc =>
      obtain ⟨unit, segments, hunit, hcs, hparts⟩ := hcs
      refine ⟨c :: unit, segments, List.forall_mem_cons.mpr ⟨hc, hunit⟩, ?_, ?_⟩
      · rw [hcs]
        rfl
      · rw [List.reverse_cons, List.append_assoc]
        exact hparts
  | point hc =>
      obtain ⟨ds, unit, segments, hds, hsome, hne, hunit, hcs, hparts⟩ := hcs
      have hds_ne : ds ≠ [] := by
        intro hnil
        rw [hnil] at hsome
        exact hsome rfl
      refine ⟨[], ⟨ds, unit, hne, hds, hunit⟩, segments, nofun, ?_, ?_⟩
      · rw [hcs, hc, Ending.text, if_neg hds_ne]
        simp
      · rw [Ending.fraction, if_neg hds_ne]
        rw [Nat.one_mul] at hparts
        exact hparts
  | blankStart hc | blankBetween hc | blankWhole hc | blankDecimals hc | blankUnit hc =>
      rw [hc] at hdark
      cases hdark

/-- A text ends with a unit or is not scanned to an end that is one. -/
theorem continues_rest (hrest : rest place = ⟨parts, none⟩) (hunits : ∀ p ∈ parts, p.unit ≠ "") :
    Continues place [] parts := by
  cases place with
  | start => cases hrest
  | between since =>
      cases hrest
      exact ⟨[], rfl, rfl⟩
  | whole n =>
      cases hrest
      exact absurd rfl (hunits _ List.mem_cons_self)
  | decimals n f fault =>
      simp only [rest] at hrest
      by_cases hnone : f.denominator = 1
      · rw [if_pos hnone] at hrest
        cases hrest
      · rw [if_neg hnone] at hrest
        cases hrest
        exact absurd rfl (hunits _ List.mem_cons_self)
  | unit n o letters =>
      cases hrest
      exact ⟨[], [], List.forall_mem_nil _, rfl, rfl⟩

theorem continues_of_scan (hdark : ∀ c ∈ cs, isBlank c = false)
    (hscan : scan place pos cs = ⟨parts, none⟩) (hunits : ∀ p ∈ parts, p.unit ≠ "") :
    Continues place cs parts := by
  induction cs generalizing place pos parts with
  | nil => exact continues_rest hscan hunits
  | cons c cs ih =>
      obtain ⟨hc, hdark⟩ := List.forall_mem_cons.mp hdark
      rcases scan_cons_cases place pos c cs with
        ⟨place', hmoved, heq⟩ | ⟨p, place', hmoved, heq⟩ | ⟨e, -, heq⟩
      · rw [heq] at hscan
        exact hmoved.continues hc (ih hdark hscan hunits)
      · rw [heq] at hscan
        obtain ⟨parts', hparts⟩ : ∃ parts', scan place' (pos + c.utf8Size) cs = ⟨parts', none⟩ :=
          ⟨_, congrArg (Row.mk _) (congrArg Row.fault hscan)⟩
        rw [hparts] at hscan
        cases hscan
        exact hmoved.continues hc (ih hdark hparts (List.forall_mem_cons.mp hunits).2)
      · rw [heq] at hscan
        cases hscan

/-- **A text without white space is made of segments** if it is scanned to its end, with a unit for
every number. -/
theorem exists_segments (hdark : ∀ c ∈ cs, isBlank c = false)
    (hscan : scan .start pos cs = ⟨parts, none⟩) (hunits : ∀ p ∈ parts, p.unit ≠ "") :
    ∃ segments, segments ≠ [] ∧ cs = Segment.join segments ∧
      parts = segments.map Segment.part :=
  continues_of_scan hdark hscan hunits

end Back

end ControlPlane.Duration
