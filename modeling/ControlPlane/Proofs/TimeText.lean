/-
Moments as they are written, and as they are read back.

Each reader takes the text of its writer off the front of what it is given and leaves the
rest: a number, a date, a clock.  What is read of a whole moment is the moment to the second
(`read?_text`).  Only years of four digits are looked at here; all others have a sign.
-/
import ControlPlane.Proofs.Calendar
import ControlPlane.Time

namespace ControlPlane

namespace Text

theorem digit?_of_isDigit {c : Char} (h : c.isDigit = true) :
    digit? c = some (c.toNat - '0'.toNat) := by
  have hrange : '0' ≤ c ∧ c ≤ '9' := by simpa [Char.isDigit, Char.le_def] using h
  exact if_pos hrange

theorem isBlank_of_isDigit {c : Char} (h : c.isDigit = true) : isBlank c = false := by
  have hrange : 48 ≤ c.toNat ∧ c.toNat ≤ 57 := by
    simpa [Char.isDigit, Char.le_def, UInt32.le_iff_toNat_le] using h
  unfold isBlank
  simp
  omega

end Text

open Text

namespace Time

variable {width n bound : Nat} {ds rest : List Char} {c : Char}

/-! ### Numbers -/

theorem isDigit_of_mem_padded (h : c ∈ padded width n) : c.isDigit = true := by
  rcases List.mem_append.mp h with hzero | hdigit
  · rw [List.eq_of_mem_replicate hzero]
    decide
  · exact Nat.isDigit_of_mem_toDigits (by decide) (by decide) hdigit

theorem padded_eq_cons (width n : Nat) : ∃ c cs, padded width n = c :: cs ∧ c.isDigit = true := by
  cases h : padded width n with
  | nil =>
    have hempty : Nat.toDigits 10 n = [] := (List.append_eq_nil_iff.mp h).2
    exact absurd hempty Nat.toDigits_ne_nil
  | cons c cs => exact ⟨c, cs, rfl, isDigit_of_mem_padded (h ▸ List.mem_cons_self)⟩

theorem length_padded (hn : (Nat.toDigits 10 n).length ≤ width) :
    (padded width n).length = width := by
  unfold padded
  rw [List.length_append, List.length_replicate]
  omega

theorem ofDigitChars_padded : Nat.ofDigitChars 10 (padded width n) 0 = n := by
  unfold padded
  rw [Nat.ofDigitChars_append, Nat.ofDigitChars_replicate_zero, Nat.mul_zero,
    Nat.ofDigitChars_ten_toDigits]

theorem digitsFrom_append (h : ∀ c ∈ ds, c.isDigit = true) (n : Nat) :
    digitsFrom ds.length n (ds ++ rest) = (Nat.ofDigitChars 10 ds n, rest) := by
  induction ds generalizing n with
  | nil => rfl
  | cons c ds ih =>
    obtain ⟨hc, hds⟩ := List.forall_mem_cons.mp h
    rw [List.length_cons, List.cons_append, digitsFrom, digit?_of_isDigit hc, Nat.ofDigitChars_cons]
    dsimp only
    rw [ih hds, Nat.mul_comm]

theorem number?_padded (hn : (Nat.toDigits 10 n).length ≤ width) :
    number? width (padded width n ++ rest) = some (n, rest) := by
  have hdigits : ∀ c ∈ padded width n, c.isDigit = true := fun _ => isDigit_of_mem_padded
  have hread := @digitsFrom_append _ rest hdigits 0
  rw [length_padded hn, ofDigitChars_padded] at hread
  obtain ⟨c, cs, hcons, hc⟩ := padded_eq_cons width n
  rw [hcons, List.cons_append] at hread ⊢
  unfold number?
  dsimp only
  rw [digit?_of_isDigit hc, Option.isSome_some, if_pos rfl, hread]

theorem trimStart_padded : trimStart (padded width n ++ rest) = padded width n ++ rest := by
  obtain ⟨c, cs, hcons, hc⟩ := padded_eq_cons width n
  have hdark : ¬isBlank c = true := by simp [isBlank_of_isDigit hc]
  rw [hcons, List.cons_append, trimStart, List.dropWhile_cons_of_neg hdark]

/-- A number of two digits, as all parts of a moment but its year are. -/
theorem spacedNumber?_two (hn : n ≤ bound) (hbound : bound < 100) :
    spacedNumber? 2 bound (padded 2 n ++ rest) = some (n, rest) := by
  have hdigits : (Nat.toDigits 10 n).length ≤ 2 :=
    (Nat.length_toDigits_le_iff (by decide) (by decide)).mpr (by omega)
  unfold spacedNumber?
  rw [trimStart_padded, number?_padded hdigits]
  exact if_pos hn

theorem mark?_cons (h : isBlank c = false) : mark? c (c :: rest) = some rest := by
  have hdark : ¬isBlank c = true := by simp [h]
  rw [mark?, trimStart, List.dropWhile_cons_of_neg hdark]
  exact if_pos rfl

/-! ### Dates and clocks -/

/-- A year that is written with four digits. -/
def InFourDigits (year : Int) : Prop := 0 ≤ year ∧ year ≤ 9999

instance (year : Int) : Decidable (InFourDigits year) :=
  inferInstanceAs (Decidable (0 ≤ year ∧ year ≤ 9999))

theorem year?_padded (hn : n < 10000) : year? (padded 4 n ++ rest) = some ((n : Int), rest) := by
  obtain ⟨c, cs, hcons, hc⟩ := padded_eq_cons 4 n
  unfold year?
  rw [trimStart_padded]
  split
  case h_1 hminus =>
    rw [hcons] at hminus
    cases hminus
    exact absurd hc (by decide)
  case h_2 hplus =>
    rw [hcons] at hplus
    cases hplus
    exact absurd hc (by decide)
  case h_3 =>
    rw [number?_padded ((Nat.length_toDigits_le_iff (by decide) (by decide)).mpr hn)]
    rfl

theorem year?_yearText {year : Int} (h : InFourDigits year) :
    year? (yearText year ++ rest) = some (year, rest) := by
  obtain ⟨h0, h9⟩ := h
  have hback : (year.toNat : Int) = year := Int.toNat_of_nonneg h0
  rw [yearText, if_pos ⟨h0, h9⟩, year?_padded (by omega), hback]

theorem inReach_of_inFourDigits {year : Int} (h : InFourDigits year) : inReach year = true := by
  obtain ⟨h0, h9⟩ := h
  simp only [inReach, Bool.and_eq_true, decide_eq_true_eq]
  omega

theorem date?_append {date : Calendar.Date} (hyear : InFourDigits date.year) (hdate : date.Valid) :
    date? (yearText date.year ++ '-' :: (padded 2 date.month ++ '-' :: (padded 2 date.day ++ rest)))
      = some (date, rest) := by
  have hday : date.day ≤ 31 := by
    have hmonth := hdate.2.2.2
    unfold Calendar.daysInMonth at hmonth
    split at hmonth <;> split at hmonth <;> omega
  have hmark : isBlank '-' = false := by decide
  simp only [date?, year?_yearText hyear, mark?_cons hmark, spacedNumber?_two hdate.2.1 (by decide),
    spacedNumber?_two hday (by decide), Option.bind_eq_bind, Option.bind_some]
  exact if_pos ⟨hdate, inReach_of_inFourDigits hyear⟩

theorem clock?_append {hour minute second : Nat} (hhour : hour ≤ 23) (hminute : minute ≤ 59)
    (hsecond : second ≤ 60) (hrest : fraction? rest = some (0, rest)) :
    clock? (padded 2 hour ++ ':' :: (padded 2 minute ++ ':' :: (padded 2 second ++ rest))) =
      some (hour * 3600 + minute * 60 + (second - if second = 60 then 1 else 0),
        (if second = 60 then 1 else 0) * 1000000000, rest) := by
  have hmark : isBlank ':' = false := by decide
  simp only [clock?, mark?_cons hmark, spacedNumber?_two hhour (by decide),
    spacedNumber?_two hminute (by decide), spacedNumber?_two hsecond (by decide), hrest,
    Option.bind_eq_bind, Option.bind_some, Nat.zero_add]

/-! ### Moments -/

/-- The year of a moment in UTC. -/
def year (t : Time) : Int := (Calendar.ofDays (t.seconds.fdiv 86400)).year

/-- A moment that a clock can show: only the last second of a minute may be a leap second. -/
structure OfClock (t : Time) : Prop where
  nanos : t.nanos < 2000000000
  leap : 1000000000 ≤ t.nanos → t.seconds % 60 = 59

instance (t : Time) : Decidable t.OfClock :=
  decidable_of_iff (t.nanos < 2000000000 ∧ (1000000000 ≤ t.nanos → t.seconds % 60 = 59))
    ⟨fun h => ⟨h.1, h.2⟩, fun h => ⟨h.nanos, h.leap⟩⟩

/-- **A moment is read back as it was written, to the second.** -/
theorem read?_text {t : Time} (h : t.OfClock) (hyear : InFourDigits t.year) :
    read? t.text = some t.truncate := by
  obtain ⟨hnanos, hleap⟩ := h
  obtain ⟨hdays, hvalid⟩ := Calendar.toDays_ofDays (t.seconds.fdiv 86400)
  have hfdiv : t.seconds.fdiv 86400 = t.seconds / 86400 :=
    Int.fdiv_eq_ediv_of_nonneg _ (by decide)
  obtain ⟨ofDay, hofDay⟩ : ∃ ofDay, (t.seconds - t.seconds.fdiv 86400 * 86400).toNat = ofDay :=
    ⟨_, rfl⟩
  obtain ⟨second, hsecond⟩ : ∃ second, ofDay % 60 + t.nanos / 1000000000 = second := ⟨_, rfl⟩
  have hsum : t.seconds.fdiv 86400 * 86400 + ((ofDay / 3600 * 3600 + ofDay / 60 % 60 * 60 +
      (second - if second = 60 then 1 else 0) : Nat) : Int) - 0 = t.seconds := by
    split <;> omega
  have hkept : (if second = 60 then 1 else 0) * 1000000000 = t.truncate.nanos := by
    unfold truncate
    dsimp only
    by_cases hrun : t.nanos < 1000000000
    · rw [if_pos hrun, if_neg (by omega)]
    · have hlast := hleap (by omega)
      rw [if_neg hrun, if_pos (by omega)]
  unfold read? text
  rw [String.toList_ofList]
  dsimp only
  rw [hofDay, hsecond]
  simp only [List.append_assoc, List.cons_append]
  rw [date?_append hyear hvalid]
  change (clock? _).bind _ = _
  rw [clock?_append (by omega) (by omega) (by omega) rfl, Option.bind_some]
  dsimp only
  rw [show offset? (trimStart ['Z']) = some (0, []) from rfl]
  dsimp only [Option.bind_eq_bind, Option.bind_some]
  rw [hdays, hsum, if_pos ⟨rfl, inReach_of_inFourDigits hyear⟩, hkept]
  rfl

example : read? (text ⟨1483228799, 1500000000⟩) = some ⟨1483228799, 1000000000⟩ := by rfl

end Time

end ControlPlane
