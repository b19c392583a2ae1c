/-
What can be read of a moment.

The reader of moments takes texts that the writer does not make, with an offset and with a
fraction of any length.  What it reads is a moment of a clock all the same (`ofClock_of_read?`):
the fraction lies below a second, only the second of the number 60 runs on into another one, and
an offset is of whole minutes, so that this second stays the last one of its minute.

Written again such a moment is the same text with its fraction and without (`text_truncate`).
-/
import ControlPlane.Proofs.TimeText
import Mathlib.Algebra.Group.Nat.Defs

namespace ControlPlane

open Text

namespace Text

theorem le_nine_of_digit? {c : Char} {d : Nat} (h : digit? c = some d) : d ≤ 9 := by
  unfold digit? at h
  split at h
  · rename_i hrange
    cases h
    have hnine : c.toNat ≤ '9'.toNat := hrange.2
    show c.toNat - 48 ≤ 9
    have hvalue : '9'.toNat = 57 := rfl
    omega
  · cases h

end Text

namespace Time

variable {most bound n m : Nat} {cs rest : List Char}

/-! ### Numbers -/

/-- Digits that are read make a number of as many digits, on top of the one before. -/
theorem lt_of_digitsFrom (h : digitsFrom most n cs = (m, rest)) :
    ∃ used, used ≤ most ∧ cs.length = used + rest.length ∧ m < (n + 1) * 10 ^ used := by
  induction most generalizing n cs with
  | zero =>
    cases h
    exact ⟨0, Nat.le_refl 0, by omega, by omega⟩
  | succ most ih =>
    cases cs with
    | nil =>
      cases h
      exact ⟨0, Nat.zero_le _, by simp, by omega⟩
    | cons c cs =>
      rw [digitsFrom] at h
      cases hdigit : digit? c with
      | none =>
        rw [hdigit] at h
        cases h
        exact ⟨0, Nat.zero_le _, by omega, by omega⟩
      | some d =>
        rw [hdigit] at h
        obtain ⟨used, hused, hlength, hm⟩ := ih h
        refine ⟨used + 1, by omega, by rw [List.length_cons]; omega, ?_⟩
        have hd := le_nine_of_digit? hdigit
        calc m < (n * 10 + d + 1) * 10 ^ used := hm
          _ ≤ ((n + 1) * 10) * 10 ^ used := Nat.mul_le_mul_right _ (by omega)
          _ = (n + 1) * 10 ^ (used + 1) := by rw [Nat.mul_assoc, Nat.pow_succ']

theorem lt_of_number? (h : number? most cs = some (n, rest)) :
    ∃ used, used ≤ most ∧ cs.length = used + rest.length ∧ n < 10 ^ used := by
  unfold number? at h
  split at h
  · cases h
  · split at h
    · obtain ⟨used, hused, hlength, hn⟩ := lt_of_digitsFrom (Option.some.inj h)
      exact ⟨used, hused, hlength, by omega⟩
    · cases h

theorem le_of_spacedNumber? (h : spacedNumber? most bound cs = some (n, rest)) : n ≤ bound := by
  unfold spacedNumber? at h
  split at h
  · split at h
    · cases h
      assumption
    · cases h
  · cases h

/-- A fraction lies below a second, however many digits it has. -/
theorem lt_of_fraction? (h : fraction? cs = some (n, rest)) : n < 1000000000 := by
  unfold fraction? at h
  split at h
  case h_1 digits =>
    split at h
    case h_1 value after hnumber =>
      cases h
      obtain ⟨used, hused, hlength, hvalue⟩ := lt_of_number? hnumber
      have hwidth : digits.length - after.length = used := by omega
      show value * 10 ^ (9 - (digits.length - after.length)) < 10 ^ 9
      rw [hwidth]
      calc value * 10 ^ (9 - used) < 10 ^ used * 10 ^ (9 - used) :=
            Nat.mul_lt_mul_of_pos_right hvalue (Nat.pow_pos (by decide))
        _ = 10 ^ 9 := by rw [← Nat.pow_add, Nat.add_sub_cancel' hused]
    case h_2 => cases h
  case h_2 =>
    cases h
    decide

/-! ### Clocks and offsets -/

/-- A clock runs on past a second only in the last one of a minute. -/
theorem bounds_of_clock? {ofDay nanos : Nat} (h : clock? cs = some (ofDay, nanos, rest)) :
    nanos < 2000000000 ∧ (1000000000 ≤ nanos → ofDay % 60 = 59) := by
  unfold clock? at h
  simp only [Option.bind_eq_bind, Option.bind_eq_some_iff, Prod.exists, Option.some.injEq,
    Prod.mk.injEq] at h
  obtain ⟨hour, _, -, _, -, minute, _, -, _, -, second, _, hsecond, fraction, _, hfraction,
    rfl, rfl, -⟩ := h
  have hlast := le_of_spacedNumber? hsecond
  have hbelow := lt_of_fraction? hfraction
  split <;> omega

/-- An offset is of whole minutes. -/
theorem dvd_of_offset? {offset : Int} (h : offset? cs = some (offset, rest)) :
    (60 : Int) ∣ offset := by
  have hsigned : ∀ {sign : Int} {cs : List Char},
      offset?.signed sign cs = some (offset, rest) → (60 : Int) ∣ offset := by
    intro sign cs h
    unfold offset?.signed at h
    simp only [Option.bind_eq_bind, Option.bind_eq_some_iff, Prod.exists] at h
    obtain ⟨hours, _, -, minutes, _, -, h⟩ := h
    split at h
    · cases h
      have hwhole : (hours * 3600 + minutes * 60 : Int) = 60 * (hours * 60 + minutes) := by omega
      rw [hwhole, Int.mul_left_comm]
      exact Int.dvd_mul_right _ _
    · cases h
  unfold offset? at h
  split at h
  · cases h
    exact ⟨0, rfl⟩
  · cases h
    exact ⟨0, rfl⟩
  · split at h
    · cases h
      exact ⟨0, rfl⟩
    · split at h
      · exact hsigned h
      · split at h
        · exact hsigned h
        · cases h
  · cases h

/-! ### Moments -/

/-- **What is read is a moment of a clock.** -/
theorem ofClock_of_read? {text : String} {t : Time} (h : read? text = some t) : t.OfClock := by
  unfold read? at h
  rw [Option.bind_eq_bind, Option.bind_eq_some_iff] at h
  obtain ⟨⟨date, cs⟩, -, h⟩ := h
  dsimp only at h
  split at h
  case h_4 => cases h
  -- Three marks may stand between date and clock, and the clock is read alike behind each.
  all_goals
    simp only [Option.bind_eq_bind, Option.bind_some, Option.bind_eq_some_iff, Prod.exists] at h
    obtain ⟨ofDay, nanos, _, hclock, offset, _, hoffset, h⟩ := h
    obtain ⟨hnanos, hleap⟩ := bounds_of_clock? hclock
    obtain ⟨minutes, rfl⟩ := dvd_of_offset? hoffset
    split at h
    · cases h
      refine ⟨hnanos, fun hrun => ?_⟩
      have hlast := hleap hrun
      dsimp only
      omega
    · cases h

/-- A fraction is not written. -/
theorem text_truncate {t : Time} (h : t.OfClock) : t.truncate.text = t.text := by
  have hseconds : t.truncate.nanos / 1000000000 = t.nanos / 1000000000 := by
    have hnanos := h.nanos
    unfold truncate
    dsimp only
    split <;> omega
  unfold text
  rw [hseconds]
  rfl

end Time

end ControlPlane
