/-
Texts in UTF-8, read back.

The reader replaces what is no character, and of the bytes of a text nothing is replaced: the
first byte of a character tells how many bytes it has, and the others are such as may follow
it.
-/
import ControlPlane.Text.Utf8
import Mathlib.Data.List.TakeWhile

namespace ControlPlane.Text

variable {first second : UInt8} {run tail rest : Bytes} {n m : Nat}

/-! ### Bytes as numbers -/

theorem toNat_ofNat_of_lt (h : n < 256) : (UInt8.ofNat n).toNat = n := by
  rw [UInt8.toNat_ofNat', Nat.mod_eq_of_lt h]

theorem widthOf_ofNat (h : n < 256) : widthOf (UInt8.ofNat n) =
    if n < 0x80 then 1 else if 0xC2 ≤ n ∧ n < 0xE0 then 2
    else if 0xE0 ≤ n ∧ n < 0xF0 then 3 else if 0xF0 ≤ n ∧ n < 0xF5 then 4 else 0 := by
  unfold widthOf
  simp only [UInt8.lt_iff_toNat_lt, UInt8.le_iff_toNat_le, toNat_ofNat_of_lt h]
  rfl

theorem isFollower_ofNat (hlow : 0x80 ≤ n) (hhigh : n < 0xC0) : isFollower (UInt8.ofNat n) = true := by
  unfold isFollower
  simp only [UInt8.lt_iff_toNat_lt, UInt8.le_iff_toNat_le, toNat_ofNat_of_lt (show n < 256 by omega),
    Bool.and_eq_true, decide_eq_true_eq]
  exact ⟨hlow, hhigh⟩

theorem maySecond_ofNat (hn : n < 256) (hlow : 0x80 ≤ m) (hhigh : m < 0xC0)
    (h : (n = 0xE0 → 0xA0 ≤ m) ∧ (n = 0xED → m < 0xA0) ∧ (n = 0xF0 → 0x90 ≤ m) ∧
      (n = 0xF4 → m < 0x90)) : maySecond (UInt8.ofNat n) (UInt8.ofNat m) = true := by
  unfold maySecond
  rw [isFollower_ofNat hlow hhigh]
  simp only [Bool.true_and, Bool.and_eq_true, Bool.or_eq_true, decide_eq_true_eq, Ne,
    UInt8.lt_iff_toNat_lt, UInt8.le_iff_toNat_le, ← UInt8.toNat_inj, toNat_ofNat_of_lt hn,
    toNat_ofNat_of_lt (show m < 256 by omega), UInt8.reduceToNat]
  omega

theorem low_ofNat (h : n < 64) : low (UInt8.ofNat (n + 128)) = n := by
  unfold low
  rw [toNat_ofNat_of_lt (by omega)]
  omega

/-! ### Characters -/

/-- The bytes that follow in a character go on with it. -/
theorem continuation_append (hsecond : maySecond first second = true)
    (hwidth : widthOf first = tail.length + 2) (htail : ∀ b ∈ tail, isFollower b = true) :
    continuation first (second :: (tail ++ rest)) = second :: tail := by
  have htake : (tail ++ rest).take (widthOf first - 2) = tail := by
    rw [hwidth, Nat.add_sub_cancel, List.take_left]
  simp only [continuation]
  rw [if_pos ⟨by omega, hsecond⟩, htake, List.takeWhile_eq_self_iff.mpr htail]

/-- A byte by itself is read at once. -/
theorem readUtf8_single {acc : List Char} (h : n < 0x80) :
    readUtf8 acc (UInt8.ofNat n :: rest) = readUtf8 (Char.ofNat n :: acc) rest := by
  have hwidth : widthOf (UInt8.ofNat n) = 1 := by
    rw [widthOf_ofNat (by omega), if_pos h]
  have hrun : continuation (UInt8.ofNat n) rest = [] := by
    cases rest with
    | nil => rfl
    | cons b rest =>
      simp only [continuation]
      rw [if_neg (by omega)]
  have hjoined : joined (UInt8.ofNat n) [] = Char.ofNat n := by
    unfold joined
    dsimp only
    rw [toNat_ofNat_of_lt (by omega)]
  rw [readUtf8, hrun]
  simp only [List.length_nil, List.drop_zero]
  rw [if_pos hwidth.symm, hjoined]

/-- A character of several bytes is read at once. -/
theorem readUtf8_several (tail : Bytes) {acc : List Char} {c : Char}
    (hsecond : maySecond first second = true) (hwidth : widthOf first = tail.length + 2)
    (htail : ∀ b ∈ tail, isFollower b = true) (hjoined : joined first (second :: tail) = c) :
    readUtf8 acc (first :: second :: (tail ++ rest)) = readUtf8 (c :: acc) rest := by
  rw [readUtf8, continuation_append hsecond hwidth htail]
  simp only [List.length_cons]
  rw [if_pos hwidth.symm, hjoined, List.drop_succ_cons, List.drop_left]

theorem readUtf8_encodeChar (acc : List Char) (c : Char) (rest : Bytes) :
    readUtf8 acc (String.utf8EncodeChar c ++ rest) = readUtf8 (c :: acc) rest := by
  have hvalid : c.val.toNat < 0xD800 ∨ 0xDFFF < c.val.toNat ∧ c.val.toNat < 0x110000 := c.valid
  have hc : Char.ofNat c.val.toNat = c := Char.ofNat_toNat c
  unfold String.utf8EncodeChar
  generalize c.val.toNat = v at hvalid hc
  subst hc
  dsimp only
  split
  · exact readUtf8_single (by omega)
  split
  · refine readUtf8_several [] (maySecond_ofNat (by omega) (by omega) (by omega) (by omega))
      ?_ nofun ?_
    · rw [widthOf_ofNat (by omega), if_neg (by omega), if_pos (by omega)]
      rfl
    · rw [joined, toNat_ofNat_of_lt (by omega), low_ofNat (by omega)]
      congr 1
      omega
  split
  · refine readUtf8_several [_] (maySecond_ofNat (by omega) (by omega) (by omega) (by omega))
      ?_ ?_ ?_
    · rw [widthOf_ofNat (by omega), if_neg (by omega), if_neg (by omega), if_pos (by omega)]
      rfl
    · exact List.forall_mem_cons.mpr ⟨isFollower_ofNat (by omega) (by omega), nofun⟩
    · rw [joined, toNat_ofNat_of_lt (by omega), low_ofNat (by omega), low_ofNat (by omega)]
      congr 1
      omega
  · refine readUtf8_several [_, _] (maySecond_ofNat (by omega) (by omega) (by omega) (by omega))
      ?_ ?_ ?_
    · rw [widthOf_ofNat (by omega), if_neg (by omega), if_neg (by omega), if_neg (by omega),
        if_pos (by omega)]
      rfl
    · exact List.forall_mem_cons.mpr ⟨isFollower_ofNat (by omega) (by omega),
        List.forall_mem_cons.mpr ⟨isFollower_ofNat (by omega) (by omega), nofun⟩⟩
    · rw [joined, toNat_ofNat_of_lt (by omega), low_ofNat (by omega), low_ofNat (by omega),
        low_ofNat (by omega)]
      congr 1
      omega

/-- **A text is read back from its bytes.** -/
theorem readUtf8_utf8 (acc cs : List Char) : readUtf8 acc (utf8 cs) = acc.reverse ++ cs := by
  induction cs generalizing acc with
  | nil => simp [utf8, readUtf8]
  | cons c cs ih =>
    have hcons : utf8 (c :: cs) = String.utf8EncodeChar c ++ utf8 cs := List.flatMap_cons
    rw [hcons, readUtf8_encodeChar, ih]
    simp

end ControlPlane.Text
