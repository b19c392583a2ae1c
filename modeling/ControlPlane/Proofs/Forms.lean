/-
The parameters of a request, read back.

A form keeps its marks for itself: neither a name nor a value that it writes has an ampersand
or an equals sign in it, so what stands between them is what was put there.  What a form
writes is read as the bytes of the text, and these as the text.  So a request carries the
parameters that it was given, whatever they hold.
-/
import ControlPlane.Proofs.Urls
import ControlPlane.Proofs.Utf8

namespace ControlPlane.Kubernetes

/-! ### Bytes -/

theorem hexDigit?_formDigit : ∀ n < 16, Text.hexDigit? (formDigit n) = some n := by decide

theorem ne_mark_of_isPlainByte {b : UInt8} {mark : Char} (hb : isPlainByte b = true)
    (hmark : (mark.isAlphanum || mark = '*' || mark = '-' || mark = '.' || mark = '_') = false) :
    Char.ofNat b.toNat ≠ mark := by
  rintro rfl
  have hkinds := (Bool.and_eq_true_iff.mp hb).2
  rw [hmark] at hkinds
  cases hkinds

theorem utf8EncodeChar_of_isPlainByte {b : UInt8} (hb : isPlainByte b = true) :
    String.utf8EncodeChar (Char.ofNat b.toNat) = [b] := by
  have hsmall : b.toNat < 128 := by
    have hlt := (Bool.and_eq_true_iff.mp hb).1
    rw [decide_eq_true_eq, UInt8.lt_iff_toNat_lt] at hlt
    exact hlt
  have hascii : ∀ n < 128, (Char.ofNat n).val.toNat = n := by decide
  have hval := hascii b.toNat hsmall
  unfold String.utf8EncodeChar
  rw [hval]
  dsimp only
  rw [if_pos (by omega), UInt8.ofNat_toNat]

/-- A byte is read back from how a form writes it. -/
theorem formBytes_formByte (b : UInt8) (cs : List Char) :
    formBytes (formByte b ++ cs) = b :: formBytes cs := by
  have hbound := b.toNat_lt
  unfold formByte
  split
  · rename_i hplain
    rw [List.singleton_append, formBytes, utf8EncodeChar_of_isPlainByte hplain]
    · rfl
    · exact ne_mark_of_isPlainByte hplain (by decide)
    · exact fun _ _ _ h => absurd h (ne_mark_of_isPlainByte hplain (by decide))
  split
  · rename_i hspace
    rw [hspace]
    rfl
  · simp only [List.cons_append, List.nil_append, formBytes, hexDigit?_formDigit _
      (show b.toNat / 16 < 16 by omega), hexDigit?_formDigit _ (show b.toNat % 16 < 16 by omega)]
    rw [Nat.div_add_mod' b.toNat 16, UInt8.ofNat_toNat]

theorem formBytes_flatMap (bytes : Bytes) : formBytes (bytes.flatMap formByte) = bytes := by
  induction bytes with
  | nil => rfl
  | cons b bytes ih => rw [List.flatMap_cons, formBytes_formByte, ih]

/-- **A text is read back from how a form writes it.** -/
theorem formRead_formText (s : String) : formRead (formText s) = s := by
  unfold formRead formText
  rw [formBytes_flatMap, Text.readUtf8_utf8, List.reverse_nil, List.nil_append,
    String.ofList_toList]

/-! ### Parameters -/

/-- The marks of a form are in nothing that it writes. -/
theorem not_mem_formByte {mark : Char} (hmark : mark = '&' ∨ mark = '=') (b : UInt8) :
    mark ∉ formByte b := by
  have hdigit : ∀ n < 16, '&' ≠ formDigit n ∧ '=' ≠ formDigit n := by decide
  have hbound := b.toNat_lt
  have hhigh := hdigit (b.toNat / 16) (by omega)
  have hlow := hdigit (b.toNat % 16) (by omega)
  unfold formByte
  split
  · rename_i hplain
    intro hmem
    refine ne_mark_of_isPlainByte hplain ?_ (List.mem_singleton.mp hmem).symm
    rcases hmark with rfl | rfl <;> decide
  split
  · rcases hmark with rfl | rfl <;> decide
  · rcases hmark with rfl | rfl <;> simp [hhigh, hlow]

theorem not_mem_formText {mark : Char} (hmark : mark = '&' ∨ mark = '=') (s : String) :
    mark ∉ formText s := by
  intro hmem
  obtain ⟨b, -, hb⟩ := List.mem_flatMap.mp hmem
  exact not_mem_formByte hmark b hb

section Split

variable {separator : Char} {part rest : List Char}

theorem splitOn_ne_nil (separator : Char) (cs : List Char) : splitOn separator cs ≠ [] := by
  induction cs with
  | nil => exact List.cons_ne_nil _ _
  | cons c cs ih =>
    unfold splitOn
    split
    · exact List.cons_ne_nil _ _
    · split <;> exact List.cons_ne_nil _ _

/-- A separator begins a part. -/
theorem splitOn_separator : splitOn separator (separator :: rest) = [] :: splitOn separator rest := by
  rw [splitOn]
  split
  · rename_i hnil
    exact absurd hnil (splitOn_ne_nil separator rest)
  · rename_i first parts hparts
    rw [if_pos rfl, hparts]

/-- What has no separator in it belongs to one part. -/
theorem splitOn_append {first : List Char} {parts : List (List Char)} (hpart : separator ∉ part)
    (hrest : splitOn separator rest = first :: parts) :
    splitOn separator (part ++ rest) = (part ++ first) :: parts := by
  induction part with
  | nil => exact hrest
  | cons c part ih =>
    have hc : c ≠ separator := fun h => hpart (h ▸ List.mem_cons_self)
    rw [List.cons_append, splitOn, ih fun h => hpart (List.mem_cons_of_mem _ h)]
    exact if_neg hc

/-- Parts with a separator in front of each are found again. -/
theorem splitOn_flatMap {parts : List (List Char)} (h : ∀ part ∈ parts, separator ∉ part) :
    splitOn separator (parts.flatMap (separator :: ·)) = [] :: parts := by
  induction parts with
  | nil => rfl
  | cons part parts ih =>
    obtain ⟨hpart, hparts⟩ := List.forall_mem_cons.mp h
    rw [List.flatMap_cons, List.cons_append, splitOn_separator, splitOn_append hpart (ih hparts),
      List.append_nil]

theorem intercalate_cons {first : List Char} {parts : List (List Char)} :
    [separator].intercalate (first :: parts) = first ++ parts.flatMap (separator :: ·) := by
  induction parts generalizing first with
  | nil => simp [List.intercalate]
  | cons part parts ih =>
    have hstep : [separator].intercalate (first :: part :: parts) =
        first ++ separator :: [separator].intercalate (part :: parts) := rfl
    rw [hstep, ih]
    rfl

/-- Parts with a separator between each two are found again, but for empty ones. -/
theorem filter_splitOn_intercalate {parts : List (List Char)}
    (h : ∀ part ∈ parts, part ≠ [] ∧ separator ∉ part) :
    (splitOn separator ([separator].intercalate parts)).filter (!·.isEmpty) = parts := by
  cases parts with
  | nil => rfl
  | cons first parts =>
    obtain ⟨hfirst, hrest⟩ := List.forall_mem_cons.mp h
    rw [intercalate_cons, splitOn_append hfirst.2 (splitOn_flatMap fun part hpart =>
      (hrest part hpart).2), List.append_nil]
    exact List.filter_eq_self.mpr fun part hpart => by simpa using (h part hpart).1

/-- A text is read back on both sides of a mark that the first side lacks. -/
theorem parted_append {mark : Char} {a b : List Char} (ha : mark ∉ a) :
    (a ++ mark :: b).takeWhile (· ≠ mark) = a ∧
      ((a ++ mark :: b).dropWhile (· ≠ mark)).drop 1 = b := by
  have hall : ∀ c ∈ a, decide (c ≠ mark) = true := by
    intro c hc
    rw [decide_eq_true_eq]
    rintro rfl
    exact ha hc
  rw [List.takeWhile_append_of_pos hall, List.dropWhile_append_of_pos hall,
    List.takeWhile_cons_of_neg (by simp), List.dropWhile_cons_of_neg (by simp), List.append_nil]
  exact ⟨rfl, rfl⟩

end Split

/-- How a form writes a parameter. -/
def formPart (e : String × String) : List Char := formText e.1 ++ '=' :: formText e.2

theorem parameter_formPart (e : String × String) : parameter (formPart e) = e := by
  obtain ⟨hname, hvalue⟩ := parted_append (not_mem_formText (.inr rfl) e.1) (b := formText e.2)
  unfold parameter formPart
  rw [hname, hvalue, formRead_formText, formRead_formText]

/-- **The parameters of a form are the ones that it was made from.** -/
theorem parameters_formOf (query : List (String × String)) :
    parameters (formOf (some query)) = query := by
  have hparts : ∀ part ∈ query.map formPart, '&' ∉ part := by
    intro part hpart
    obtain ⟨e, -, rfl⟩ := List.mem_map.mp hpart
    have hname := not_mem_formText (.inl rfl) e.1
    have hvalue := not_mem_formText (.inl rfl) e.2
    simp [formPart, hname, hvalue]
  have hform : formOf (some query) = (query.map formPart).flatMap ('&' :: ·) := by
    rw [List.flatMap_map]
    rfl
  have hkept : ([] :: query.map formPart).filter (!·.isEmpty) = query.map formPart := by
    rw [List.filter_cons_of_neg (by simp)]
    refine List.filter_eq_self.mpr fun part hpart => ?_
    obtain ⟨e, -, rfl⟩ := List.mem_map.mp hpart
    simp [formPart]
  unfold parameters
  rw [hform, splitOn_flatMap hparts, hkept, List.map_map]
  have hread : (parameter ∘ formPart) = id := funext parameter_formPart
  rw [hread, List.map_id]

/-- A request takes its parameters along. -/
theorem Target.query_eq {path : String} {query : List (String × String)} {target : Target}
    (hpath : path.toList.all isPathCharacter = true)
    (h : Target.ofUrl? (urlOf path (some query)) = some target) : target.query = query := by
  unfold Target.ofUrl? at h
  dsimp only at h
  split at h
  · cases h
  · split at h
    · cases h
      dsimp only
      rw [shown_urlOf hpath, form_urlOf hpath, parameters_formOf]
    · cases h

/-! ### Lengths -/

theorem length_formText_le (s : String) : (formText s).length ≤ 12 * s.length := by
  have hbyte : ∀ b, (formByte b).length ≤ 3 := by
    intro b
    unfold formByte
    split
    · simp
    · split <;> simp
  have hbytes : ∀ bytes : Bytes, (bytes.flatMap formByte).length ≤ 3 * bytes.length := by
    intro bytes
    induction bytes with
    | nil => exact Nat.le_refl 0
    | cons b bytes ih =>
      have hb := hbyte b
      rw [List.flatMap_cons, List.length_append, List.length_cons]
      omega
  have hform := hbytes (Text.utf8 s.toList)
  have hutf8 := length_utf8_le s.toList
  rw [String.length_toList] at hutf8
  unfold formText
  omega

end ControlPlane.Kubernetes
