/-
The text of a value, read back.

The compact text of a value is taken by the reader and stands for that value, whatever stands
behind it, as long as that does not go on with a number.  So nothing is lost by writing a value
down, and no two values have one text.

Left out are decimals, whose digits pass through floating-point numbers, whole numbers beyond
64 bits, and values that lie deeper than the reader goes.  `Legible` says of a value that it
is none of these, with room for some levels.
-/
import ControlPlane.Json.Compact
import ControlPlane.Json.Parser
import ControlPlane.Proofs.Segments

namespace ControlPlane.Json

/-! ### Texts -/

theorem hexDigit?_hexDigit : ∀ n < 16, Text.hexDigit? (hexDigit n) = some n := by decide

/-- A character is read back from how a text writes it. -/
theorem unitsRest_escapedChar (acc : List Nat) (c : Char) (rest : List Char) :
    unitsRest acc (escapedChar c ++ rest) = unitsRest (c.toNat :: acc) rest := by
  unfold escapedChar
  split
  · next hquote => rw [hquote]; rfl
  split
  · next hslash => rw [hslash]; rfl
  split
  · next hline => rw [hline]; rfl
  split
  · next hreturn => rw [hreturn]; rfl
  split
  · next htab => rw [htab]; rfl
  split
  · next hback => rw [hback]; rfl
  split
  · next hfeed => rw [hfeed]; rfl
  split
  · have hunit : codeUnit? '0' '0' (hexDigit (c.toNat / 16)) (hexDigit (c.toNat % 16)) =
        some c.toNat := by
      have hzero : Text.hexDigit? '0' = some 0 := by decide
      unfold codeUnit?
      rw [hzero, hexDigit?_hexDigit _ (by omega), hexDigit?_hexDigit _ (by omega)]
      simp only [Option.bind_eq_bind, Option.bind_some, Option.some.injEq]
      omega
    simp only [List.cons_append, List.nil_append, unitsRest, hunit]
  · rename_i hquote hslash _ _ _ _ _ hbig
    rw [List.singleton_append, unitsRest, if_neg hbig]
    · exact hquote
    · exact fun _ _ _ _ _ h => absurd h hslash
    · exact fun _ _ h => absurd h hslash

theorem unitsRest_literal (acc : List Nat) (cs rest : List Char) :
    unitsRest acc (cs.flatMap escapedChar ++ '"' :: rest) =
      some (acc.reverse ++ cs.map Char.toNat, rest) := by
  induction cs generalizing acc with
  | nil => simp [unitsRest]
  | cons c cs ih =>
    rw [List.flatMap_cons, List.append_assoc, unitsRest_escapedChar, ih]
    simp

/-- The number of a character is no half of a pair. -/
theorem isHalf_toNat (c : Char) : isHigh c.toNat = false ∧ isLow c.toNat = false := by
  have hvalid : c.toNat < 0xD800 ∨ 0xDFFF < c.toNat ∧ c.toNat < 0x110000 := c.valid
  simp only [isHigh, isLow, Bool.and_eq_false_iff, decide_eq_false_iff_not]
  omega

theorem charsOfUnits?_map (acc cs : List Char) :
    charsOfUnits? acc (cs.map Char.toNat) = some (acc.reverse ++ cs) := by
  induction cs generalizing acc with
  | nil => simp [charsOfUnits?]
  | cons c cs ih =>
    obtain ⟨hhigh, hlow⟩ := isHalf_toNat c
    cases cs with
    | nil => simp [charsOfUnits?, hhigh, hlow]
    | cons d cs =>
      have hrest := ih (c :: acc)
      rw [List.map_cons] at hrest
      rw [List.map_cons, List.map_cons, charsOfUnits?, hhigh, hlow]
      simp only [Bool.false_eq_true, if_false, Char.ofNat_toNat]
      rw [hrest]
      simp

/-- A text is read back up to its closing quote. -/
theorem textRest_literal (s : String) (rest : List Char) :
    textRest (s.toList.flatMap escapedChar ++ '"' :: rest) = some (some s, rest) := by
  unfold textRest
  rw [unitsRest_literal]
  simp only [List.reverse_nil, List.nil_append, Option.map_some, charsOfUnits?_map,
    String.ofList_toList]

/-! ### Whole numbers -/

/-- What stands behind a value does not go on with a number. -/
def Closes (rest : List Char) : Prop :=
  ∀ c ∈ rest.head?, c.isDigit = false ∧ c ≠ '.' ∧ c ≠ 'e' ∧ c ≠ 'E'

theorem closes_nil : Closes [] := nofun

theorem closes_cons {c : Char} {rest : List Char}
    (h : c.isDigit = false ∧ c ≠ '.' ∧ c ≠ 'e' ∧ c ≠ 'E') : Closes (c :: rest) := by
  intro d hd
  obtain rfl := Option.some.inj hd
  exact h

/-- The value of a digit. -/
abbrev digitValue (c : Char) : Nat := c.toNat - '0'.toNat

variable {ds rest : List Char} {n w : Nat}

theorem digit?_eq_none_of_not_isDigit {c : Char} (h : c.isDigit = false) : Text.digit? c = none := by
  cases hd : Text.digit? c with
  | none => rfl
  | some d =>
    rw [(Duration.isDigit_of_digit? hd).1] at h
    cases h

theorem digitRun_append (hds : ∀ c ∈ ds, c.isDigit = true) (hrest : Closes rest) :
    digitRun (ds ++ rest) = (ds.map digitValue, rest) := by
  induction ds with
  | nil =>
    cases rest with
    | nil => rfl
    | cons c rest =>
      have hnone := digit?_eq_none_of_not_isDigit (hrest c rfl).1
      simp only [List.nil_append, digitRun, hnone, List.map_nil]
  | cons c ds ih =>
    obtain ⟨hc, hds⟩ := List.forall_mem_cons.mp hds
    have hdigit : Text.digit? c = some (digitValue c) := Text.digit?_of_isDigit hc
    simp only [List.cons_append, digitRun, hdigit, ih hds, List.map_cons]

/-- Digits whose number fits into 64 bits are all gathered. -/
theorem gather_digits (h : Nat.ofDigitChars 10 ds w < UInt64.size) :
    Numeral.gather w (ds.map digitValue) = (Nat.ofDigitChars 10 ds w, 0) := by
  induction ds generalizing w with
  | nil => rfl
  | cons c ds ih =>
    rw [Duration.ofDigitChars_cons_ten] at h ⊢
    have hle := Duration.le_ofDigitChars (w * 10 + (c.toNat - '0'.toNat)) ds
    rw [List.map_cons, Numeral.gather, if_pos (Nat.lt_of_le_of_lt hle h)]
    exact ih h

/-- Only the digit zero has the value zero. -/
theorem digitChar_ne_zero : ∀ n < 10, n ≠ 0 → digitValue n.digitChar ≠ 0 := by decide

/-- No number but zero is written with a zero in front. -/
theorem head_toDigits (hn : n ≠ 0) : ∀ d ∈ ((Nat.toDigits 10 n).map digitValue).head?, d ≠ 0 := by
  induction n using Nat.strongRecOn with
  | ind n ih =>
    rcases Nat.lt_or_ge n 10 with hsmall | hbig
    · rw [Nat.toDigits_of_lt_base hsmall]
      intro d hd
      obtain rfl := Option.some.inj hd
      exact digitChar_ne_zero n hsmall hn
    · rw [Nat.toDigits_of_base_le (by decide) hbig, List.map_append]
      obtain ⟨c, cs, hcs⟩ :=
        List.exists_cons_of_ne_nil (Nat.toDigits_ne_nil : Nat.toDigits 10 (n / 10) ≠ [])
      have hhead := ih (n / 10) (by omega) (by omega)
      rw [hcs] at hhead ⊢
      exact hhead

/-- The digits are those of a whole number: there are some, and no zero is in front of others. -/
structure IsWhole (ds : List Nat) : Prop where
  ne_nil : ds ≠ []
  leading : ∀ d e l, ds = d :: e :: l → d ≠ 0

theorem isWhole_toDigits (n : Nat) : IsWhole ((Nat.toDigits 10 n).map digitValue) := by
  refine ⟨fun h => Nat.toDigits_ne_nil (List.map_eq_nil_iff.mp h), fun d e l h => ?_⟩
  by_cases hn : n = 0
  · rw [hn, Nat.toDigits_zero] at h
    cases h
  · have hhead := head_toDigits hn
    rw [h] at hhead
    exact hhead d rfl

/-- What stands behind the digits of a whole number is no part of it. -/
theorem number_of_digitRun {negative : Bool} {cs : List Char} {whole : List Nat}
    (hrun : digitRun cs = (whole, rest)) (hwhole : IsWhole whole) (hrest : Closes rest) :
    number negative cs = some (Numeral.source ⟨negative, whole, [], none⟩, rest) := by
  have hplaces : placesPart rest = some ([], rest) := by
    cases rest with
    | nil => rfl
    | cons c rest =>
      rw [placesPart]
      exact fun _ h => absurd (List.cons.inj h).1 (hrest c rfl).2.1
  have hpower : powerPart rest = some (none, rest) := by
    cases rest with
    | nil => rfl
    | cons c rest =>
      obtain ⟨-, -, he, hE⟩ := hrest c rfl
      simp [powerPart, he, hE]
  unfold number
  rw [hrun]
  cases whole with
  | nil => exact absurd rfl hwhole.ne_nil
  | cons d ds =>
    cases ds with
    | nil => simp [hplaces, hpower]
    | cons e ds =>
      have hd := hwhole.leading d e ds rfl
      simp [hplaces, hpower, hd]

/-- A whole number is read back behind its sign. -/
theorem number_toDigits {negative : Bool} (hrest : Closes rest) (hn : n < UInt64.size)
    (hnegative : negative = true → 0 < n ∧ n ≤ 9223372036854775808) :
    number negative (Nat.toDigits 10 n ++ rest) =
      some (.int (if negative then -n else n), rest) := by
  have hdigits : ∀ c ∈ Nat.toDigits 10 n, c.isDigit = true := fun c hc =>
    Nat.isDigit_of_mem_toDigits (by decide) (by decide) hc
  have hvalue : Nat.ofDigitChars 10 (Nat.toDigits 10 n) 0 = n :=
    Nat.ofDigitChars_toDigits (by decide) (by decide)
  have hgather : Numeral.gather 0 ((Nat.toDigits 10 n).map digitValue) =
      (Nat.ofDigitChars 10 (Nat.toDigits 10 n) 0, 0) := gather_digits (by rwa [hvalue])
  rw [hvalue] at hgather
  rw [number_of_digitRun (digitRun_append hdigits hrest) (isWhole_toDigits n) hrest]
  have hparts : Numeral.parts ⟨negative, (Nat.toDigits 10 n).map digitValue, [], none⟩ = (n, 0) := by
    simp [Numeral.parts, hgather, Numeral.gather]
  cases negative with
  | true => simp [Numeral.source, hparts, hnegative]
  | false => simp [Numeral.source, hparts]

/-! ### Values -/

/-- The value can be read back from its text, with room for some levels. -/
inductive Legible : Nat → Json → Prop where
  | null {depth : Nat} : Legible depth .null
  | bool {depth : Nat} (b : Bool) : Legible depth (.bool b)
  | int {depth : Nat} {n : Int} (low : -9223372036854775808 ≤ n) (high : n < 18446744073709551616) :
      Legible depth (.int n)
  | str {depth : Nat} (s : String) : Legible depth (.str s)
  | arr {depth : Nat} {items : List Json} (h : ∀ j ∈ items, Legible depth j) :
      Legible (depth + 1) (.arr items)
  | obj {depth : Nat} {fields : List (String × Json)} (h : ∀ e ∈ fields, Legible depth e.2) :
      Legible (depth + 1) (.obj fields)

/-- The character begins the text of a value. -/
abbrev Begins (c : Char) : Prop := isSpace c = false ∧ c ≠ ']' ∧ c ≠ '\x7d'

theorem begins_of_isDigit {c : Char} (h : c.isDigit = true) : Begins c := by
  refine ⟨?_, ?_, ?_⟩
  · cases hc : isSpace c with
    | false => rfl
    | true =>
      have hkinds : ((c = ' ' ∨ c = '\n') ∨ c = '\t') ∨ c = '\r' := by simpa [isSpace] using hc
      rcases hkinds with ((rfl | rfl) | rfl) | rfl <;> cases h
  · rintro rfl
    cases h
  · rintro rfl
    cases h

theorem skipSpace_cons {c : Char} {cs : List Char} (h : isSpace c = false) :
    skipSpace (c :: cs) = c :: cs := by
  unfold skipSpace
  rw [List.dropWhile_cons_of_neg (by simp [h])]

theorem exists_begin {depth : Nat} {j : Json} (h : Legible depth j) :
    ∃ c cs, j.compact = c :: cs ∧ Begins c := by
  cases h with
  | null => exact ⟨_, _, rfl, by decide⟩
  | bool b => cases b <;> exact ⟨_, _, rfl, by decide⟩
  | @int depth n low high =>
    rw [compact, intText]
    split
    · exact ⟨_, _, rfl, by decide⟩
    · obtain ⟨c, cs, hcs⟩ :=
        List.exists_cons_of_ne_nil (Nat.toDigits_ne_nil : Nat.toDigits 10 n.natAbs ≠ [])
      have hc : c.isDigit = true :=
        Nat.isDigit_of_mem_toDigits (by decide) (by decide) (hcs ▸ List.mem_cons_self)
      exact ⟨c, cs, hcs, begins_of_isDigit hc⟩
  | str s => exact ⟨_, _, rfl, by decide⟩
  | @arr depth items h => cases items <;> exact ⟨_, _, rfl, by decide⟩
  | @obj depth fields h => cases fields <;> exact ⟨_, _, rfl, by decide⟩

/-- A digit is the start of a number. -/
theorem value_of_isDigit {c : Char} {cs : List Char} {steps depth : Nat} (h : c.isDigit = true) :
    value (steps + 1) depth (c :: cs) = number false (c :: cs) := by
  rw [value, skipSpace_cons (begins_of_isDigit h).1]
  split
  case h_8 => rfl
  all_goals
    rename_i heq
    rw [(List.cons.inj heq).1] at h
    cases h

/-- A whole number of 64 bits is read back. -/
theorem value_int {steps depth : Nat} {n : Int} (hrest : Closes rest)
    (low : -9223372036854775808 ≤ n) (high : n < 18446744073709551616) :
    value (steps + 1) depth ((Json.int n).compact ++ rest) = some (.int n, rest) := by
  rw [compact, intText]
  split
  · rename_i hneg
    have hnumber : number true (Nat.toDigits 10 n.natAbs ++ rest) =
        some (.int (-(n.natAbs : Int)), rest) := by
      refine number_toDigits hrest ?_ fun _ => by omega
      show n.natAbs < 18446744073709551616
      omega
    rw [List.cons_append, value, skipSpace_cons (by decide)]
    show number true _ = _
    rw [hnumber]
    have hn : -(n.natAbs : Int) = n := by omega
    rw [hn]
  · rename_i hpos
    have hnumber : number false (Nat.toDigits 10 n.natAbs ++ rest) =
        some (.int (n.natAbs : Int), rest) := by
      refine number_toDigits hrest ?_ nofun
      show n.natAbs < 18446744073709551616
      omega
    have hn : (n.natAbs : Int) = n := by omega
    rw [hn] at hnumber
    rw [← hnumber]
    obtain ⟨c, cs, hcs⟩ :=
      List.exists_cons_of_ne_nil (Nat.toDigits_ne_nil : Nat.toDigits 10 n.natAbs ≠ [])
    have hc : c.isDigit = true :=
      Nat.isDigit_of_mem_toDigits (by decide) (by decide) (hcs ▸ List.mem_cons_self)
    rw [hcs]
    exact value_of_isDigit hc

/-- The text of a value is read back where there is room for some levels, in steps enough for
its characters. -/
def ReadBack (depth : Nat) (j : Json) : Prop :=
  ∀ (rest : List Char) (steps : Nat), Closes rest → 2 * j.compact.length ≤ steps →
    value steps depth (j.compact ++ rest) = some (.ofJson j, rest)

/-- The items of a list are read back one after the other. -/
theorem items_compact {depth : Nat} {j : Json} {l : List Json} (acc : List Source)
    (rest : List Char) (steps : Nat) (hj : ReadBack depth j) (hl : ∀ j' ∈ l, ReadBack depth j')
    (hsteps : 2 * (j.compact ++ compactItems l).length ≤ steps) :
    items steps (depth + 1) acc (j.compact ++ (compactItems l ++ rest)) =
      some (.arr (acc.reverse ++ Source.ofItems (j :: l)), rest) := by
  induction l generalizing j acc steps with
  | nil =>
    simp only [compactItems, List.length_append, List.length_cons, List.length_nil] at hsteps
    obtain ⟨steps, rfl⟩ : ∃ k, steps = k + 1 := ⟨steps - 1, by omega⟩
    rw [items, Nat.add_sub_cancel]
    have hread := hj (compactItems [] ++ rest) steps (closes_cons (by decide)) (by omega)
    rw [hread]
    simp [compactItems, skipSpace_cons (show isSpace ']' = false by decide), within, Source.ofItems]
  | cons j' l ih =>
    obtain ⟨hj', hl⟩ := List.forall_mem_cons.mp hl
    simp only [compactItems, List.length_append, List.length_cons] at hsteps
    obtain ⟨steps, rfl⟩ : ∃ k, steps = k + 1 := ⟨steps - 1, by omega⟩
    rw [items, Nat.add_sub_cancel]
    have hread := hj (compactItems (j' :: l) ++ rest) steps (closes_cons (by decide)) (by omega)
    have hrest := ih (.ofJson j :: acc) steps hj' hl (by rw [List.length_append]; omega)
    rw [hread]
    simp only [compactItems, List.cons_append, skipSpace_cons (show isSpace ',' = false by decide)]
    rw [List.append_assoc, hrest]
    simp [Source.ofItems]

/-- Fields whose names are all read make up an object. -/
theorem objectSource_named (fields : List (String × Source)) :
    objectSource (fields.map fun e => (some e.1, e.2)) = .obj fields.reverse := by
  have hmap : ∀ l : List (String × Source),
      (l.map fun e => (some e.1, e.2)).mapM (fun e : Option String × Source =>
        e.1.map fun name => (name, e.2)) = some l := by
    intro l
    induction l with
    | nil => rfl
    | cons e l ih => simp [List.mapM_cons, ih]
  unfold objectSource
  rw [← List.map_reverse, hmap]

theorem append_textLiteral (name : String) (cs : List Char) :
    textLiteral name ++ cs = '"' :: (name.toList.flatMap escapedChar ++ '"' :: cs) := by
  simp [textLiteral]

/-- The fields of an object are read back one after the other. -/
theorem members_compact {depth : Nat} (name : String) {j : Json} {l : List (String × Json)}
    (acc : List (String × Source)) (rest : List Char) (steps : Nat) (hj : ReadBack depth j)
    (hl : ∀ e ∈ l, ReadBack depth e.2)
    (hsteps : 2 * (textLiteral name ++ ':' :: (j.compact ++ compactFields l)).length ≤ steps) :
    members steps (depth + 1) (acc.map fun e => (some e.1, e.2))
        (textLiteral name ++ ':' :: (j.compact ++ (compactFields l ++ rest))) =
      some (.obj (acc.reverse ++ Source.ofFields ((name, j) :: l)), rest) := by
  induction l generalizing name j acc steps with
  | nil =>
    simp only [compactFields, List.length_append, List.length_cons, List.length_nil] at hsteps
    obtain ⟨steps, rfl⟩ : ∃ k, steps = k + 1 := ⟨steps - 1, by omega⟩
    rw [append_textLiteral, members, Nat.add_sub_cancel, skipSpace_cons (by decide)]
    have hread := hj (compactFields [] ++ rest) steps (closes_cons (by decide)) (by omega)
    have hobject := objectSource_named ((name, .ofJson j) :: acc)
    rw [List.map_cons] at hobject
    simp only [textRest_literal, skipSpace_cons (show isSpace ':' = false by decide)]
    rw [hread]
    simp only [compactFields, List.cons_append, List.nil_append,
      skipSpace_cons (show isSpace '\x7d' = false by decide)]
    rw [hobject]
    simp [within, Source.ofFields]
  | cons e l ih =>
    obtain ⟨name', j'⟩ := e
    obtain ⟨hj', hl⟩ := List.forall_mem_cons.mp hl
    simp only [compactFields, List.length_append, List.length_cons] at hsteps
    obtain ⟨steps, rfl⟩ : ∃ k, steps = k + 1 := ⟨steps - 1, by omega⟩
    rw [append_textLiteral, members, Nat.add_sub_cancel, skipSpace_cons (by decide)]
    have hread := hj (compactFields ((name', j') :: l) ++ rest) steps (closes_cons (by decide))
      (by omega)
    have hrest := ih name' ((name, .ofJson j) :: acc) steps hj' hl
      (by simp only [List.length_append, List.length_cons]; omega)
    rw [List.map_cons] at hrest
    simp only [textRest_literal, skipSpace_cons (show isSpace ':' = false by decide)]
    rw [hread]
    simp only [compactFields, List.cons_append, List.append_assoc,
      skipSpace_cons (show isSpace ',' = false by decide)]
    rw [hrest]
    simp [Source.ofFields]

/-- A text has a character, so the first step is always there. -/
theorem readBack_of_steps {depth : Nat} {j : Json} (hj : Legible depth j)
    (h : ∀ {rest : List Char} {steps : Nat}, Closes rest → 2 * j.compact.length ≤ steps + 1 →
      value (steps + 1) depth (j.compact ++ rest) = some (.ofJson j, rest)) : ReadBack depth j := by
  intro rest steps hrest hsteps
  obtain ⟨c, cs, hcs, -⟩ := exists_begin hj
  have hlength : j.compact.length = cs.length + 1 := by rw [hcs, List.length_cons]
  obtain ⟨steps, rfl⟩ : ∃ k, steps = k + 1 := ⟨steps - 1, by omega⟩
  exact h hrest hsteps

theorem value_arr {depth : Nat} {l : List Json} {steps : Nat}
    (hlegible : ∀ j ∈ l, Legible depth j) (hl : ∀ j ∈ l, ReadBack depth j)
    (hsteps : 2 * (Json.arr l).compact.length ≤ steps + 1) :
    value (steps + 1) (depth + 1) ((Json.arr l).compact ++ rest) =
      some (.arr (Source.ofItems l), rest) := by
  cases l with
  | nil =>
    rw [compact, List.cons_append, value, skipSpace_cons (by decide)]
    simp [skipSpace_cons (show isSpace ']' = false by decide), within, Source.ofItems]
  | cons j l =>
    obtain ⟨c, cs, hcs, hspace, hclosing, -⟩ := exists_begin (hlegible j List.mem_cons_self)
    obtain ⟨hj, hl⟩ := List.forall_mem_cons.mp hl
    rw [compact, List.length_cons] at hsteps
    have hitems := items_compact [] rest steps hj hl (by omega)
    rw [compact, List.cons_append, List.append_assoc, value, skipSpace_cons (by decide)]
    rw [hcs, List.cons_append] at hitems ⊢
    simp only [skipSpace_cons hspace]
    split
    · rename_i heq
      exact absurd (List.cons.inj heq).1 hclosing
    · exact hitems

theorem value_obj {depth : Nat} {l : List (String × Json)} {steps : Nat}
    (hl : ∀ e ∈ l, ReadBack depth e.2) (hsteps : 2 * (Json.obj l).compact.length ≤ steps + 1) :
    value (steps + 1) (depth + 1) ((Json.obj l).compact ++ rest) =
      some (.obj (Source.ofFields l), rest) := by
  cases l with
  | nil =>
    rw [compact, List.cons_append, value, skipSpace_cons (by decide)]
    simp [skipSpace_cons (show isSpace '\x7d' = false by decide), within, Source.ofFields]
  | cons e l =>
    obtain ⟨name, j⟩ := e
    have hj : ReadBack depth j := hl (name, j) List.mem_cons_self
    have hothers : ∀ e ∈ l, ReadBack depth e.2 := fun e he => hl e (List.mem_cons_of_mem _ he)
    rw [compact, List.length_cons] at hsteps
    have hmembers := members_compact name [] rest steps hj hothers (by omega)
    rw [List.map_nil] at hmembers
    rw [compact, List.cons_append, List.append_assoc, List.cons_append, List.append_assoc, value,
      skipSpace_cons (by decide)]
    rw [append_textLiteral] at hmembers ⊢
    simp only [skipSpace_cons (show isSpace '"' = false by decide)]
    exact hmembers

/-- **The text of a value is read back as the value.** -/
theorem readBack_of_legible {depth : Nat} {j : Json} (h : Legible depth j) : ReadBack depth j := by
  induction h with
  | null => exact readBack_of_steps .null fun _ _ => rfl
  | bool b => exact readBack_of_steps (.bool b) fun _ _ => by cases b <;> rfl
  | int low high =>
    exact readBack_of_steps (.int low high) fun hrest _ => value_int hrest low high
  | str s =>
    refine readBack_of_steps (.str s) fun _ _ => ?_
    rw [compact, append_textLiteral, value, skipSpace_cons (by decide)]
    simp only [textRest_literal]
    rfl
  | arr h ih => exact readBack_of_steps (.arr h) fun _ hsteps => value_arr h ih hsteps
  | obj h ih => exact readBack_of_steps (.obj h) fun _ hsteps => value_obj ih hsteps

/-- The whole text of a value is read as the value. -/
theorem parse?_compact {j : Json} (h : Legible nestingLimit j) :
    Source.parse? j.compact = some (.ofJson j) := by
  have hread := readBack_of_legible h [] (2 * j.compact.length + 2) closes_nil (by omega)
  rw [List.append_nil] at hread
  unfold Source.parse?
  rw [hread]
  rfl

end ControlPlane.Json
