/-
Duration texts as rows of parts.

The reader of durations adds each part to a sum as soon as its unit has ended.  Here the two are
taken apart.  `scan` reads the whole row of a text, its parts and what is wrong behind them, and
knows of no sum; `Row.total` adds up the parts of a row.  Since the reader never looks back at its
sum, nor a sum at the text, both together are the reader (`parse_eq`).

So what a text says and what it comes to are two questions, and all that follows on durations takes
them one at a time.

A scan reads or refuses, and never breaks off; only an addition can do that.

`Moved` lists what a scan can do with one character.  What holds of every scan is shown of these
moves first, such as that each number fits into 64 bits (`scan_numbers`).
-/
import ControlPlane.Duration.Parser
import Mathlib.Tactic.SplitIfs

namespace ControlPlane.Duration

open Text

theorem word_of_lt {n : Nat} (h : n < UInt64.size) : word n = .ok n := if_pos h

theorem word_of_not_lt {n : Nat} (h : ¬ n < UInt64.size) : word n = .error .numberOverflow := if_neg h

theorem of_word_bind {α : Type} {n : Nat} {f : Nat → Except DurationError α} {a : α}
    (h : (word n >>= f) = .ok a) : n < UInt64.size ∧ f n = .ok a := by
  by_cases hn : n < UInt64.size
  · rw [word_of_lt hn] at h
    exact ⟨hn, h⟩
  · rw [word_of_not_lt hn] at h
    cases h

/-- A number with its unit. -/
structure Part where
  n : Nat
  fraction : Option Fraction
  unit : String
deriving DecidableEq, Repr

/-- The part that has been read when its unit ends; the letters of the unit are held last first. -/
def Part.ofUnit (n : Nat) (f : Option Fraction) (letters : List Char) : Part :=
  ⟨n, f, String.ofList letters.reverse⟩

/-- The sum with a part added to it. -/
def Part.addTo (p : Part) (sum : Duration) : Fallible DurationError Duration :=
  addPart sum p.n p.fraction p.unit

/-- The parts of a text, and what is wrong behind them. -/
structure Row where
  parts : List Part
  fault : Option DurationError
deriving DecidableEq, Repr

namespace Row

/-- The row with one more part in front. -/
def cons (p : Part) (r : Row) : Row := { r with parts := p :: r.parts }

@[simp] theorem cons_parts (p : Part) (r : Row) : (r.cons p).parts = p :: r.parts := rfl

@[simp] theorem cons_fault (p : Part) (r : Row) : (r.cons p).fault = r.fault := rfl

/-- The parts added to a sum one after the other; what is wrong behind them is met last. -/
def total (r : Row) (sum : Duration) : Fallible DurationError Duration := do
  let sum ← r.parts.foldlM (fun sum p => p.addTo sum) sum
  match r.fault with
  | none => .ok sum
  | some e => .error e

end Row

/-! ### Scanning -/

/-- Takes one character, which stands at byte `pos` and is followed by byte `next`: the part that
it stands behind, if it does, and the place after it. -/
def move (place : Place) (c : Char) (pos next : Nat) : Except DurationError (Option Part × Place) :=
  match place with
  | .start =>
    match digit? c with
    | some d => .ok (none, .whole d)
    | none => if isBlank c then .ok (none, .start) else .error (.numberExpected 0)
  | .between since =>
    match digit? c with
    | some d => .ok (none, .whole d)
    | none => if isBlank c then .ok (none, .between since) else .error (.numberExpected since)
  | .whole n =>
    match digit? c with
    | some d => do .ok (none, .whole (← word (n * 10 + d)))
    | none =>
      if isBlank c then .ok (none, .whole n)
      else if isUnitLetter c then .ok (none, .unit n none [c])
      else if c = '.' then .ok (none, .decimals n ⟨0, 1⟩ pos)
      else .error (.invalidCharacter pos)
  | .decimals n f fault =>
    match digit? c with
    | some d => do
      let denominator ← word (f.denominator * 10)
      let numerator ← word (f.numerator * 10 + d)
      .ok (none, .decimals n ⟨numerator, denominator⟩ next)
    | none =>
      if isBlank c then .ok (none, .decimals n f next)
      else if isUnitLetter c && f.denominator ≠ 1 then .ok (none, .unit n (some f) [c])
      else .error (.invalidCharacter fault)
  | .unit n f letters =>
    match digit? c with
    | some d => .ok (some (.ofUnit n f letters), .whole d)
    | none =>
      if isBlank c then .ok (some (.ofUnit n f letters), .between next)
      else if isUnitLetter c then .ok (none, .unit n f (c :: letters))
      else .error (.invalidCharacter pos)

/-- What is left of a text that ends here. -/
def rest : Place → Row
  | .start => ⟨[], some .empty⟩
  | .between _ => ⟨[], none⟩
  | .whole n => ⟨[⟨n, none, ""⟩], none⟩
  | .decimals n f fault =>
    if f.denominator = 1 then ⟨[], some (.invalidCharacter fault)⟩ else ⟨[⟨n, some f, ""⟩], none⟩
  | .unit n f letters => ⟨[.ofUnit n f letters], none⟩

/-- The row of a text from byte `pos` on. -/
def scan : Place → Nat → List Char → Row
  | place, _, [] => rest place
  | place, pos, c :: cs =>
    match move place c pos (pos + c.utf8Size) with
    | .ok (none, place) => scan place (pos + c.utf8Size) cs
    | .ok (some p, place) => (scan place (pos + c.utf8Size) cs).cons p
    | .error e => ⟨[], some e⟩

/-- The row of a text without the white space around it. -/
def row (text : String) : Row := scan .start 0 (trim text.toList)

/-! ### Characters -/

theorem toNat_of_isUnitLetter {c : Char} (h : isUnitLetter c = true) :
    97 ≤ c.toNat ∧ c.toNat ≤ 122 ∨ 65 ≤ c.toNat ∧ c.toNat ≤ 90 ∨ c.toNat = 181 := by
  simp only [isUnitLetter, Bool.or_eq_true, Bool.and_eq_true, decide_eq_true_eq, beq_iff_eq] at h
  rcases h with (⟨hlow, hhigh⟩ | ⟨hlow, hhigh⟩) | rfl
  · exact Or.inl ⟨hlow, hhigh⟩
  · exact Or.inr (Or.inl ⟨hlow, hhigh⟩)
  · exact Or.inr (Or.inr rfl)

theorem toNat_of_digit? {c : Char} {d : Nat} (h : digit? c = some d) :
    48 ≤ c.toNat ∧ c.toNat ≤ 57 ∧ d = c.toNat - 48 := by
  unfold digit? at h
  by_cases hc : '0' ≤ c ∧ c ≤ '9'
  · rw [if_pos hc] at h
    exact ⟨hc.1, hc.2, (Option.some.inj h).symm⟩
  · rw [if_neg hc] at h
    cases h

theorem toNat_of_isBlank {c : Char} (h : isBlank c = true) :
    c.toNat ≤ 32 ∨ c.toNat = 133 ∨ c.toNat = 160 ∨ 5760 ≤ c.toNat := by
  simp only [isBlank, Bool.or_eq_true, Bool.and_eq_true, decide_eq_true_eq, beq_iff_eq] at h
  omega

/-- Neither a letter nor a point is white space. -/
theorem isBlank_eq_false {c : Char} (h : isUnitLetter c = true ∨ c = '.') : isBlank c = false := by
  rw [← Bool.not_eq_true]
  intro hblank
  have hrange := toNat_of_isBlank hblank
  rcases h with hletter | rfl
  · have hletter := toNat_of_isUnitLetter hletter
    omega
  · revert hrange
    decide

theorem digit?_eq_none {c : Char} (h : isBlank c = true ∨ isUnitLetter c = true ∨ c = '.') :
    digit? c = none := by
  cases hd : digit? c with
  | none => rfl
  | some d =>
      exfalso
      obtain ⟨hlow, hhigh, -⟩ := toNat_of_digit? hd
      rcases h with hblank | hletter | rfl
      · have hblank := toNat_of_isBlank hblank
        omega
      · have hletter := toNat_of_isUnitLetter hletter
        omega
      · revert hlow
        decide

/-! ### Steps -/

/-- What a step does with a character.  A digit goes on a number or begins the next one; white
space ends a unit and is passed over elsewhere; a letter goes on a unit or ends a number; a point
ends a whole number. -/
inductive Moved (c : Char) (pos next : Nat) : Place → Option Part → Place → Prop where
  | first {d : Nat} (hd : digit? c = some d) : Moved c pos next .start none (.whole d)
  | again {since d : Nat} (hd : digit? c = some d) :
      Moved c pos next (.between since) none (.whole d)
  | digit {n d : Nat} (hd : digit? c = some d) (hn : n * 10 + d < UInt64.size) :
      Moved c pos next (.whole n) none (.whole (n * 10 + d))
  | decimal {n d fault : Nat} {f : Fraction} (hd : digit? c = some d)
      (hdenominator : f.denominator * 10 < UInt64.size)
      (hnumerator : f.numerator * 10 + d < UInt64.size) :
      Moved c pos next (.decimals n f fault) none
        (.decimals n ⟨f.numerator * 10 + d, f.denominator * 10⟩ next)
  | next {n d : Nat} {f : Option Fraction} {letters : List Char} (hd : digit? c = some d) :
      Moved c pos next (.unit n f letters) (some (.ofUnit n f letters)) (.whole d)
  | blankStart (hc : isBlank c = true) : Moved c pos next .start none .start
  | blankBetween {since : Nat} (hc : isBlank c = true) :
      Moved c pos next (.between since) none (.between since)
  | blankWhole {n : Nat} (hc : isBlank c = true) : Moved c pos next (.whole n) none (.whole n)
  | blankDecimals {n fault : Nat} {f : Fraction} (hc : isBlank c = true) :
      Moved c pos next (.decimals n f fault) none (.decimals n f next)
  | blankUnit {n : Nat} {f : Option Fraction} {letters : List Char} (hc : isBlank c = true) :
      Moved c pos next (.unit n f letters) (some (.ofUnit n f letters)) (.between next)
  | unit {n : Nat} (hc : isUnitLetter c = true) :
      Moved c pos next (.whole n) none (.unit n none [c])
  | unitDecimals {n fault : Nat} {f : Fraction} (hc : isUnitLetter c = true)
      (hsome : f.denominator ≠ 1) :
      Moved c pos next (.decimals n f fault) none (.unit n (some f) [c])
  | letter {n : Nat} {f : Option Fraction} {letters : List Char} (hc : isUnitLetter c = true) :
      Moved c pos next (.unit n f letters) none (.unit n f (c :: letters))
  | point {n : Nat} (hc : c = '.') : Moved c pos next (.whole n) none (.decimals n ⟨0, 1⟩ pos)

section Moved

variable {place place' : Place} {c : Char} {pos next : Nat} {ended : Option Part} {e : DurationError}

theorem moved_of_move (h : move place c pos next = .ok (ended, place')) :
    Moved c pos next place ended place' := by
  unfold move at h
  split at h
  · split at h
    next d hd =>
      cases h
      exact .first hd
    next =>
      split_ifs at h with hblank
      cases h
      exact .blankStart hblank
  · split at h
    next d hd =>
      cases h
      exact .again hd
    next =>
      split_ifs at h with hblank
      cases h
      exact .blankBetween hblank
  · split at h
    next d hd =>
      obtain ⟨hn, h⟩ := of_word_bind h
      cases h
      exact .digit hd hn
    next =>
      split_ifs at h with hblank hletter hpoint
      · cases h
        exact .blankWhole hblank
      · cases h
        exact .unit hletter
      · cases h
        exact .point hpoint
  · split at h
    next d hd =>
      obtain ⟨hdenominator, h⟩ := of_word_bind h
      obtain ⟨hnumerator, h⟩ := of_word_bind h
      cases h
      exact .decimal hd hdenominator hnumerator
    next =>
      split_ifs at h with hblank hletter
      · cases h
        exact .blankDecimals hblank
      · rw [Bool.and_eq_true, decide_eq_true_eq] at hletter
        cases h
        exact .unitDecimals hletter.1 hletter.2
  · split at h
    next d hd =>
      cases h
      exact .next hd
    next =>
      split_ifs at h with hblank hletter
      · cases h
        exact .blankUnit hblank
      · cases h
        exact .letter hletter

theorem move_eq_ok_iff :
    move place c pos next = .ok (ended, place') ↔ Moved c pos next place ended place' := by
  refine ⟨moved_of_move, ?_⟩
  intro h
  cases h with
  | first hd => simp [move, hd]
  | again hd => simp [move, hd]
  | digit hd hn => simp [move, hd, word_of_lt hn, bind, Except.bind]
  | decimal hd hdenominator hnumerator =>
      simp [move, hd, word_of_lt hdenominator, word_of_lt hnumerator, bind, Except.bind]
  | next hd => simp [move, hd]
  | blankStart hc => simp [move, digit?_eq_none (Or.inl hc), hc]
  | blankBetween hc => simp [move, digit?_eq_none (Or.inl hc), hc]
  | blankWhole hc => simp [move, digit?_eq_none (Or.inl hc), hc]
  | blankDecimals hc => simp [move, digit?_eq_none (Or.inl hc), hc]
  | blankUnit hc => simp [move, digit?_eq_none (Or.inl hc), hc]
  | unit hc => simp [move, digit?_eq_none (Or.inr (Or.inl hc)), isBlank_eq_false (Or.inl hc), hc]
  | unitDecimals hc hsome =>
      simp [move, digit?_eq_none (Or.inr (Or.inl hc)), isBlank_eq_false (Or.inl hc), hc, hsome]
  | letter hc =>
      simp [move, digit?_eq_none (Or.inr (Or.inl hc)), isBlank_eq_false (Or.inl hc), hc]
  | point hc =>
      rw [hc]
      rfl

theorem scan_of_moved (h : Moved c pos (pos + c.utf8Size) place none place') (cs : List Char) :
    scan place pos (c :: cs) = scan place' (pos + c.utf8Size) cs := by
  rw [scan, move_eq_ok_iff.mpr h]

theorem scan_of_ended {p : Part} (h : Moved c pos (pos + c.utf8Size) place (some p) place')
    (cs : List Char) :
    scan place pos (c :: cs) = (scan place' (pos + c.utf8Size) cs).cons p := by
  rw [scan, move_eq_ok_iff.mpr h]

/-- A scan goes on, or hands a part on first, or ends. -/
theorem scan_cons_cases (place : Place) (pos : Nat) (c : Char) (cs : List Char) :
    (∃ place', Moved c pos (pos + c.utf8Size) place none place' ∧
        scan place pos (c :: cs) = scan place' (pos + c.utf8Size) cs) ∨
      (∃ p place', Moved c pos (pos + c.utf8Size) place (some p) place' ∧
        scan place pos (c :: cs) = (scan place' (pos + c.utf8Size) cs).cons p) ∨
      ∃ e, move place c pos (pos + c.utf8Size) = .error e ∧
        scan place pos (c :: cs) = ⟨[], some e⟩ := by
  rw [scan]
  cases hmove : move place c pos (pos + c.utf8Size) with
  | error e => exact Or.inr (Or.inr ⟨e, rfl, rfl⟩)
  | ok moved =>
      obtain ⟨ended, place'⟩ := moved
      cases ended with
      | none => exact Or.inl ⟨place', moved_of_move hmove, rfl⟩
      | some p => exact Or.inr (Or.inl ⟨p, place', moved_of_move hmove, rfl⟩)

end Moved

/-! ### The numbers of a text -/

/-- Numerator and denominator, if there is a fraction. -/
def Fraction.numbers (f : Option Fraction) : List Nat :=
  f.toList.flatMap fun f => [f.numerator, f.denominator]

/-- The numbers that are held at a place. -/
def Place.numbers : Place → List Nat
  | .start | .between _ => []
  | .whole n => [n]
  | .decimals n f _ => n :: Fraction.numbers (some f)
  | .unit n f _ => n :: Fraction.numbers f

/-- The numbers that are read for a part. -/
def Part.read (p : Part) : List Nat := p.n :: Fraction.numbers p.fraction

section Numbers

variable {place place' : Place} {c : Char} {pos next : Nat} {ended : Option Part}

/-- What is held stays within 64 bits with every character, and so does what is handed on. -/
theorem Moved.numbers (h : Moved c pos next place ended place')
    (hplace : ∀ n ∈ place.numbers, n < UInt64.size) :
    (∀ n ∈ place'.numbers, n < UInt64.size) ∧
      ∀ p ∈ ended, ∀ n ∈ p.read, n < UInt64.size := by
  cases h with
  | first hd | again hd =>
      obtain ⟨hlow, hhigh, hd⟩ := toNat_of_digit? hd
      have hword : UInt64.size = 18446744073709551616 := rfl
      exact ⟨List.forall_mem_singleton.mpr (by omega), nofun⟩
  | digit hd hn => exact ⟨List.forall_mem_singleton.mpr hn, nofun⟩
  | decimal hd hdenominator hnumerator =>
      obtain ⟨hn, -⟩ := List.forall_mem_cons.mp hplace
      refine ⟨List.forall_mem_cons.mpr ⟨hn, List.forall_mem_cons.mpr ⟨hnumerator, ?_⟩⟩, nofun⟩
      exact List.forall_mem_singleton.mpr hdenominator
  | next hd =>
      obtain ⟨hlow, hhigh, hd⟩ := toNat_of_digit? hd
      have hword : UInt64.size = 18446744073709551616 := rfl
      refine ⟨List.forall_mem_singleton.mpr (by omega), ?_⟩
      intro p hp
      cases hp
      exact hplace
  | blankUnit hc =>
      refine ⟨nofun, ?_⟩
      intro p hp
      cases hp
      exact hplace
  | point hc =>
      obtain ⟨hn, -⟩ := List.forall_mem_cons.mp hplace
      exact ⟨List.forall_mem_cons.mpr ⟨hn, by decide⟩, nofun⟩
  | blankStart | blankBetween | blankWhole | blankDecimals | unit | unitDecimals | letter =>
      exact ⟨hplace, nofun⟩

theorem rest_numbers (hplace : ∀ n ∈ place.numbers, n < UInt64.size) :
    ∀ p ∈ (rest place).parts, ∀ n ∈ p.read, n < UInt64.size := by
  cases place with
  | start | between => exact nofun
  | whole n | unit n f letters => exact List.forall_mem_singleton.mpr hplace
  | decimals n f fault =>
      simp only [rest]
      by_cases hnone : f.denominator = 1
      · rw [if_pos hnone]
        exact nofun
      · rw [if_neg hnone]
        exact List.forall_mem_singleton.mpr hplace

/-- All numbers that are read fit into 64 bits. -/
theorem scan_numbers (cs : List Char) (hplace : ∀ n ∈ place.numbers, n < UInt64.size) :
    ∀ p ∈ (scan place pos cs).parts, ∀ n ∈ p.read, n < UInt64.size := by
  induction cs generalizing place pos with
  | nil => exact rest_numbers hplace
  | cons c cs ih =>
      rcases scan_cons_cases place pos c cs with
        ⟨place', hmoved, hscan⟩ | ⟨p, place', hmoved, hscan⟩ | ⟨e, -, hscan⟩
      · rw [hscan]
        exact ih (hmoved.numbers hplace).1
      · obtain ⟨hplace', hp⟩ := hmoved.numbers hplace
        rw [hscan]
        exact List.forall_mem_cons.mpr ⟨hp p rfl, ih hplace'⟩
      · rw [hscan]
        exact nofun

end Numbers

/-! ### The reader is a scan and a sum -/

theorem total_cons (p : Part) (r : Row) (sum : Duration) :
    (r.cons p).total sum = p.addTo sum >>= r.total := by
  unfold Row.total
  rw [Row.cons_parts, Row.cons_fault, List.foldlM_cons]
  cases p.addTo sum <;> rfl

theorem total_single (p : Part) (sum : Duration) : (Row.mk [p] none).total sum = p.addTo sum := by
  rw [show Row.mk [p] none = (Row.mk [] none).cons p from rfl, total_cons]
  cases p.addTo sum <;> rfl

/-- A step of the reader moves it, and adds the part that ends there. -/
theorem step_eq (sum : Duration) (place : Place) (c : Char) (pos next : Nat) :
    step sum place c pos next =
      match move place c pos next with
      | .ok (none, place) => .ok (sum, place)
      | .ok (some p, place) => do .ok (← p.addTo sum, place)
      | .error e => .error e := by
  cases place with
  | start =>
      simp only [step, move]
      cases digit? c with
      | some d => rfl
      | none => by_cases hb : isBlank c <;> simp [hb]
  | between since =>
      simp only [step, move]
      cases digit? c with
      | some d => rfl
      | none => by_cases hb : isBlank c <;> simp [hb]
  | whole n =>
      simp only [step, move]
      cases digit? c with
      | some d =>
          dsimp only
          cases word (n * 10 + d) <;> rfl
      | none => dsimp only; split_ifs <;> rfl
  | decimals n f fault =>
      simp only [step, move]
      cases digit? c with
      | some d =>
          dsimp only
          cases word (f.denominator * 10) with
          | error e => rfl
          | ok denominator => cases word (f.numerator * 10 + d) <;> rfl
      | none => dsimp only; split_ifs <;> rfl
  | unit n f letters =>
      simp only [step, move, Part.addTo, Part.ofUnit]
      cases digit? c with
      | some d => rfl
      | none => dsimp only; split_ifs <;> rfl

theorem finish_eq (sum : Duration) (place : Place) : finish sum place = (rest place).total sum := by
  cases place with
  | start => rfl
  | between since => rfl
  | whole n => exact (total_single ⟨n, none, ""⟩ sum).symm
  | decimals n f fault =>
      simp only [finish, rest]
      by_cases hden : f.denominator = 1
      · rw [if_pos hden, if_pos hden]
        rfl
      · rw [if_neg hden, if_neg hden]
        exact (total_single ⟨n, some f, ""⟩ sum).symm
  | unit n f letters => exact (total_single (.ofUnit n f letters) sum).symm

/-- Reading is scanning and adding up, from any place on. -/
theorem readFrom_eq (cs : List Char) (sum : Duration) (place : Place) (pos : Nat) :
    readFrom sum place pos cs = (scan place pos cs).total sum := by
  induction cs generalizing sum place pos with
  | nil => exact finish_eq sum place
  | cons c cs ih =>
      rw [readFrom, scan, step_eq]
      cases move place c pos (pos + c.utf8Size) with
      | error e => rfl
      | ok moved =>
          obtain ⟨ended, place⟩ := moved
          cases ended with
          | none => exact ih sum place _
          | some p =>
              dsimp only
              rw [total_cons]
              cases p.addTo sum with
              | ok sum => exact ih sum place _
              | error e => rfl
              | abort => rfl

/-- **A duration is the total of its row.**  Only a bare zero has no unit. -/
theorem parse_eq (text : String) :
    parse text = if trim text.toList = ['0'] then .ok zero else (row text).total zero := by
  unfold parse
  split
  next hzero => rw [if_pos hzero]
  next hother =>
    rw [if_neg hother, readFrom_eq]
    rfl

end ControlPlane.Duration
