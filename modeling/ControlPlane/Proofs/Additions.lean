/-
What a duration text asks to be added up, in words of 64 bits.

A part of a row asks for one addition, and for a second one if it has decimals.  Each is of whole
seconds or of nanoseconds, and may be refused before it is made: a product may be too large, or
decimals not come out even.  `Part.demands` lists these, so a row is a list of demands, and to total
it is to make one addition after the other (`total_eq`).

An addition has three ends (`addParts_cases`).  It comes to the exact sum, it overflows, or it
fills up a whole second behind the last second that can be counted.  The first two are what the
reader has in mind; at the third it breaks off.  A list of additions therefore has the exact total
of its items, or stops at the first that is refused or that does not fit.

Units of an hour and more have their decimals counted in seconds and others in nanoseconds, but this
only decides what is refused.  What is granted is as long as the part says (`Part.worth`), so a text
that is read comes to what its parts are worth (`worth_of_parse`).
-/
import ControlPlane.Proofs.Rows
import Mathlib.Tactic.Ring

namespace ControlPlane.Duration

/-! ### Demands -/

/-- Seconds and nanoseconds that are added to a sum. -/
structure Addition where
  seconds : Nat
  nanos : Nat
deriving DecidableEq, Repr

/-- What an addition makes a sum longer by, in nanoseconds. -/
def Addition.value (a : Addition) : Nat := a.seconds * nanosPerSecond + a.nanos

/-- An addition, or why it cannot be asked for. -/
abbrev Demand := Except DurationError Addition

/-- A whole number of units. -/
def TimeUnit.whole (u : TimeUnit) (n : Nat) : Demand :=
  if u.isSubsecond then do .ok ⟨0, ← word (n * u.nanos)⟩
  else do .ok ⟨← word (n * (u.nanos / nanosPerSecond)), 0⟩

/-- The decimals of a number of units. -/
def TimeUnit.decimals (u : TimeUnit) (f : Fraction) : Demand :=
  if u = .nanosecond then .error .numberOverflow
  else if u.isFine then do
    let product ← word (f.numerator * u.nanos)
    .ok ⟨0, ← exactDiv product f.denominator⟩
  else do
    let product ← word (f.numerator * (u.nanos / nanosPerSecond))
    .ok ⟨← exactDiv product f.denominator, 0⟩

/-- What a whole number of units is multiplied by. -/
def TimeUnit.wholeScale (u : TimeUnit) : Nat :=
  if u.isSubsecond then u.nanos else u.nanos / nanosPerSecond

/-- What the decimals of a number of units are multiplied by. -/
def TimeUnit.decimalsScale (u : TimeUnit) : Nat :=
  if u.isFine then u.nanos else u.nanos / nanosPerSecond

/-- What a part asks to be added. -/
def Part.demands (p : Part) : List Demand :=
  match TimeUnit.ofText? p.unit with
  | none => [.error (.unknownUnit p.unit p.n)]
  | some u => u.whole p.n :: p.fraction.toList.map u.decimals

/-- What a row asks to be added; what is wrong behind its parts comes last. -/
def Row.demands (r : Row) : List Demand :=
  r.parts.flatMap Part.demands ++ r.fault.toList.map .error

/-- Makes additions, up to the first that is refused or does not fit. -/
def addAll : Duration → List Demand → Fallible DurationError Duration
  | sum, [] => .ok sum
  | _, .error e :: _ => .error e
  | sum, .ok a :: ds => do addAll (← addParts sum a.seconds a.nanos) ds

/-- What a text asks to be added; a bare zero asks for nothing. -/
def demands (text : String) : List Demand :=
  if Text.trim text.toList = ['0'] then [] else (row text).demands

/-! ### Totals are made of demands -/

section Bind

variable {α β ε : Type}

theorem ok_bind (a : α) (f : α → Except ε β) : (Except.ok a >>= f) = f a := rfl

theorem error_bind (e : ε) (f : α → Except ε β) : (Except.error e >>= f) = .error e := rfl

end Bind

variable {sum d : Duration} {a : Addition} {e : DurationError} {ds : List Demand} {n : Nat}

theorem addAll_append (sum : Duration) (before after : List Demand) :
    addAll sum (before ++ after) = addAll sum before >>= fun sum => addAll sum after := by
  induction before generalizing sum with
  | nil => rfl
  | cons d before ih =>
      cases d with
      | error e => rfl
      | ok a =>
          simp only [List.cons_append, addAll]
          cases addParts sum a.seconds a.nanos with
          | ok sum => exact ih sum
          | error e => rfl
          | abort => rfl

theorem addAll_ok (sum : Duration) (a : Addition) :
    addAll sum [.ok a] = addParts sum a.seconds a.nanos := by
  rw [addAll]
  cases addParts sum a.seconds a.nanos <;> rfl

theorem addWhole_eq (sum : Duration) (u : TimeUnit) (n : Nat) :
    addWhole sum u n = addAll sum [u.whole n] := by
  unfold addWhole TimeUnit.whole
  by_cases hu : u.isSubsecond
  · rw [if_pos hu, if_pos hu]
    cases word (n * u.nanos) with
    | error e => rfl
    | ok nanos => rw [Fallible.lift_ok, Fallible.ok_bind, ok_bind, addAll_ok]
  · rw [if_neg hu, if_neg hu]
    cases word (n * (u.nanos / nanosPerSecond)) with
    | error e => rfl
    | ok seconds => rw [Fallible.lift_ok, Fallible.ok_bind, ok_bind, addAll_ok]

theorem addFraction_eq (sum : Duration) (u : TimeUnit) (f : Fraction) :
    addFraction sum u f = addAll sum [u.decimals f] := by
  unfold addFraction TimeUnit.decimals
  by_cases hnano : u = .nanosecond
  · rw [if_pos hnano, if_pos hnano]
    rfl
  rw [if_neg hnano, if_neg hnano]
  by_cases hfine : u.isFine
  · rw [if_pos hfine, if_pos hfine]
    cases word (f.numerator * u.nanos) with
    | error e => rfl
    | ok product =>
        rw [Fallible.lift_ok, Fallible.ok_bind, ok_bind]
        cases exactDiv product f.denominator with
        | error e => rfl
        | ok nanos => rw [Fallible.lift_ok, Fallible.ok_bind, ok_bind, addAll_ok]
  · rw [if_neg hfine, if_neg hfine]
    cases word (f.numerator * (u.nanos / nanosPerSecond)) with
    | error e => rfl
    | ok product =>
        rw [Fallible.lift_ok, Fallible.ok_bind, ok_bind]
        cases exactDiv product f.denominator with
        | error e => rfl
        | ok seconds => rw [Fallible.lift_ok, Fallible.ok_bind, ok_bind, addAll_ok]

theorem addTo_eq (p : Part) (sum : Duration) : p.addTo sum = addAll sum p.demands := by
  unfold Part.addTo addPart Part.demands
  cases TimeUnit.ofText? p.unit with
  | none => rfl
  | some u =>
      dsimp only
      have hsplit := addAll_append sum [u.whole p.n] (p.fraction.toList.map u.decimals)
      rw [List.singleton_append] at hsplit
      rw [hsplit, addWhole_eq]
      cases addAll sum [u.whole p.n] with
      | error e => rfl
      | abort => rfl
      | ok sum =>
          cases p.fraction with
          | none => rfl
          | some f => exact addFraction_eq sum u f

theorem demands_cons (p : Part) (parts : List Part) (fault : Option DurationError) :
    (Row.mk (p :: parts) fault).demands = p.demands ++ (Row.mk parts fault).demands := by
  rw [Row.demands, List.flatMap_cons, List.append_assoc]
  rfl

theorem total_eq (r : Row) (sum : Duration) : r.total sum = addAll sum r.demands := by
  obtain ⟨parts, fault⟩ := r
  induction parts generalizing sum with
  | nil => cases fault <;> rfl
  | cons p parts ih =>
      have hcons : (Row.mk (p :: parts) fault).total sum = (Row.cons p ⟨parts, fault⟩).total sum := rfl
      rw [hcons, total_cons, demands_cons, addAll_append, ← addTo_eq]
      cases p.addTo sum with
      | error e => rfl
      | abort => rfl
      | ok sum => exact ih sum

/-- **Reading a duration is adding up what its text demands.** -/
theorem parse_eq_addAll (text : String) : parse text = addAll zero (demands text) := by
  rw [parse_eq, demands]
  by_cases hzero : Text.trim text.toList = ['0']
  · rw [if_pos hzero, if_pos hzero]
    rfl
  · rw [if_neg hzero, if_neg hzero, total_eq]

/-! ### One addition -/

/-- An addition that fills up a whole second behind the last second that can be counted. -/
def Spills (sum : Duration) (a : Addition) : Prop :=
  sum.seconds + a.seconds + 1 = UInt64.size ∧ sum.subsecNanos + a.nanos = nanosPerSecond

instance (sum : Duration) (a : Addition) : Decidable (Spills sum a) :=
  inferInstanceAs (Decidable (_ ∧ _))

/-- The sum that an addition comes to. -/
def plus (sum : Duration) (a : Addition) : Duration := ⟨sum.nanos + a.value⟩

/-- An addition whose sum is in range, as is the sum of the nanoseconds alone. -/
def Fits (sum : Duration) (a : Addition) : Prop :=
  (sum.plus a).InRange ∧ sum.subsecNanos + a.nanos < UInt64.size

instance (sum : Duration) (a : Addition) : Decidable (Fits sum a) :=
  inferInstanceAs (Decidable (_ ∧ _))

/-- Seconds and nanoseconds are in range unless they are a full second too many. -/
theorem inRange_ofParts_iff {seconds nanos : Nat} (h : nanos ≤ nanosPerSecond) :
    (ofParts seconds nanos).InRange ↔
      seconds < UInt64.size ∧ (nanos < nanosPerSecond ∨ seconds + 1 < UInt64.size) := by
  have hsecond : nanosPerSecond = 1000000000 := rfl
  show seconds * nanosPerSecond + nanos < UInt64.size * nanosPerSecond ↔ _
  rw [hsecond] at h ⊢
  omega

theorem nanos_eq (d : Duration) : d.nanos = d.seconds * nanosPerSecond + d.subsecNanos :=
  (congrArg Duration.nanos (ofParts_seconds_subsecNanos d)).symm

/-- What is carried, and what is left: a full second is left only if it is all there is. -/
theorem exists_carry (n : Nat) : ∃ carry rest,
    (if nanosPerSecond < n then n / nanosPerSecond else 0) = carry ∧
    (if nanosPerSecond < n then n % nanosPerSecond else n) = rest ∧
    n = carry * nanosPerSecond + rest ∧ rest ≤ nanosPerSecond ∧
    (carry = 0 ∨ rest < nanosPerSecond ∧ nanosPerSecond < n) := by
  by_cases hmore : nanosPerSecond < n
  · have hrest := Nat.mod_lt n (show 0 < nanosPerSecond by decide)
    exact ⟨_, _, if_pos hmore, if_pos hmore, (Nat.div_add_mod' n nanosPerSecond).symm,
      Nat.le_of_lt hrest, Or.inr ⟨hrest, hmore⟩⟩
  · exact ⟨_, _, if_neg hmore, if_neg hmore, by omega, Nat.le_of_not_lt hmore, Or.inl rfl⟩

theorem ofParts_carried {carry rest : Nat}
    (h : a.nanos + sum.subsecNanos = carry * nanosPerSecond + rest) :
    ofParts (a.seconds + carry + sum.seconds) rest = sum.plus a := by
  refine congrArg Duration.mk ?_
  calc (a.seconds + carry + sum.seconds) * nanosPerSecond + rest
      = (sum.seconds + a.seconds) * nanosPerSecond + (carry * nanosPerSecond + rest) := by ring
    _ = (sum.seconds + a.seconds) * nanosPerSecond + (a.nanos + sum.subsecNanos) := by rw [h]
    _ = sum.seconds * nanosPerSecond + sum.subsecNanos + (a.seconds * nanosPerSecond + a.nanos) := by
      ring
    _ = sum.nanos + a.value := by rw [← nanos_eq]; rfl

/-- An addition comes to the exact sum, which is in range, or it spills over and breaks off, or its
overflow is reported. -/
theorem addParts_cases (sum : Duration) (a : Addition) :
    (addParts sum a.seconds a.nanos = .ok (sum.plus a) ∧ Fits sum a) ∨
      (addParts sum a.seconds a.nanos = .abort ∧ Spills sum a) ∨
      (addParts sum a.seconds a.nanos = .error .numberOverflow ∧ ¬ Spills sum a ∧
        ¬ Fits sum a) := by
  obtain ⟨carry, rest, hcarry, hrest, hsplit, hfull⟩ := exists_carry (a.nanos + sum.subsecNanos)
  have hrange := @inRange_ofParts_iff (a.seconds + carry + sum.seconds) rest hfull.1
  -- Numerals, so that the sums below are linear.
  have hsecond : nanosPerSecond = 1000000000 := rfl
  have hword : UInt64.size = 18446744073709551616 := rfl
  unfold Fits Spills addParts
  rw [← ofParts_carried hsplit, hrange]
  rw [hsecond] at hsplit hfull
  dsimp only
  by_cases hn : a.nanos + sum.subsecNanos < UInt64.size
  · rw [word_of_lt hn, Fallible.lift_ok, Fallible.ok_bind, hcarry, hrest]
    by_cases hfirst : a.seconds + carry < UInt64.size
    · rw [word_of_lt hfirst, Fallible.lift_ok, Fallible.ok_bind]
      by_cases hboth : a.seconds + carry + sum.seconds < UInt64.size
      · rw [word_of_lt hboth, Fallible.lift_ok, Fallible.ok_bind]
        by_cases hfits : rest < nanosPerSecond ∨ a.seconds + carry + sum.seconds + 1 < UInt64.size
        · rw [if_pos (hrange.mpr ⟨hboth, hfits⟩)]
          exact Or.inl ⟨rfl, ⟨hboth, hfits⟩, by omega⟩
        · rw [if_neg fun h => hfits (hrange.mp h).2]
          exact Or.inr (Or.inl ⟨rfl, by omega, by omega⟩)
      · rw [word_of_not_lt hboth]
        exact Or.inr (Or.inr ⟨rfl, by omega, by omega⟩)
    · rw [word_of_not_lt hfirst]
      exact Or.inr (Or.inr ⟨rfl, by omega, by omega⟩)
  · rw [word_of_not_lt hn]
    exact Or.inr (Or.inr ⟨rfl, by omega, by omega⟩)

/-- What spills over is exactly the first duration out of range. -/
theorem plus_nanos_of_spills (h : Spills sum a) :
    (sum.plus a).nanos = UInt64.size * nanosPerSecond := by
  calc (sum.plus a).nanos
      = (sum.seconds + a.seconds) * nanosPerSecond + (sum.subsecNanos + a.nanos) := by
        show sum.nanos + (a.seconds * nanosPerSecond + a.nanos) = _
        rw [nanos_eq sum]
        ring
    _ = (sum.seconds + a.seconds + 1) * nanosPerSecond := by
        rw [h.2]
        ring
    _ = UInt64.size * nanosPerSecond := by rw [h.1]

theorem not_spills_of_fits (h : Fits sum a) : ¬ Spills sum a := by
  intro hspills
  have hrange : (sum.plus a).nanos < UInt64.size * nanosPerSecond := h.1
  rw [plus_nanos_of_spills hspills] at hrange
  exact Nat.lt_irrefl _ hrange

/-! ### A list of additions -/

/-- The additions fit one after the other. -/
def AllFit : Duration → List Addition → Prop
  | _, [] => True
  | sum, a :: as => Fits sum a ∧ AllFit (sum.plus a) as

/-- The additions fit up to one that spills over. -/
def Spilling (sum : Duration) (ds : List Demand) : Prop :=
  ∃ (before : List Addition) (a : Addition) (after : List Demand),
    ds = before.map .ok ++ .ok a :: after ∧ AllFit sum before ∧ Spills (before.foldl plus sum) a

theorem inRange_foldl {as : List Addition} (hsum : sum.InRange) (h : AllFit sum as) :
    (as.foldl plus sum).InRange := by
  induction as generalizing sum with
  | nil => exact hsum
  | cons a as ih => exact ih h.1.1 h.2

theorem foldl_plus_nanos (sum : Duration) (as : List Addition) :
    (as.foldl plus sum).nanos = sum.nanos + (as.map Addition.value).sum := by
  induction as generalizing sum with
  | nil => rfl
  | cons a as ih =>
      rw [List.foldl_cons, ih, List.map_cons, List.sum_cons]
      exact Nat.add_assoc ..

theorem spilling_cons_iff (sum : Duration) (a : Addition) (ds : List Demand) :
    Spilling sum (.ok a :: ds) ↔ Spills sum a ∨ Fits sum a ∧ Spilling (sum.plus a) ds := by
  constructor
  · intro h
    obtain ⟨before, b, after, hds, hfit, hspills⟩ := h
    cases before with
    | nil =>
        obtain ⟨hab, -⟩ := List.cons.inj hds
        cases hab
        exact Or.inl hspills
    | cons c before =>
        obtain ⟨hac, htail⟩ := List.cons.inj hds
        cases hac
        exact Or.inr ⟨hfit.1, before, b, after, htail, hfit.2, hspills⟩
  · intro h
    rcases h with hspills | ⟨hfits, before, b, after, hds, hfit, hspills⟩
    · exact ⟨[], a, ds, rfl, trivial, hspills⟩
    · exact ⟨a :: before, b, after, by rw [hds]; rfl, ⟨hfits, hfit⟩, hspills⟩

/-- Additions come to the exact total of all that is asked for, if that is made and fits. -/
theorem addAll_eq_ok (h : addAll sum ds = .ok d) :
    ∃ as : List Addition, ds = as.map .ok ∧ AllFit sum as ∧ d = as.foldl plus sum := by
  induction ds generalizing sum with
  | nil =>
      cases h
      exact ⟨[], rfl, trivial, rfl⟩
  | cons demand ds ih =>
      cases demand with
      | error e => cases h
      | ok a =>
          rw [addAll] at h
          rcases addParts_cases sum a with ⟨hsum, hfits⟩ | ⟨hsum, -⟩ | ⟨hsum, -, -⟩
          · rw [hsum] at h
            obtain ⟨as, hds, hfit, hd⟩ := ih h
            exact ⟨a :: as, by rw [hds]; rfl, ⟨hfits, hfit⟩, hd⟩
          · rw [hsum] at h
            cases h
          · rw [hsum] at h
            cases h

theorem addAll_of_allFit {as : List Addition} (h : AllFit sum as) :
    addAll sum (as.map .ok) = .ok (as.foldl plus sum) := by
  induction as generalizing sum with
  | nil => rfl
  | cons a as ih =>
      obtain ⟨hfits, hall⟩ := h
      rw [List.map_cons, addAll]
      rcases addParts_cases sum a with ⟨hsum, -⟩ | ⟨-, hspills⟩ | ⟨-, -, hnot⟩
      · rw [hsum]
        exact ih hall
      · exact absurd hspills (not_spills_of_fits hfits)
      · exact absurd hfits hnot

/-- What stays within 64 bits in nanoseconds fits by far. -/
theorem allFit_of_lt {as : List Addition}
    (h : sum.nanos + (as.map Addition.value).sum < UInt64.size) : AllFit sum as := by
  induction as generalizing sum with
  | nil => trivial
  | cons a as ih =>
      rw [List.map_cons, List.sum_cons] at h
      have hsub : sum.subsecNanos ≤ sum.nanos := Nat.mod_le ..
      have hvalue : a.nanos ≤ a.value := Nat.le_add_left ..
      have hplus : (sum.plus a).nanos = sum.nanos + a.value := rfl
      refine ⟨⟨?_, by omega⟩, ih (by omega)⟩
      show (sum.plus a).nanos < UInt64.size * nanosPerSecond
      have hword : UInt64.size ≤ UInt64.size * nanosPerSecond := Nat.le_mul_of_pos_right _ (by decide)
      omega

/-- Additions break off at one that spills over, and nowhere else. -/
theorem addAll_eq_abort_iff : addAll sum ds = .abort ↔ Spilling sum ds := by
  induction ds generalizing sum with
  | nil =>
      constructor
      · intro h
        cases h
      · intro h
        obtain ⟨before, a, after, hnil, -⟩ := h
        simp at hnil
  | cons demand ds ih =>
      cases demand with
      | error e =>
          constructor
          · intro h
            cases h
          · intro h
            obtain ⟨before, a, after, hcons, -⟩ := h
            cases before <;> cases hcons
      | ok a =>
          rw [spilling_cons_iff, addAll]
          rcases addParts_cases sum a with ⟨hsum, hfits⟩ | ⟨hsum, hspills⟩ | ⟨hsum, hspills, hfits⟩
          · have hnot := not_spills_of_fits hfits
            rw [hsum]
            simp only [hnot, hfits, false_or, true_and]
            exact ih
          · rw [hsum]
            simp only [hspills, true_or, Fallible.abort_bind]
          · rw [hsum]
            simp only [hspills, hfits, false_and, or_self, iff_false]
            intro h
            cases h

/-! ### What a row is worth -/

/-- The length of a part in nanoseconds.  Without a unit it has none. -/
def Part.worth (p : Part) : Nat :=
  match TimeUnit.ofText? p.unit with
  | none => 0
  | some u =>
    p.n * u.nanos + (p.fraction.toList.map fun f => f.numerator * u.nanos / f.denominator).sum

/-- The part has a unit, and its decimals come out even. -/
def Part.Measured (p : Part) : Prop :=
  ∃ u, TimeUnit.ofText? p.unit = some u ∧ ∀ f ∈ p.fraction, f.denominator ∣ f.numerator * u.nanos

section Worth

variable {u : TimeUnit} {f : Fraction} {p : Part} {r : Row} {as : List Addition} {text : String}

/-- Units that are counted in seconds are made of whole ones. -/
theorem seconds_nanos (h : ¬ u.isFine = true ∨ ¬ u.isSubsecond = true) :
    u.nanos / nanosPerSecond * nanosPerSecond = u.nanos := by
  cases u <;> revert h <;> decide

/-- A whole number of units is granted, with its exact length, if the product fits. -/
theorem whole_cases (u : TimeUnit) (n : Nat) :
    (∃ a, u.whole n = .ok a ∧ n * u.wholeScale < UInt64.size ∧ a.value = n * u.nanos) ∨
      u.whole n = .error .numberOverflow ∧ ¬ n * u.wholeScale < UInt64.size := by
  unfold TimeUnit.whole TimeUnit.wholeScale
  by_cases hu : u.isSubsecond
  · rw [if_pos hu, if_pos hu]
    by_cases hfits : n * u.nanos < UInt64.size
    · rw [word_of_lt hfits, ok_bind]
      refine Or.inl ⟨_, rfl, hfits, ?_⟩
      show 0 * nanosPerSecond + n * u.nanos = n * u.nanos
      rw [Nat.zero_mul, Nat.zero_add]
    · rw [word_of_not_lt hfits, error_bind]
      exact Or.inr ⟨rfl, hfits⟩
  · rw [if_neg hu, if_neg hu]
    by_cases hfits : n * (u.nanos / nanosPerSecond) < UInt64.size
    · rw [word_of_lt hfits, ok_bind]
      refine Or.inl ⟨_, rfl, hfits, ?_⟩
      show n * (u.nanos / nanosPerSecond) * nanosPerSecond + 0 = n * u.nanos
      rw [Nat.add_zero, Nat.mul_assoc, seconds_nanos (Or.inr hu)]
    · rw [word_of_not_lt hfits, error_bind]
      exact Or.inr ⟨rfl, hfits⟩

theorem exactDiv_of_dvd {n m : Nat} (h : m ∣ n) : exactDiv n m = .ok (n / m) :=
  if_pos (Nat.mod_eq_zero_of_dvd h)

theorem exactDiv_of_not_dvd {n m : Nat} (h : ¬ m ∣ n) : exactDiv n m = .error .numberOverflow :=
  if_neg (mt Nat.dvd_of_mod_eq_zero h)

/-- Decimals are granted, with their exact length, if the product fits and comes out even; those of
nanoseconds never are. -/
theorem decimals_cases (u : TimeUnit) (f : Fraction) :
    (∃ a, u.decimals f = .ok a ∧ f.numerator * u.decimalsScale < UInt64.size ∧
        f.denominator ∣ f.numerator * u.nanos ∧
        a.value = f.numerator * u.nanos / f.denominator) ∨
      u.decimals f = .error .numberOverflow ∧ (u = .nanosecond ∨
        ¬ f.numerator * u.decimalsScale < UInt64.size ∨
        ¬ f.denominator ∣ f.numerator * u.decimalsScale) := by
  unfold TimeUnit.decimals TimeUnit.decimalsScale
  by_cases hnano : u = .nanosecond
  · rw [if_pos hnano]
    exact Or.inr ⟨rfl, Or.inl hnano⟩
  rw [if_neg hnano]
  by_cases hu : u.isFine
  · rw [if_pos hu, if_pos hu]
    by_cases hfits : f.numerator * u.nanos < UInt64.size
    · rw [word_of_lt hfits, ok_bind]
      by_cases heven : f.denominator ∣ f.numerator * u.nanos
      · rw [exactDiv_of_dvd heven, ok_bind]
        refine Or.inl ⟨_, rfl, hfits, heven, ?_⟩
        show 0 * nanosPerSecond + f.numerator * u.nanos / f.denominator = _
        rw [Nat.zero_mul, Nat.zero_add]
      · rw [exactDiv_of_not_dvd heven, error_bind]
        exact Or.inr ⟨rfl, Or.inr (Or.inr heven)⟩
    · rw [word_of_not_lt hfits, error_bind]
      exact Or.inr ⟨rfl, Or.inr (Or.inl hfits)⟩
  · rw [if_neg hu, if_neg hu]
    by_cases hfits : f.numerator * (u.nanos / nanosPerSecond) < UInt64.size
    · rw [word_of_lt hfits, ok_bind]
      by_cases heven : f.denominator ∣ f.numerator * (u.nanos / nanosPerSecond)
      · have hseconds : f.numerator * u.nanos =
            f.numerator * (u.nanos / nanosPerSecond) * nanosPerSecond := by
          rw [Nat.mul_assoc, seconds_nanos (Or.inl hu)]
        rw [exactDiv_of_dvd heven, ok_bind, hseconds]
        refine Or.inl ⟨_, rfl, hfits, Nat.dvd_mul_right_of_dvd heven _, ?_⟩
        show f.numerator * (u.nanos / nanosPerSecond) / f.denominator * nanosPerSecond + 0 = _
        rw [Nat.add_zero, Nat.div_mul_right_comm heven]
      · rw [exactDiv_of_not_dvd heven, error_bind]
        exact Or.inr ⟨rfl, Or.inr (Or.inr heven)⟩
    · rw [word_of_not_lt hfits, error_bind]
      exact Or.inr ⟨rfl, Or.inr (Or.inl hfits)⟩

/-- The decimals that are granted have their exact length. -/
theorem decimals_value (h : u.decimals f = .ok a) :
    f.denominator ∣ f.numerator * u.nanos ∧ a.value = f.numerator * u.nanos / f.denominator := by
  rcases decimals_cases u f with ⟨b, hb, -, heven, hvalue⟩ | ⟨herror, -⟩
  · rw [hb] at h
    cases h
    exact ⟨heven, hvalue⟩
  · rw [herror] at h
    cases h

theorem whole_value (h : u.whole n = .ok a) : a.value = n * u.nanos := by
  rcases whole_cases u n with ⟨b, hb, -, hvalue⟩ | ⟨herror, -⟩
  · rw [hb] at h
    cases h
    exact hvalue
  · rw [herror] at h
    cases h

/-- What a part asks for comes to what it is worth. -/
theorem worth_of_demands (h : p.demands = as.map .ok) :
    p.Measured ∧ (as.map Addition.value).sum = p.worth := by
  unfold Part.demands at h
  unfold Part.Measured Part.worth
  cases hu : TimeUnit.ofText? p.unit with
  | none =>
      rw [hu] at h
      cases as <;> cases h
  | some u =>
      rw [hu] at h
      cases as with
      | nil => cases h
      | cons a as =>
          obtain ⟨hwhole, hrest⟩ := List.cons.inj h
          dsimp only
          rw [List.map_cons, List.sum_cons, whole_value hwhole]
          cases hf : p.fraction with
          | none =>
              rw [hf] at hrest
              cases as with
              | nil => exact ⟨⟨u, rfl, nofun⟩, rfl⟩
              | cons b as => cases hrest
          | some f =>
              rw [hf] at hrest
              cases as with
              | nil => cases hrest
              | cons b as =>
                  obtain ⟨hdecimals, hrest⟩ := List.cons.inj hrest
                  obtain ⟨heven, hvalue⟩ := decimals_value hdecimals
                  cases as with
                  | nil =>
                      refine ⟨⟨u, rfl, ?_⟩, ?_⟩
                      · intro g hg
                        cases hg
                        exact heven
                      · rw [List.map_cons, List.sum_cons, hvalue]
                        rfl
                  | cons c as => cases hrest

theorem worth_of_row_demands (h : r.demands = as.map .ok) :
    r.fault = none ∧ (∀ p ∈ r.parts, p.Measured) ∧
      (as.map Addition.value).sum = (r.parts.map Part.worth).sum := by
  obtain ⟨parts, fault⟩ := r
  induction parts generalizing as with
  | nil =>
      cases fault with
      | none =>
          cases as with
          | nil => exact ⟨rfl, nofun, rfl⟩
          | cons a as => cases h
      | some e => cases as <;> cases h
  | cons p parts ih =>
      rw [demands_cons] at h
      obtain ⟨bs, cs, rfl, hp, hrest⟩ := List.append_eq_map_iff.mp h
      obtain ⟨hmeasured, hvalue⟩ := worth_of_demands hp.symm
      obtain ⟨hfault, hall, hvalues⟩ := ih hrest.symm
      refine ⟨hfault, List.forall_mem_cons.mpr ⟨hmeasured, hall⟩, ?_⟩
      rw [List.map_append, List.sum_append, hvalue, hvalues]
      rfl

/-- A text that is read comes to what its parts are worth. -/
theorem worth_of_parse (hzero : Text.trim text.toList ≠ ['0']) (h : parse text = .ok d) :
    (row text).fault = none ∧ (∀ p ∈ (row text).parts, p.Measured) ∧
      d.nanos = ((row text).parts.map Part.worth).sum := by
  rw [parse_eq_addAll] at h
  obtain ⟨as, hdemands, -, hd⟩ := addAll_eq_ok h
  rw [demands, if_neg hzero] at hdemands
  obtain ⟨hfault, hmeasured, hvalue⟩ := worth_of_row_demands hdemands
  refine ⟨hfault, hmeasured, ?_⟩
  rw [hd, foldl_plus_nanos, hvalue]
  exact Nat.zero_add _

/-- A part of small numbers is granted what it asks for. -/
theorem exists_additions (hu : TimeUnit.ofText? p.unit = some u)
    (hwhole : p.n * u.nanos < UInt64.size)
    (hdecimals : ∀ f ∈ p.fraction, u.isFine = true ∧ u ≠ .nanosecond ∧
      f.numerator * u.nanos < UInt64.size ∧ f.denominator ∣ f.numerator * u.nanos) :
    ∃ as : List Addition, p.demands = as.map .ok := by
  have hscale : p.n * u.wholeScale ≤ p.n * u.nanos := by
    refine Nat.mul_le_mul_left _ ?_
    cases u <;> decide
  obtain ⟨a, ha, -⟩ := (whole_cases u p.n).resolve_right fun h =>
    h.2 (Nat.lt_of_le_of_lt hscale hwhole)
  unfold Part.demands
  rw [hu]
  dsimp only
  rw [ha]
  cases hf : p.fraction with
  | none => exact ⟨[a], rfl⟩
  | some f =>
      obtain ⟨hfine, hnano, hfits, heven⟩ := hdecimals f hf
      rw [← show u.decimalsScale = u.nanos from if_pos hfine] at hfits heven
      obtain ⟨b, hb, -⟩ := (decimals_cases u f).resolve_right fun h =>
        h.2.elim hnano fun hrest => hrest.elim (absurd hfits) (absurd heven)
      refine ⟨[a, b], ?_⟩
      rw [Option.toList_some, List.map_singleton, hb]
      rfl

theorem exists_row_additions {parts : List Part}
    (h : ∀ p ∈ parts, ∃ as : List Addition, p.demands = as.map .ok) :
    ∃ as : List Addition, (Row.mk parts none).demands = as.map .ok := by
  induction parts with
  | nil => exact ⟨[], rfl⟩
  | cons p parts ih =>
      obtain ⟨⟨as, hp⟩, hparts⟩ := List.forall_mem_cons.mp h
      obtain ⟨bs, hrest⟩ := ih hparts
      refine ⟨as ++ bs, ?_⟩
      rw [demands_cons, hp, hrest, List.map_append]

/-- A text is read as what its parts are worth, if they are granted and small together. -/
theorem parse_of_row {parts : List Part} (hzero : Text.trim text.toList ≠ ['0'])
    (hrow : row text = ⟨parts, none⟩)
    (hgranted : ∀ p ∈ parts, ∃ as : List Addition, p.demands = as.map .ok)
    (hsmall : (parts.map Part.worth).sum < UInt64.size) :
    parse text = .ok ⟨(parts.map Part.worth).sum⟩ := by
  obtain ⟨as, hdemands⟩ := exists_row_additions hgranted
  obtain ⟨-, -, hvalue⟩ := worth_of_row_demands hdemands
  have hfit : AllFit zero as := by
    refine allFit_of_lt ?_
    rw [hvalue]
    show 0 + _ < _
    rw [Nat.zero_add]
    exact hsmall
  rw [parse_eq_addAll, demands, if_neg hzero, hrow, hdemands, addAll_of_allFit hfit]
  refine congrArg Fallible.ok (congrArg Duration.mk ?_)
  rw [foldl_plus_nanos, hvalue]
  exact Nat.zero_add _

end Worth

end ControlPlane.Duration
