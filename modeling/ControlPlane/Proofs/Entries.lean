/-
What a pass enters into the conditions, and when.

A pass makes its reports one after the other, each at the moment of the last answer that has
come in.  `Entry` is a report with its moment, and the conditions that a pass leaves are the
stored ones with its entries made in them (`enter`).  The entries are in the order of their
conditions, so none is made twice.  Then what is there of a condition in the end goes by its
one entry and by what was stored of it (`get?_enter`), and a condition without an entry is as
it was stored.
-/
import ControlPlane.Proofs.Told

namespace ControlPlane

/-- A report, and the moment at which it is made. -/
structure Entry where
  report : Report
  made : Time

namespace Entry

def type (e : Entry) : ConditionType := e.report.type

/-- What there is of a condition after its entry. -/
def observation (e : Entry) (generation : Option Int) (previous : Option Observation) :
    Observation :=
  ConditionSet.refreshed previous e.report.status e.report.reason.text e.report.message generation
    e.made

/-- Some reports that are made at once. -/
def together (reports : List Report) (now : Time) : List Entry := reports.map (⟨·, now⟩)

/-- There is an entry of a condition. -/
def has (l : List Entry) (type : ConditionType) : Bool := l.any fun e => e.type = type

/-- The entries are in the order of their conditions. -/
def Ordered (l : List Entry) : Prop := l.Pairwise fun a b => a.type.place < b.type.place

variable {l m : List Entry} {e : Entry} {type : ConditionType} {reports : List Report} {now : Time}
  {generation : Option Int} {o : Observation} {previous : Option Observation}

@[simp] theorem has_nil : has [] type = false := rfl

@[simp] theorem has_cons : has (e :: l) type = (decide (e.type = type) || has l type) := rfl

@[simp] theorem has_append : has (l ++ m) type = (has l type || has m type) := List.any_append

theorem has_concat {r : Report} : has (l ++ [⟨r, now⟩]) type =
    (has l type || decide (r.type = type)) := by
  rw [has_append]
  exact congrArg _ (Bool.or_false _)

theorem has_eq_true_iff : has l type = true ↔ ∃ e ∈ l, e.type = type := by
  simp [has]

theorem has_eq_false_iff : has l type = false ↔ ∀ e ∈ l, e.type ≠ type := by
  simp [has]

/-- Reports that rise are entered in order. -/
theorem ordered_together {n : Nat} (h : Status.Rises n reports) :
    Ordered (together reports now) := by
  induction reports generalizing n with
  | nil => exact List.Pairwise.nil
  | cons r reports ih =>
    refine List.Pairwise.cons (fun e he => ?_) (ih h.2)
    obtain ⟨later, hlater, rfl⟩ := List.mem_map.mp he
    exact Nat.lt_of_succ_le (h.2.le_place hlater)

/-- They may be entered behind what comes before their place. -/
theorem Ordered.append_together {n : Nat} (hl : Ordered l) (hplace : ∀ e ∈ l, e.type.place < n)
    (h : Status.Rises n reports) : Ordered (l ++ together reports now) := by
  refine List.pairwise_append.mpr ⟨hl, ordered_together h, fun a ha b hb => ?_⟩
  obtain ⟨r, hr, rfl⟩ := List.mem_map.mp hb
  exact Nat.lt_of_lt_of_le (hplace a ha) (h.le_place hr)

end Entry

namespace ConditionSet

open Entry

variable {c : ConditionSet} {l m : List Entry} {e : Entry} {key : String}
  {generation : Option Int}

/-- Makes some entries, one after the other. -/
def enter (c : ConditionSet) (l : List Entry) (generation : Option Int) : ConditionSet :=
  l.foldl (fun c e => c.set e.type.text e.report.status e.report.reason.text e.report.message
    generation e.made) c

@[simp] theorem enter_nil : c.enter [] generation = c := rfl

theorem enter_append : c.enter (l ++ m) generation = (c.enter l generation).enter m generation :=
  List.foldl_append

/-- One more entry. -/
theorem enter_concat : c.enter (l ++ [e]) generation =
    (c.enter l generation).set e.type.text e.report.status e.report.reason.text e.report.message
      generation e.made :=
  enter_append

/-- A condition without an entry stays as it was. -/
theorem get?_enter_of_not_mem (h : ∀ e ∈ l, key ≠ e.type.text) :
    (c.enter l generation).get? key = c.get? key := by
  induction l generalizing c with
  | nil => rfl
  | cons e l ih =>
    obtain ⟨he, hl⟩ := List.forall_mem_cons.mp h
    exact (ih hl).trans ((get?_set ..).trans (if_neg he))

/-- Of entries in order, the one of a condition decides what there is of it, together with
what was there. -/
theorem get?_enter (hl : Ordered l) (he : e ∈ l) :
    (c.enter l generation).get? e.type.text =
      some (e.observation generation (c.get? e.type.text)) := by
  induction l generalizing c with
  | nil => cases he
  | cons first l ih =>
    obtain ⟨hfirst, hrest⟩ := List.pairwise_cons.mp hl
    have hother : ∀ later ∈ l, first.type.text ≠ later.type.text := by
      intro later hlater hsame
      have hplace := hfirst later hlater
      rw [ConditionType.text_injective hsame] at hplace
      exact Nat.lt_irrefl _ hplace
    rcases List.mem_cons.mp he with rfl | he
    · refine (get?_enter_of_not_mem hother).trans ?_
      exact (get?_set ..).trans (if_pos rfl)
    · refine (ih hrest he).trans ?_
      rw [get?_set, if_neg (hother e he).symm]

/-- The status of a condition is that of its entry. -/
theorem hasStatus_enter {status : ConditionStatus} (hl : Ordered l) (he : e ∈ l) :
    (c.enter l generation).hasStatus e.type.text status =
      decide (e.report.status.text = status.text) := by
  unfold hasStatus
  rw [get?_enter hl he]
  rfl

end ConditionSet

namespace Status

variable {s : Status} {l : List Report} {generation : Option Int} {now : Time}

/-- Reports are entered at once. -/
theorem conditions_tell : (s.tell l generation now).conditions =
    s.conditions.enter (Entry.together l now) generation := by
  induction l generalizing s with
  | nil => rfl
  | cons r l ih => exact ih

@[simp] theorem conditions_bind {template : MachineTemplate} :
    (s.bind template).conditions = s.conditions := by
  unfold bind
  cases s.boundTemplate <;> rfl

@[simp] theorem tell_initialized : (s.tell l generation now).initialized = s.initialized := by
  induction l generalizing s with
  | nil => rfl
  | cons r l ih => exact ih

@[simp] theorem tell_ready : (s.tell l generation now).ready = s.ready := by
  induction l generalizing s with
  | nil => rfl
  | cons r l ih => exact ih

end Status

end ControlPlane
