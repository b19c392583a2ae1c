/-
What a history of writes leaves of the conditions.

Writes of different types do not meet, so each type has a history of its own: the writes of
that type, in their order.  The last of them decides what is said of the condition, but not
since when.  A history ends in a run of writes with one status, and the condition has its
status since the run began.  Where the run takes up the whole history and the stored condition
had that status already, it began with the stored condition.

So `leave` follows one observation through the writes of its type, `get?_writeAll` says that
this is all there is to a history, and `leave_run` reads off what a run leaves.
-/
import ControlPlane.Proofs.Status
import Mathlib.Data.List.Induction

namespace ControlPlane

namespace ConditionSet

/-- A write of a condition. -/
structure Write where
  type : String
  status : ConditionStatus
  reason : String
  message : String
  generation : Option Int
  now : Time
deriving DecidableEq

/-- What a write says of its condition, which has its status since some time. -/
def Write.observation (w : Write) (since : Time) : Observation :=
  { status := w.status.text, reason := w.reason, message := w.message, generation := w.generation,
    since }

/-- The set after a write. -/
def write (c : ConditionSet) (w : Write) : ConditionSet :=
  c.set w.type w.status w.reason w.message w.generation w.now

/-- What a write answers: whether it changes the set. -/
def changes (c : ConditionSet) (w : Write) : Bool :=
  c.setChanges w.type w.status w.reason w.message w.generation

/-- The set after some writes, one after the other. -/
def writeAll (c : ConditionSet) (ws : List Write) : ConditionSet := ws.foldl write c

/-- The writes of one type. -/
def writesOf (type : String) (ws : List Write) : List Write := ws.filter fun w => w.type = type

/-- Some writes end in a run of one status.  It begins with `first`, and it is as long as can be:
the write before it, if there is one, has another status. -/
structure EndsInRun (ws before : List Write) (first : Write) (rest : List Write) : Prop where
  split : ws = before ++ first :: rest
  same : ∀ w ∈ rest, w.status = first.status
  longest : ∀ w ∈ before.getLast?, w.status ≠ first.status

/-- When a run began: with its first write, unless there is none before it and the condition that
was there had the status of the run. -/
def began (initial : Option Observation) (before : List Write) (first : Write) : Time :=
  match initial with
  | some o => if before = [] ∧ o.status = first.status.text then o.since else first.now
  | none => first.now

/-- What some writes of one type leave of an observation. -/
def leave (initial : Option Observation) (ws : List Write) : Option Observation :=
  ws.foldl (fun o w => some (refreshed o w.status w.reason w.message w.generation w.now)) initial

variable {c : ConditionSet} {ws before rest : List Write} {w first last : Write} {type : String}
  {initial : Option Observation} {o : Observation}

/-! ### One write -/

theorem get?_write : (c.write w).get? type = if type = w.type then
    some (refreshed (c.get? w.type) w.status w.reason w.message w.generation w.now)
    else c.get? type :=
  get?_set ..

/-- A status that was there already is kept with its time. -/
theorem refreshed_of_same (h : o.status = w.status.text) :
    refreshed (some o) w.status w.reason w.message w.generation w.now = w.observation o.since := by
  simp [refreshed, Write.observation, h]

/-- A status that is new is stamped. -/
theorem refreshed_of_changed (h : ∀ o ∈ initial, o.status ≠ w.status.text) :
    refreshed initial w.status w.reason w.message w.generation w.now = w.observation w.now := by
  cases initial with
  | none => rfl
  | some o => simp [refreshed, Write.observation, h o rfl]

/-- A write that says what was said already leaves the set as it was, and any other changes it. -/
theorem changes_iff : c.changes w = true ↔ c.write w ≠ c := by
  rw [← not_iff_not, Bool.not_eq_true, not_not]
  have hunchanged : c.changes w = false ↔ ∃ o, c.get? w.type = some o ∧ o = w.observation o.since := by
    unfold changes setChanges
    cases c.get? w.type with
    | none => simp
    | some o =>
      obtain ⟨status, reason, message, generation, since⟩ := o
      simp [Write.observation, and_assoc]
  rw [hunchanged]
  constructor
  · rintro ⟨o, hget, hsame⟩
    have hstatus : o.status = w.status.text := congrArg Observation.status hsame
    refine congrArg ConditionSet.mk (Table.ext fun type => ?_)
    show (c.write w).get? type = c.get? type
    rw [get?_write]
    by_cases htype : type = w.type
    · rw [if_pos htype, htype, hget, refreshed_of_same hstatus, ← hsame]
    · rw [if_neg htype]
  · intro hsame
    have hget : c.get? w.type =
        some (refreshed (c.get? w.type) w.status w.reason w.message w.generation w.now) := by
      have hwritten : (c.write w).get? w.type = _ := get?_write
      rwa [hsame, if_pos rfl] at hwritten
    exact ⟨_, hget, rfl⟩

/-! ### Histories -/

theorem leave_concat : leave initial (ws ++ [w]) =
    some (refreshed (leave initial ws) w.status w.reason w.message w.generation w.now) := by
  simp [leave]

/-- What there is of a condition goes by the writes of its type. -/
theorem get?_writeAll : (c.writeAll ws).get? type = leave (c.get? type) (writesOf type ws) := by
  induction ws using List.reverseRecOn with
  | nil => rfl
  | append_singleton ws w ih =>
    have hlast : c.writeAll (ws ++ [w]) = (c.writeAll ws).write w := by simp [writeAll]
    rw [hlast, get?_write]
    by_cases htype : type = w.type
    · subst htype
      rw [if_pos rfl, ih]
      simp [writesOf, leave_concat]
    · rw [if_neg htype, ih]
      simp [writesOf, Ne.symm htype]

/-- The last write decides on the status. -/
theorem status_of_leave (hlast : ws.getLast? = some last) (h : leave initial ws = some o) :
    o.status = last.status.text := by
  obtain ⟨before, rfl⟩ := List.getLast?_eq_some_iff.mp hlast
  rw [leave_concat] at h
  cases h
  rfl

theorem status_getLastD (hsame : ∀ w ∈ rest, w.status = first.status) :
    (rest.getLastD first).status = first.status := by
  rcases List.mem_cons.mp (List.getLastD_mem_cons (l := rest) (a := first)) with hlast | hlast
  · rw [hlast]
  · exact hsame _ hlast

/-- A run leaves what its last write says, since it began. -/
theorem leave_run (hsame : ∀ w ∈ rest, w.status = first.status)
    (hlongest : ∀ w ∈ before.getLast?, w.status ≠ first.status) :
    leave initial (before ++ first :: rest) =
      some ((rest.getLastD first).observation (began initial before first)) := by
  induction rest using List.reverseRecOn with
  | nil =>
    rw [leave_concat]
    refine congrArg some ?_
    cases hbefore : before.getLast? with
    | none =>
      obtain rfl := List.getLast?_eq_none_iff.mp hbefore
      cases initial with
      | none => rfl
      | some o =>
        by_cases hstatus : o.status = first.status.text
        · simp [leave, refreshed_of_same hstatus, began, hstatus]
        · simp [leave, refreshed, Write.observation, began, hstatus]
    | some previous =>
      have hchanged : ∀ o ∈ leave initial before, o.status ≠ first.status.text := by
        intro o ho hstatus
        have hprevious := status_of_leave hbefore ho
        rw [hstatus] at hprevious
        exact hlongest previous hbefore (ConditionStatus.text_injective hprevious.symm)
      rw [refreshed_of_changed hchanged]
      have hne : before ≠ [] := by
        rintro rfl
        cases hbefore
      cases initial <;> simp [began, hne]
  | append_singleton rest w ih =>
    have hearlier := ih fun w hw => hsame w (List.mem_append_left _ hw)
    have hstatus : (rest.getLastD first).status = w.status := by
      rw [status_getLastD fun w hw => hsame w (List.mem_append_left _ hw), hsame w (by simp)]
    rw [← List.cons_append, ← List.append_assoc, leave_concat, hearlier, List.getLastD_concat]
    exact congrArg some (refreshed_of_same (congrArg ConditionStatus.text hstatus))

namespace EndsInRun

theorem getLast? (h : EndsInRun ws before first rest) :
    ws.getLast? = some (rest.getLastD first) := by
  rw [h.split, List.getLast?_append, List.getLast?_cons, List.getLastD_eq_getLast?]
  rfl

/-- A write of another status begins a run, and one of the same status goes on with it. -/
theorem concat (h : EndsInRun ws before first rest) :
    ∃ before' first' rest', EndsInRun (ws ++ [w]) before' first' rest' := by
  by_cases hw : w.status = first.status
  · refine ⟨before, first, rest ++ [w], by simp [h.split], ?_, h.longest⟩
    intro later hlater
    rcases List.mem_append.mp hlater with hrest | hlast
    · exact h.same later hrest
    · rw [List.mem_singleton.mp hlast, hw]
  · refine ⟨ws, w, [], rfl, List.forall_mem_nil _, ?_⟩
    intro previous hprevious hstatus
    rw [h.getLast?] at hprevious
    cases hprevious
    exact hw (hstatus.symm.trans (status_getLastD h.same))

end EndsInRun

/-- All writes but none end in a run. -/
theorem exists_endsInRun (h : ws ≠ []) : ∃ before first rest, EndsInRun ws before first rest := by
  induction ws using List.reverseRecOn with
  | nil => exact absurd rfl h
  | append_singleton ws w ih =>
    by_cases hws : ws = []
    · subst hws
      exact ⟨[], w, [], rfl, List.forall_mem_nil _, nofun⟩
    · obtain ⟨before, first, rest, hrun⟩ := ih hws
      exact hrun.concat

/-! ### The conditions after a history -/

/-- The conditions come in the order of their types. -/
theorem pairwise_types : (c.toList.map (·.type)).Pairwise (· < ·) := by
  unfold toList
  rw [List.map_map, List.pairwise_map]
  exact c.byType.sorted

/-- A condition stands under its own type. -/
theorem mem_toList_iff : ⟨type, o⟩ ∈ c.toList ↔ c.get? type = some o := by
  unfold get? toList
  rw [Table.get?_eq_some_iff]
  simp

/-- **What a history of writes leaves.**  Whatever conditions there are, and whatever is written
when: a type that is never written is as it was.  One that is written has the status, the reason,
the message and the generation of its last write, and it is so since the run of writes began in
which its history ends: since the first write of that run, or since what was stored if the run is
the whole history and the stored condition had its status.  The conditions are one for each type,
each under its own, and a write answers that it changes the set exactly if the set is then another
one. -/
theorem history_recorded (c : ConditionSet) (ws : List Write) :
    (∀ type, writesOf type ws = [] → (c.writeAll ws).get? type = c.get? type) ∧
    (∀ type last, (writesOf type ws).getLast? = some last →
      (∃ before first rest, EndsInRun (writesOf type ws) before first rest) ∧
      ∀ before first rest, EndsInRun (writesOf type ws) before first rest →
        (c.writeAll ws).get? type = some
          { status := last.status.text, reason := last.reason, message := last.message,
            generation := last.generation, since := began (c.get? type) before first }) ∧
    ((c.writeAll ws).toList.map (·.type)).Pairwise (· < ·) ∧
    (∀ type o, ⟨type, o⟩ ∈ (c.writeAll ws).toList ↔ (c.writeAll ws).get? type = some o) ∧
    ∀ before w after, ws = before ++ w :: after →
      ((c.writeAll before).changes w = true ↔
        c.writeAll (before ++ [w]) ≠ c.writeAll before) := by
  refine ⟨fun type hnone => ?_, fun type last hlast => ⟨?_, fun before first rest hrun => ?_⟩,
    pairwise_types, fun _ _ => mem_toList_iff, fun before w after _ => ?_⟩
  · rw [get?_writeAll, hnone]
    rfl
  · refine exists_endsInRun fun hnone => ?_
    rw [hnone] at hlast
    cases hlast
  · have hends := hrun.getLast?
    rw [hlast] at hends
    rw [get?_writeAll, hrun.split, leave_run hrun.same hrun.longest, ← Option.some.inj hends]
    rfl
  · have hone : c.writeAll (before ++ [w]) = (c.writeAll before).write w := by simp [writeAll]
    rw [hone]
    exact changes_iff

/-- A condition that failed already fails on since it was stored, whatever is written of another
one, and once it holds it holds since the first of the writes that say so. -/
theorem history_recorded_flapping :
    let initial : ConditionSet := ⟨.ofList [("Ready", ⟨"False", "A", "a", none, ⟨1, 0⟩⟩)]⟩
    let fails : Write := ⟨"Ready", .fails, "B", "b", some 1, ⟨2, 0⟩⟩
    let other : Write := ⟨"Degraded", .holds, "C", "c", some 1, ⟨3, 0⟩⟩
    let holds : Write := ⟨"Ready", .holds, "D", "d", some 1, ⟨4, 0⟩⟩
    let later : Write := ⟨"Ready", .holds, "E", "e", some 2, ⟨5, 0⟩⟩
    (initial.writeAll [fails, other]).get? "Ready" =
        some ⟨"False", "B", "b", some 1, ⟨1, 0⟩⟩ ∧
      (initial.writeAll [fails, other, holds, later]).get? "Ready" =
        some ⟨"True", "E", "e", some 2, ⟨4, 0⟩⟩ := by
  intro initial fails other holds later
  have hshort : EndsInRun (writesOf "Ready" [fails, other]) [] fails [] :=
    ⟨by decide, by decide, by decide⟩
  have hlong : EndsInRun (writesOf "Ready" [fails, other, holds, later]) [fails] holds [later] :=
    ⟨by decide, by decide, by decide⟩
  obtain ⟨-, hfails, -⟩ := history_recorded initial [fails, other]
  obtain ⟨-, hholds, -⟩ := history_recorded initial [fails, other, holds, later]
  have hstored : began (initial.get? "Ready") [] fails = ⟨1, 0⟩ := by decide
  have hstamped : began (initial.get? "Ready") [fails] holds = ⟨4, 0⟩ := by decide
  constructor
  · rw [(hfails "Ready" fails (by decide)).2 _ _ _ hshort, hstored]
    rfl
  · rw [(hholds "Ready" later (by decide)).2 _ _ _ hlong, hstamped]
    rfl

end ConditionSet

end ControlPlane
