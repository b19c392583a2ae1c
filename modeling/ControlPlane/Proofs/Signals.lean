/-
Signals in any order.

A signal counts only behind the ones that go before it.  So what signals have made of a status
is a matter of the courses that they have run: the course of a signal is the signal behind all
its predecessors, and it is complete as soon as it is a subsequence of what was delivered.
`Tracks` ties the latches and the conditions of a status to the courses that are complete.  One
delivery keeps it, and the induction is on the deliveries, of which the last one is added.

A status is changed in place here, one step after the other, so that it can be seen what a
violation leaves of it.  Such a delivery is `Status.receive` with the status kept
(`run_deliver`).
-/
import ControlPlane.Proofs.Told
import Mathlib.Data.List.Induction

namespace ControlPlane

/-- What goes before a signal. -/
def Signal.predecessors : Signal → List Signal
  | .controlPlaneJoined => []
  | .bootstrapCompleted => [.controlPlaneJoined]
  | .bootstrapMachineDeleted => [.controlPlaneJoined, .bootstrapCompleted]

/-- A signal behind all that goes before it. -/
def Signal.course (signal : Signal) : List Signal := signal.predecessors ++ [signal]

theorem Signal.condition_injective {a b : Signal} (h : a.condition = b.condition) : a = b := by
  revert h
  cases a <;> cases b <;> decide

/-- A condition is true if it is there and says so. -/
theorem Status.isTrue_iff {s : Status} {type : ConditionType} : s.isTrue type = true ↔
    ∃ o, s.conditions.get? type.text = some o ∧ o.status = ConditionStatus.text .holds := by
  unfold isTrue ConditionSet.isTrue ConditionSet.hasStatus
  cases s.conditions.get? type.text <;> simp

/-- A signal as it is delivered: under a generation, and at a moment. -/
structure Delivery where
  signal : Signal
  generation : Option Int
  now : Time
deriving DecidableEq

namespace Delivery

/-! ### Deliveries to a status that is kept -/

/-- Sets the first latch, and says whether it was open. -/
def latchInitialized : ExceptT LatchViolation (StateM Status) Bool := do
  let s ← get
  set s.markInitialized
  return !s.initialized

/-- Sets the second latch, and says whether it was open. -/
def latchReady : ExceptT LatchViolation (StateM Status) Bool := do
  let s ← get
  let latched ← liftM s.markReady
  set latched
  return !s.ready

/-- Reports the condition of the signal, and says whether that changes anything. -/
def report (d : Delivery) : ExceptT LatchViolation (StateM Status) Bool := do
  let s ← get
  set (s.report d.signal.condition .holds d.signal.reason d.signal.message d.generation d.now)
  return s.reportChanges d.signal.condition .holds d.signal.reason d.signal.message d.generation

/-- Delivers the signal, and says whether that changes anything. -/
def deliver (d : Delivery) : ExceptT LatchViolation (StateM Status) Bool := do
  let s ← get
  match d.signal with
  | .controlPlaneJoined =>
    let latched ← latchInitialized
    let reported ← d.report
    return latched || reported
  | .bootstrapCompleted =>
    if s.initialized then d.report else return false
  | .bootstrapMachineDeleted =>
    if s.isTrue .bootstrapComplete then
      let latched ← latchReady
      let reported ← d.report
      return latched || reported
    else return false

variable {d d' : Delivery} {ds : List Delivery} {s s' : Status} {signal : Signal}

/-- A step goes on from the status that the step before has left, unless that was stopped. -/
theorem run_bind {α β : Type} {step : ExceptT LatchViolation (StateM Status) α}
    {next : α → ExceptT LatchViolation (StateM Status) β} : (step >>= next).run.run s =
      match step.run.run s with
      | (.ok a, s') => (next a).run.run s'
      | (.error violation, s') => (.error violation, s') := by
  show (match step.run.run s with
    | (r, s') => (ExceptT.bindCont next r).run s') = _
  obtain ⟨r, s'⟩ := step.run.run s
  cases r <;> rfl

theorem run_latchReady : latchReady.run.run s =
    match s.markReady with
    | .ok latched => (.ok !s.ready, latched)
    | .error violation => (.error violation, s) := by
  have hstart : latchReady.run.run s = ((liftM s.markReady >>= fun latched => do
      set latched
      return !s.ready : ExceptT LatchViolation (StateM Status) Bool).run.run s) := rfl
  rw [hstart, run_bind]
  cases s.markReady <;> rfl

/-- A delivery changes the status as the signal does that is received. -/
theorem run_deliver : d.deliver.run.run s =
    match s.receive d.signal d.generation d.now with
    | .ok (changed, s') => (.ok changed, s')
    | .error violation => (.error violation, s) := by
  obtain ⟨signal, generation, now⟩ := d
  cases signal with
  | controlPlaneJoined => rfl
  | bootstrapCompleted =>
    let d : Delivery := ⟨.bootstrapCompleted, generation, now⟩
    have hstart : d.deliver.run.run s =
        (if s.initialized then d.report else pure false).run.run s := rfl
    rw [hstart]
    unfold Status.receive Status.expects
    cases s.initialized <;> rfl
  | bootstrapMachineDeleted =>
    let d : Delivery := ⟨.bootstrapMachineDeleted, generation, now⟩
    have hstart : d.deliver.run.run s = (if s.isTrue .bootstrapComplete then
        latchReady >>= fun latched => d.report >>= fun reported => pure (latched || reported)
      else pure false).run.run s := rfl
    rw [hstart]
    unfold Status.receive Status.expects Status.latch
    cases s.isTrue .bootstrapComplete with
    | false => rfl
    | true =>
      rw [if_pos rfl, if_pos rfl, run_bind, run_latchReady]
      cases s.markReady <;> rfl

/-! ### One delivery -/

/-- A signal is passed over if it is not expected, and refused if its latch cannot be set.  Else
the latch is set and the condition is reported. -/
theorem receive_cases (s : Status) (d : Delivery) :
    (s.expects d.signal = false ∧ ∀ now, s.receive d.signal d.generation now = .ok (false, s)) ∨
    (∃ violation, s.expects d.signal = true ∧ s.latch d.signal = .error violation ∧
      ∀ now, s.receive d.signal d.generation now = .error violation) ∨
    ∃ latched, s.expects d.signal = true ∧ s.latch d.signal = .ok latched ∧
      s.receive d.signal d.generation d.now = .ok
        (s.latchChanges d.signal || latched.reportChanges d.signal.condition .holds d.signal.reason
            d.signal.message d.generation,
          latched.report d.signal.condition .holds d.signal.reason d.signal.message d.generation
            d.now) := by
  unfold Status.receive
  cases hexpects : s.expects d.signal with
  | false => exact .inl ⟨rfl, fun _ => rfl⟩
  | true =>
    cases hlatch : s.latch d.signal with
    | error violation => exact .inr (.inl ⟨violation, rfl, rfl, fun _ => rfl⟩)
    | ok latched => exact .inr (.inr ⟨latched, rfl, rfl, rfl⟩)

theorem reportChanges_eq_false_iff {type : ConditionType} {status : ConditionStatus}
    {reason : Reason} {message : String} {generation : Option Int} :
    s.reportChanges type status reason message generation = false ↔
      s.told type = some (status.text, reason.text, message, generation) := by
  unfold Status.reportChanges ConditionSet.setChanges Status.told
  cases s.conditions.get? type.text with
  | none => simp
  | some o => simp [and_assoc]

theorem latchChanges_eq_false_iff {latched : Status} (h : s.latch signal = .ok latched) :
    s.latchChanges signal = false ↔ latched = s := by
  rw [Status.latch_eq h]
  obtain ⟨conditions, initialized, ready, boundTemplate⟩ := s
  cases signal <;> simp [Status.latchChanges]

/-- What is said of a change is so. -/
theorem changed_iff {latched : Status} (h : s.latch d.signal = .ok latched) :
    (s.latchChanges d.signal || latched.reportChanges d.signal.condition .holds d.signal.reason
        d.signal.message d.generation) = true ↔
      latched.report d.signal.condition .holds d.signal.reason d.signal.message d.generation d.now
        ≠ s := by
  rw [Ne, ← not_iff_not, not_not, Bool.not_eq_true, Bool.or_eq_false_iff,
    latchChanges_eq_false_iff h, reportChanges_eq_false_iff]
  constructor
  · rintro ⟨rfl, htold⟩
    exact Status.report_of_told htold
  · intro hsame
    have hopen : s.latchChanges d.signal = false := by
      have hinit : latched.initialized = s.initialized := congrArg (·.initialized) hsame
      have hready : latched.ready = s.ready := congrArg (·.ready) hsame
      rw [Status.latch_eq h] at hinit hready
      unfold Status.latchChanges
      cases hsignal : d.signal <;> simp_all
    obtain rfl := (latchChanges_eq_false_iff h).mp hopen
    refine ⟨rfl, ?_⟩
    rw [← hsame, Status.told_report, if_pos rfl]

/-- A latch that a signal has set is one that it sets again. -/
theorem latch_again {latched : Status} (h : s.latch signal = .ok latched)
    (hinit : s'.initialized = latched.initialized) (hready : s'.ready = latched.ready) :
    s'.latch signal = .ok s' := by
  rw [Status.latch_eq h] at hinit hready
  obtain ⟨conditions, initialized, ready, boundTemplate⟩ := s'
  cases signal with
  | controlPlaneJoined =>
    simp_all [Status.latch, Status.markInitialized]
  | bootstrapCompleted => rfl
  | bootstrapMachineDeleted =>
    have hset : s.initialized = true := by
      have h : s.markReady = .ok latched := h
      unfold Status.markReady at h
      by_contra hopen
      rw [if_neg hopen] at h
      cases h
    simp_all [Status.latch, Status.markReady]

/-- Where all that a signal makes is made, the signal changes nothing. -/
theorem receive_of_told {generation : Option Int} {now : Time} (hexpects : s.expects signal = true)
    (hlatch : s.latch signal = .ok s)
    (htold : s.told signal.condition =
      some (ConditionStatus.text .holds, signal.reason.text, signal.message, generation)) :
    s.receive signal generation now = .ok (false, s) := by
  have hreceived : s.receive signal generation now = .ok
      (s.latchChanges signal || s.reportChanges signal.condition .holds signal.reason signal.message
        generation, s.report signal.condition .holds signal.reason signal.message generation now) := by
    unfold Status.receive
    rw [if_pos hexpects, hlatch]
    rfl
  rw [hreceived, (latchChanges_eq_false_iff hlatch).mpr rfl, reportChanges_eq_false_iff.mpr htold,
    Status.report_of_told htold]
  rfl

/-- What a signal has made of a status is what it makes of that again. -/
theorem receive_again {changed : Bool} {now : Time}
    (h : s.receive d.signal d.generation d.now = .ok (changed, s')) :
    s'.receive d.signal d.generation now = .ok (false, s') := by
  obtain ⟨-, hpassed⟩ | ⟨violation, -, -, hrefused⟩ | ⟨latched, hexpects, hlatch, hreceived⟩ :=
    receive_cases s d
  · rw [hpassed] at h
    cases h
    exact hpassed now
  · rw [hrefused] at h
    cases h
  · rw [hreceived] at h
    cases h
    refine receive_of_told ?_ (latch_again hlatch rfl rfl) ?_
    · rw [Status.latch_eq hlatch]
      revert hexpects
      cases d.signal with
      | controlPlaneJoined => exact fun _ => rfl
      | bootstrapCompleted =>
        intro hinit
        simpa [Status.expects] using hinit
      | bootstrapMachineDeleted =>
        intro hcomplete
        rw [Status.expects, Status.isTrue_report, if_neg (by decide)]
        exact hcomplete
    · rw [Status.told_report, if_pos rfl]

/-! ### Courses -/

/-- The signals of some deliveries. -/
def signals (ds : List Delivery) : List Signal := ds.map (·.signal)

@[simp] theorem signals_append {ds' : List Delivery} :
    signals (ds ++ ds') = signals ds ++ signals ds' :=
  List.map_append

/-- A list ends with its last item, or goes before it. -/
theorem sublist_concat_iff {α : Type} {l m : List α} {a b : α} :
    (l ++ [a]).Sublist (m ++ [b]) ↔ (l ++ [a]).Sublist m ∨ (a = b ∧ l.Sublist m) := by
  rw [← List.reverse_sublist, List.reverse_concat, List.reverse_concat, List.sublist_cons_iff,
    ← List.reverse_concat, List.reverse_sublist]
  constructor
  · rintro (h | ⟨r, hr, h⟩)
    · exact .inl h
    · rw [List.reverse_concat] at hr
      cases hr
      exact .inr ⟨rfl, List.reverse_sublist.mp h⟩
  · rintro (h | ⟨rfl, h⟩)
    · exact .inl h
    · exact .inr ⟨l.reverse, List.reverse_concat, List.reverse_sublist.mpr h⟩

/-- A delivery completes the course of its own signal, and only behind the predecessors. -/
theorem course_concat_iff : signal.course.Sublist (signals (ds ++ [d])) ↔
    signal.course.Sublist (signals ds) ∨
      (signal = d.signal ∧ signal.predecessors.Sublist (signals ds)) := by
  rw [signals_append]
  exact sublist_concat_iff

/-- A course is complete for the first time at a moment: that of the delivery which completes
it. -/
def CompletedAt (course : List Signal) (ds : List Delivery) (t : Time) : Prop :=
  ∃ before d after, ds = before ++ d :: after ∧ ¬course.Sublist (signals before) ∧
    course.Sublist (signals (before ++ [d])) ∧ d.now = t

theorem CompletedAt.concat {course : List Signal} {t : Time} (h : CompletedAt course ds t) :
    CompletedAt course (ds ++ [d]) t := by
  obtain ⟨before, first, after, rfl, hbefore, hfirst, ht⟩ := h
  exact ⟨before, first, after ++ [d], by simp, hbefore, hfirst, ht⟩

/-- What some deliveries have made of a status. -/
structure Tracks (ds : List Delivery) (s : Status) : Prop where
  /-- A condition is true once the course of its signal is complete. -/
  complete : ∀ signal : Signal,
    s.isTrue signal.condition = true ↔ signal.course.Sublist (signals ds)
  /-- It is true since that moment. -/
  since : ∀ (signal : Signal) (o : Observation), s.conditions.get? signal.condition.text = some o →
    s.isTrue signal.condition = true → CompletedAt signal.course ds o.since
  initialized : s.initialized = s.isTrue .controlPlaneInitialized
  ready : s.ready = s.isTrue .ready

theorem tracks_blank : Tracks [] .blank where
  complete signal := by cases signal <;> simp [signals, Signal.course] <;> rfl
  since signal o h := by cases h
  initialized := rfl
  ready := rfl

theorem Tracks.expects_iff (h : Tracks ds s) :
    s.expects signal = true ↔ signal.predecessors.Sublist (signals ds) := by
  cases signal with
  | controlPlaneJoined => simp [Status.expects, Signal.predecessors]
  | bootstrapCompleted =>
    unfold Status.expects
    rw [h.initialized]
    exact h.complete .controlPlaneJoined
  | bootstrapMachineDeleted => exact h.complete .bootstrapCompleted

/-- A latch is not refused where the signal is expected: the second one is set behind the
first. -/
theorem Tracks.latch (h : Tracks ds s) (hexpects : s.expects signal = true) :
    ∃ latched, s.latch signal = .ok latched := by
  cases signal with
  | controlPlaneJoined => exact ⟨_, rfl⟩
  | bootstrapCompleted => exact ⟨_, rfl⟩
  | bootstrapMachineDeleted =>
    have hcompleted : Signal.bootstrapCompleted.course.Sublist (signals ds) :=
      h.expects_iff.mp hexpects
    have hjoined : Signal.controlPlaneJoined.course.Sublist (signals ds) :=
      List.Sublist.trans (by decide) hcompleted
    have hinit : s.initialized = true := h.initialized.trans ((h.complete _).mpr hjoined)
    exact ⟨_, if_pos hinit⟩

/-- A signal that is passed over completes no course. -/
theorem Tracks.passed (h : Tracks ds s) (hexpects : s.expects d.signal = false) :
    Tracks (ds ++ [d]) s where
  complete signal := by
    rw [h.complete, course_concat_iff]
    refine ⟨.inl, ?_⟩
    rintro (hdone | ⟨rfl, hbefore⟩)
    · exact hdone
    · rw [← h.expects_iff, hexpects] at hbefore
      cases hbefore
  since signal o hget htrue := (h.since signal o hget htrue).concat
  initialized := h.initialized
  ready := h.ready

/-- A signal that is received completes its own course, unless that was complete. -/
theorem Tracks.received {latched : Status} (h : Tracks ds s) (hexpects : s.expects d.signal = true)
    (hlatch : s.latch d.signal = .ok latched) :
    Tracks (ds ++ [d]) (latched.report d.signal.condition .holds d.signal.reason d.signal.message
      d.generation d.now) := by
  have hbefore : d.signal.predecessors.Sublist (signals ds) := h.expects_iff.mp hexpects
  have hown : d.signal.course.Sublist (signals (ds ++ [d])) :=
    course_concat_iff.mpr (.inr ⟨rfl, hbefore⟩)
  have hconditions : latched.conditions = s.conditions := by rw [Status.latch_eq hlatch]
  have hkept : ∀ type, latched.isTrue type = s.isTrue type := fun type => by
    rw [Status.latch_eq hlatch]
    rfl
  constructor
  · intro signal
    rw [Status.isTrue_report, course_concat_iff]
    by_cases hsame : signal = d.signal
    · simp [hsame, hbefore]
    · rw [if_neg fun hc => hsame (Signal.condition_injective hc), hkept, h.complete]
      simp [hsame]
  · intro signal o hget htrue
    unfold Status.report at hget
    dsimp only at hget
    rw [ConditionSet.get?_set, hconditions] at hget
    by_cases hsame : signal = d.signal
    · subst hsame
      rw [if_pos rfl] at hget
      cases hget
      -- The moment is kept if the condition was true before, and is that of this delivery if not.
      by_cases hdone : s.isTrue d.signal.condition = true
      · obtain ⟨o, hold, hstatus⟩ := Status.isTrue_iff.mp hdone
        rw [hold]
        have hsince := h.since d.signal o hold hdone
        simpa [ConditionSet.refreshed, hstatus] using hsince.concat
      · refine ⟨ds, d, [], rfl, fun hcourse => hdone ((h.complete _).mpr hcourse), hown, ?_⟩
        cases hold : s.conditions.get? d.signal.condition.text with
        | none => rfl
        | some o =>
          have hstatus : o.status ≠ ConditionStatus.text .holds := fun hstatus =>
            hdone (Status.isTrue_iff.mpr ⟨o, hold, hstatus⟩)
          simp [ConditionSet.refreshed, hstatus]
    · have hother : signal.condition.text ≠ d.signal.condition.text := fun hc =>
        hsame (Signal.condition_injective (ConditionType.text_injective hc))
      rw [if_neg hother] at hget
      rw [Status.isTrue_report, if_neg fun hc => hsame (Signal.condition_injective hc), hkept]
        at htrue
      exact (h.since signal o hget htrue).concat
  · rw [Status.report_initialized, Status.latch_eq hlatch, Status.isTrue_report]
    cases d.signal <;> simp [Signal.condition, h.initialized, Status.isTrue]
  · rw [Status.report_ready, Status.latch_eq hlatch, Status.isTrue_report]
    cases d.signal <;> simp [Signal.condition, h.ready, Status.isTrue]

/-- One delivery makes no violation, and what is tracked goes on. -/
theorem Tracks.step (h : Tracks ds s) (d : Delivery) :
    ∃ changed s', d.deliver.run.run s = (.ok changed, s') ∧ Tracks (ds ++ [d]) s' := by
  rw [run_deliver]
  obtain ⟨hexpects, hpassed⟩ | ⟨violation, hexpects, hrefused, -⟩ |
      ⟨latched, hexpects, hlatch, hreceived⟩ := receive_cases s d
  · exact ⟨false, s, by rw [hpassed], h.passed hexpects⟩
  · obtain ⟨latched, hset⟩ := h.latch hexpects
    rw [hset] at hrefused
    cases hrefused
  · exact ⟨_, _, by rw [hreceived], h.received hexpects hlatch⟩

/-- Whatever is delivered to a status before anything was observed, it is tracked. -/
theorem run_tracks (ds : List Delivery) :
    ∃ changes s, (ds.mapM deliver).run.run .blank = (.ok changes, s) ∧ Tracks ds s := by
  induction ds using List.reverseRecOn with
  | nil => exact ⟨[], .blank, rfl, tracks_blank⟩
  | append_singleton ds d ih =>
    obtain ⟨changes, s, hrun, htracks⟩ := ih
    obtain ⟨changed, s', hstep, hnext⟩ := htracks.step d
    refine ⟨changes ++ [changed], s', ?_, hnext⟩
    have hone : ([d].mapM deliver).run.run s = (.ok [changed], s') := by
      rw [List.mapM_cons, run_bind, hstep]
      rfl
    rw [List.mapM_append, run_bind, hrun]
    dsimp only
    rw [run_bind, hone]
    rfl

/-! ### Signals in any order -/

/-- What a status that nothing was observed of has come to, after some deliveries. -/
structure Settles (ds : List Delivery) (s : Status) : Prop where
  initialized : s.initialized = true ↔ .controlPlaneJoined ∈ signals ds
  joined : s.isTrue .controlPlaneInitialized = true ↔ .controlPlaneJoined ∈ signals ds
  bootstrapComplete : s.isTrue .bootstrapComplete = true ↔
    [.controlPlaneJoined, .bootstrapCompleted].Sublist (signals ds)
  ready : s.ready = true ↔
    [.controlPlaneJoined, .bootstrapCompleted, .bootstrapMachineDeleted].Sublist (signals ds)
  readyReported : s.isTrue .ready = true ↔
    [.controlPlaneJoined, .bootstrapCompleted, .bootstrapMachineDeleted].Sublist (signals ds)
  /-- What is true is so since the moment at which its course was complete. -/
  since : ∀ signal : Signal, s.isTrue signal.condition = true →
    ∃ o, s.conditions.get? signal.condition.text = some o ∧ CompletedAt signal.course ds o.since

theorem Tracks.settles (h : Tracks ds s) : Settles ds s where
  initialized := by
    rw [h.initialized, ← List.singleton_sublist]
    exact h.complete .controlPlaneJoined
  joined := by
    rw [← List.singleton_sublist]
    exact h.complete .controlPlaneJoined
  bootstrapComplete := h.complete .bootstrapCompleted
  ready := by
    rw [h.ready]
    exact h.complete .bootstrapMachineDeleted
  readyReported := h.complete .bootstrapMachineDeleted
  since signal htrue := by
    obtain ⟨o, hget, -⟩ := Status.isTrue_iff.mp htrue
    exact ⟨o, hget, h.since signal o hget htrue⟩

/-- What one delivery does to a status, whatever that is. -/
structure Applies (d : Delivery) (s : Status) : Prop where
  /-- It does what the signal does that is received. -/
  received : d.deliver.run.run s =
    match s.receive d.signal d.generation d.now with
    | .ok (changed, s') => (.ok changed, s')
    | .error violation => (.error violation, s)
  /-- It says that it changes the status if and only if it does. -/
  changed : ∀ changed s', d.deliver.run.run s = (.ok changed, s') → (changed = true ↔ s' ≠ s)
  /-- A violation changes nothing. -/
  refused : ∀ violation s', d.deliver.run.run s = (.error violation, s') → s' = s
  /-- At any later moment the same does not change anything. -/
  again : ∀ r s' now, d.deliver.run.run s = (r, s') →
    { d with now }.deliver.run.run s' = (r.map fun _ => false, s')

theorem applies (d : Delivery) (s : Status) : d.Applies s where
  received := run_deliver
  changed changed s' h := by
    rw [run_deliver] at h
    obtain ⟨-, hpassed⟩ | ⟨violation, -, -, hrefused⟩ | ⟨latched, hexpects, hlatch, hreceived⟩ :=
      receive_cases s d
    · rw [hpassed] at h
      cases h
      simp
    · rw [hrefused] at h
      cases h
    · rw [hreceived] at h
      cases h
      exact changed_iff hlatch
  refused violation s' h := by
    rw [run_deliver] at h
    cases hreceive : s.receive d.signal d.generation d.now with
    | error violation =>
      rw [hreceive] at h
      cases h
      rfl
    | ok out =>
      rw [hreceive] at h
      cases h
  again r s' now h := by
    rw [run_deliver] at h
    obtain ⟨-, hpassed⟩ | ⟨violation, -, -, hrefused⟩ | ⟨latched, hexpects, hlatch, hreceived⟩ :=
      receive_cases s d
    · rw [hpassed] at h
      cases h
      rw [run_deliver, hpassed]
      rfl
    · rw [hrefused] at h
      cases h
      rw [run_deliver, hrefused]
      rfl
    · rw [hreceived] at h
      cases h
      rw [run_deliver, receive_again hreceived]
      rfl

/-- **Signals in any order.**  Whatever signals are delivered to a status before anything was
observed, under any generations and at any moments, none of them is a violation, and the latches
and the conditions say which courses are complete, and since when.  One delivery to any status
whatever tells whether it changes anything, changes nothing if it is a violation, and changes
nothing when it comes again. -/
theorem signals_in_any_order :
    (∀ ds : List Delivery, ∃ changes s,
      (ds.mapM deliver).run.run .blank = (.ok changes, s) ∧ Settles ds s) ∧
    ∀ (d : Delivery) (s : Status), d.Applies s := by
  refine ⟨fun ds => ?_, applies⟩
  obtain ⟨changes, s, hrun, htracks⟩ := run_tracks ds
  exact ⟨changes, s, hrun, htracks.settles⟩

/-- An end of the bootstrap that comes before the join counts for nothing: it takes the second one
to make the control plane ready. -/
theorem settles_behind_joined :
    let completed : Delivery := ⟨.bootstrapCompleted, some 1, ⟨10, 0⟩⟩
    let joined : Delivery := ⟨.controlPlaneJoined, some 1, ⟨20, 0⟩⟩
    let deleted : Delivery := ⟨.bootstrapMachineDeleted, some 2, ⟨30, 0⟩⟩
    (∃ changes s, ([completed, joined, deleted].mapM deliver).run.run .blank = (.ok changes, s) ∧
      s.initialized = true ∧ s.isTrue .bootstrapComplete = false ∧ s.ready = false) ∧
    (∃ changes s, ([completed, joined, completed, deleted].mapM deliver).run.run .blank =
        (.ok changes, s) ∧ s.isTrue .bootstrapComplete = true ∧ s.ready = true) ∧
    (joined.deliver.run.run (joined.deliver.run.run .blank).2).1 = .ok false := by
  intro completed joined deleted
  refine ⟨?_, ?_, ?_⟩
  · obtain ⟨changes, s, hrun, hsettles⟩ :=
      signals_in_any_order.1 [completed, joined, deleted]
    refine ⟨changes, s, hrun, hsettles.initialized.mpr (by decide), ?_, ?_⟩
    · exact Bool.eq_false_iff.mpr fun h => absurd (hsettles.bootstrapComplete.mp h) (by decide)
    · exact Bool.eq_false_iff.mpr fun h => absurd (hsettles.ready.mp h) (by decide)
  · obtain ⟨changes, s, hrun, hsettles⟩ :=
      signals_in_any_order.1 [completed, joined, completed, deleted]
    exact ⟨changes, s, hrun, hsettles.bootstrapComplete.mpr (by decide),
      hsettles.ready.mpr (by decide)⟩
  · exact congrArg Prod.fst
      ((signals_in_any_order.2 joined .blank).again (.ok true) _ joined.now rfl)

end Delivery

end ControlPlane
