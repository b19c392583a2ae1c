/-
Whether a template that is bound is reported as bound.

Before a machine has joined, every pass looks up again what to install from.  The condition that
reports the template as bound reports this look-up as well: it becomes true if something is found
and false if nothing is, also when a template is bound already.  A refused spec, and every later
step, leaves the condition of a bound template alone.

So a template that was stored as bound stays reported as bound just if no pass that stored its
status has missed its look-up over a bound template.  A secret that is deleted takes the report
back.
-/
import ControlPlane.Proofs.Frames
import ControlPlane.Proofs.History

namespace ControlPlane

open Program (Runs)

/-- A condition that is false is not true. -/
theorem Status.isTrue_eq_false_of_fails {s : Status} {type : ConditionType}
    (h : s.conditions.hasStatus type.text .fails = true) : s.isTrue type = false := by
  unfold isTrue ConditionSet.isTrue
  unfold ConditionSet.hasStatus at h ⊢
  cases hget : s.conditions.get? type.text with
  | none => rfl
  | some o =>
    rw [hget] at h
    have hstatus : o.status = ConditionStatus.text .fails := of_decide_eq_true h
    dsimp only
    rw [hstatus]
    rfl

/-- A template that is bound is reported as bound. -/
def Status.ReportsBound (s : Status) : Prop :=
  s.boundTemplate.isSome = true → s.isTrue .templateBound = true

theorem Status.reportsBound_withTimes {s : Status} {f : Time → Time} :
    (s.withTimes f).ReportsBound ↔ s.ReportsBound := by
  simp [ReportsBound]

namespace Pass

variable {p : Pass} {before s : Status} {log earlier asked : Calls} {l : List Entry}
  {reports : List Report} {now : Time} {r : Except Stop Requeue} {s' : Standing}

/-! ### The look-up of a pass -/

/-- The look-up is made, and there is nothing to install from. -/
def Misses (p : Pass) (log : Calls) : Prop :=
  (∃ x ∈ log, x.1.step = .templateBound) ∧ ¬p.Found log

/-- What becomes of the bound template and of the report of it goes by the look-up. -/
inductive Binds (p : Pass) (before : Status) (log : Calls) (after : Status) : Prop where
  | found (h : p.Found log) (hbound : after.boundTemplate.isSome = true)
      (htrue : after.isTrue .templateBound = true)
  | missed (h : p.Misses log) (hbound : after.boundTemplate = before.boundTemplate)
      (hfalse : after.isTrue .templateBound = false)
  | unasked (h : ∀ x ∈ log, x.1.step ≠ .templateBound)
      (hbound : after.boundTemplate = before.boundTemplate)
      (hsame : before.boundTemplate.isSome = true →
        after.isTrue .templateBound = before.isTrue .templateBound)

/-- Past the look-up nothing is reported of the template. -/
theorem Reached.binds {n : Nat} (h : p.Reached before earlier n l s) (hn : 0 < n)
    (hrises : Status.Rises n reports) (hasked : ∀ x ∈ asked, n ≤ x.1.step.place) :
    p.Binds before (earlier ++ asked) (s.tell reports p.generation now) := by
  cases hhas : Entry.has l .templateBound with
  | true =>
    refine .found (h.found hhas).append ?_
      (h.isTrue_tell hrises hn ((h.took .templateBound hn).mpr hhas))
    rw [Status.tell_boundTemplate, h.boundTemplate, hhas]
    rfl
  | false =>
    refine .unasked ?_ ?_ fun _ => ?_
    · refine List.forall_mem_append.mpr ⟨fun x hx hstep => ?_, fun x hx hstep => ?_⟩
      · rw [(h.took .templateBound hn).mp (.inl ⟨x, hx, hstep⟩)] at hhas
        cases hhas
      · have hle := hasked x hx
        rw [hstep] at hle
        exact absurd hn (Nat.not_lt_of_le hle)
    · rw [Status.tell_boundTemplate, h.boundTemplate, hhas]
      rfl
    · have hget : (s.tell reports p.generation now).conditions.get?
          (ConditionType.text .templateBound) =
            before.conditions.get? (ConditionType.text .templateBound) := by
        refine h.get?_tell (fun e he hsame => ?_) fun r hr hsame => ?_
        · exact Entry.has_eq_false_iff.mp hhas e he (ConditionType.text_injective hsame).symm
        · have hle := hrises.le_place hr
          rw [← ConditionType.text_injective hsame] at hle
          exact absurd hn (Nat.not_lt_of_le hle)
      unfold Status.isTrue ConditionSet.isTrue ConditionSet.hasStatus
      rw [hget]

theorem binds_of_ended (h : p.Ended before log r s') :
    p.Binds before log (p.outcome (r, s')).status := by
  cases h with
  | @failed earlier asked type l s why now hreached hasked hwhy hfound =>
    by_cases hfirst : type = .templateBound
    · subst hfirst
      have hstops := hreached.stopsAt_failed hasked hwhy
      obtain ⟨init, c, reply, rfl, hstep, -⟩ := hasked.exists_last
      refine .missed ⟨⟨⟨c, reply⟩, by simp, hstep⟩, hfound rfl⟩ (hstops.boundTemplate rfl) ?_
      exact Status.isTrue_eq_false_of_fails (hstops.fails (by simp))
    · dsimp only [outcome]
      rw [Status.reportError_eq_tell]
      refine hreached.binds (Nat.pos_of_ne_zero fun hzero => hfirst ?_)
        (closes_errorReports hwhy hasked.place_lt).rises
        fun x hx => Nat.le_of_eq (congrArg _ (hasked.step x hx).symm)
      exact ConditionType.place_injective hzero
  | @waits earlier asked type l s reason message now hreached hasked hne =>
    refine hreached.binds (Nat.pos_of_ne_zero fun hzero => hne ?_)
      (closes_waitReports hasked.place_lt).rises
      fun x hx => Nat.le_of_eq (congrArg _ (hasked.step x hx).symm)
    exact ConditionType.place_injective hzero
  | @done log l s now hreached hnow =>
    have hbinds : p.Binds before (log ++ []) (p.concluded s now) :=
      hreached.binds (Nat.succ_pos _) Status.rises_endReports (by simp)
    rwa [List.append_nil] at hbinds

/-- A change of other conditions leaves the report of the template. -/
theorem Binds.quiet {changed : String → Prop} {after : Status}
    (h : before.SameBut changed after)
    (hother : before.boundTemplate.isSome = true → ¬changed (ConditionType.text .templateBound)) :
    p.Binds before [] after := by
  refine .unasked (by simp) h.boundTemplate fun hbound => ?_
  unfold Status.isTrue ConditionSet.isTrue ConditionSet.hasStatus
  rw [h.conditions _ (hother hbound)]

/-- **What a pass makes of the report of the template.**  Something to install from makes it true,
and nothing to install from makes it false.  Without a look-up it stays once a template is
bound. -/
theorem binds_outcome {start : Time} {o : PassOutcome} (hrun : Runs (p.run start) log (some o)) :
    p.Binds (p.resource.status.getD .blank) log o.status := by
  rcases judge_cases hrun with haccepted | ⟨why, hrefused⟩
  · cases hready : (p.resource.status.getD .blank).ready with
    | true =>
      obtain ⟨rfl, hsame⟩ := left_of_finished haccepted hready hrun
      exact .quiet hsame fun _ => by decide
    | false =>
      obtain ⟨r, s', hwalk, rfl⟩ := exists_walked hrun
      exact binds_of_ended (ended_of_goes (goes_walk log r s' hwalk) haccepted hready)
  · obtain ⟨rfl, hsame⟩ := left_of_refusal hrefused hrun
    refine .quiet hsame ?_
    rintro hbound (hkey | ⟨-, hunbound⟩)
    · exact absurd hkey (by decide)
    · rw [hunbound] at hbound
      cases hbound

namespace Binds

variable {after : Status}

/-- A template that is bound stays bound. -/
theorem bound_of_bound (h : p.Binds before log after)
    (hbefore : before.boundTemplate.isSome = true) : after.boundTemplate.isSome = true := by
  cases h with
  | found _ hbound _ => exact hbound
  | missed _ hbound _ => exact hbound ▸ hbefore
  | unasked _ hbound _ => exact hbound ▸ hbefore

/-- A template that is bound by the pass is reported as bound. -/
theorem bound_or_isTrue (h : p.Binds before log after)
    (hafter : after.boundTemplate.isSome = true) :
    before.boundTemplate.isSome = true ∨ after.isTrue .templateBound = true := by
  cases h with
  | found _ _ htrue => exact .inr htrue
  | missed _ hbound _ => exact .inl (hbound ▸ hafter)
  | unasked _ hbound _ => exact .inl (hbound ▸ hafter)

/-- Only a look-up that finds nothing takes the report of a bound template back. -/
theorem reportsBound_iff (h : p.Binds before log after) (hbefore : before.ReportsBound) :
    after.ReportsBound ↔ (p.Misses log → before.boundTemplate = none) := by
  cases h with
  | found hfound _ htrue =>
    exact iff_of_true (fun _ => htrue) fun hmisses => absurd hfound hmisses.2
  | missed hmisses hbound hfalse =>
    unfold Status.ReportsBound
    rw [hbound, hfalse]
    cases before.boundTemplate <;> simp [hmisses]
  | unasked hquiet hbound hsame =>
    refine iff_of_true (fun hafter => ?_) fun ⟨⟨x, hx, hstep⟩, _⟩ => absurd hstep (hquiet x hx)
    rw [hbound] at hafter
    rw [hsame hafter]
    exact hbefore hafter

end Binds

end Pass

/-! ### From pass to pass -/

namespace Turn

variable {t : Turn} {ns : String}

/-- A turn looks for something to install from, and there is nothing. -/
def Misses (t : Turn) (ns : String) : Prop :=
  (t.controller.passOver t.resource ns).Misses (Effects.calls t.log)

/-- What a turn writes has the report that its pass makes of the template. -/
theorem binds_of_write {w : Write} (hns : t.resource.metadata.ns = some ns)
    (hw : w ∈ Effects.writes t.log) :
    (t.controller.passOver t.resource ns).Binds (t.resource.status.getD .blank)
      (Effects.calls t.log) w.status := by
  obtain ⟨-, -, -, -, walked, hwalk, hstatus⟩ := Controller.of_mem_writes hns t.runs hw
  rw [hstatus]
  exact Pass.binds_outcome (Pass.runs_of_walked hwalk)

end Turn

/-- The statuses of a resource that were stored one after the other, the last one first, and the
turns that have written them.  A resource begins without a status, a turn is handed the status that
is stored, and the store may keep its times less exactly.  A turn whose write is not taken does not
show. -/
inductive Ledger (ns name : String) : List Status → List Turn → Prop where
  | created : Ledger ns name [] []
  | written {statuses : List Status} {turns : List Turn} {t : Turn} {w : Write}
      (earlier : Ledger ns name statuses turns) (hns : t.resource.metadata.ns = some ns)
      (hname : t.resource.name = name) (hstored : t.resource.status = statuses.head?)
      (hw : w ∈ Effects.writes t.log) (f : Time → Time) :
      Ledger ns name (w.status.withTimes f :: statuses) (t :: turns)

namespace Ledger

variable {ns name : String} {statuses : List Status} {turns : List Turn}

/-- Every history of a resource leaves a ledger of what it has stored. -/
theorem exists_of_history {last : Option Status} (h : History ns name none turns last) :
    ∃ statuses stored, Ledger ns name statuses stored ∧ statuses.head? = last ∧
      stored.Sublist turns.reverse := by
  induction h with
  | start => exact ⟨[], [], .created, rfl, List.Sublist.refl _⟩
  | @turn turns stored after t _ hns hname hstored hafter ih =>
    obtain ⟨statuses, written, hledger, hhead, hsub⟩ := ih
    rw [List.reverse_concat]
    cases hafter with
    | kept _ => exact ⟨statuses, written, hledger, hhead.trans hstored.symm, hsub.cons t⟩
    | stored hw f =>
      exact ⟨_, _, .written hledger hns hname (hstored.trans hhead.symm) hw f, rfl,
        hsub.cons_cons t⟩

/-- A template that was stored as bound is bound in the last status. -/
theorem stays_bound (h : Ledger ns name statuses turns) :
    ∀ s ∈ statuses, s.boundTemplate.isSome = true →
      (statuses.head?.getD .blank).boundTemplate.isSome = true := by
  induction h with
  | created => simp
  | @written statuses turns t w earlier hns hname hstored hw f ih =>
    refine List.forall_mem_cons.mpr ⟨id, fun s hs hbound => ?_⟩
    have hbefore := ih s hs hbound
    rw [← hstored] at hbefore
    exact (Turn.binds_of_write hns hw).bound_of_bound hbefore

theorem reportsBound_head (h : ∀ s ∈ statuses, s.ReportsBound) :
    (statuses.head?.getD .blank).ReportsBound := by
  cases statuses with
  | nil => exact nofun
  | cons s statuses => exact h s List.mem_cons_self

/-- All bound templates are reported as bound if no turn has missed its look-up over one. -/
theorem reportsBound_iff (h : Ledger ns name statuses turns) :
    (∀ s ∈ statuses, s.ReportsBound) ↔
      ∀ t ∈ turns, t.Misses ns → t.resource.acceptedTemplate = none := by
  induction h with
  | created => simp
  | @written statuses turns t w earlier hns hname hstored hw f ih =>
    rw [List.forall_mem_cons, List.forall_mem_cons, ← ih]
    refine and_congr_left fun hall => ?_
    have hbefore := reportsBound_head hall
    rw [← hstored] at hbefore
    rw [Status.reportsBound_withTimes, (Turn.binds_of_write hns hw).reportsBound_iff hbefore,
      Status.boundTemplate_getD]
    rfl

/-- A template that was stored as bound is reported as bound from then on just if it is whenever
it is bound: the pass that binds it reports it. -/
theorem pairwise_iff (h : Ledger ns name statuses turns) :
    statuses.Pairwise (fun newer older =>
        older.boundTemplate.isSome = true → newer.isTrue .templateBound = true) ↔
      ∀ s ∈ statuses, s.ReportsBound := by
  induction h with
  | created => simp
  | @written statuses turns t w earlier hns hname hstored hw f ih =>
    have hledger : Ledger ns name (w.status.withTimes f :: statuses) (t :: turns) :=
      .written earlier hns hname hstored hw f
    rw [List.pairwise_cons, List.forall_mem_cons, ih]
    refine and_congr_left fun _ => ⟨fun hlast hbound => ?_, fun hreports older holder hbound => ?_⟩
    · rw [Status.withTimes_boundTemplate] at hbound
      rcases (Turn.binds_of_write hns hw).bound_or_isTrue hbound with hbefore | htrue
      · rw [hstored] at hbefore
        cases statuses with
        | nil => cases hbefore
        | cons before statuses => exact hlast before List.mem_cons_self hbefore
      · rw [Status.isTrue_withTimes]
        exact htrue
    · exact hreports (hledger.stays_bound older (List.mem_cons_of_mem _ holder) hbound)

/-- **When a bound template stays reported as bound.**  Whatever edits of the spec there are
between the passes over a resource, and whatever the answers: once a status is stored with a bound
template, every status that is stored later reports it as bound, if and only if no pass that
stored its status looked for something to install from and found nothing although a template was
bound. -/
theorem stays_reported_iff (h : Ledger ns name statuses turns) :
    statuses.Pairwise (fun newer older =>
        older.boundTemplate.isSome = true → newer.isTrue .templateBound = true) ↔
      ∀ t ∈ turns, t.Misses ns → t.resource.acceptedTemplate = none :=
  h.pairwise_iff.trans h.reportsBound_iff

/-- At the end of a history in which no turn has missed its look-up over a bound template, a
template that is bound is reported as bound. -/
theorem isTrue_of_history {s : Status} (h : History ns name none turns (some s))
    (hfound : ∀ t ∈ turns, t.Misses ns → t.resource.acceptedTemplate = none)
    (hbound : s.boundTemplate.isSome = true) : s.isTrue .templateBound = true := by
  obtain ⟨statuses, stored, hledger, hhead, hsub⟩ := exists_of_history h
  have hreports : ∀ s ∈ statuses, s.ReportsBound := hledger.reportsBound_iff.mpr fun t ht =>
    hfound t (List.mem_reverse.mp (hsub.subset ht))
  exact hreports s (List.mem_of_mem_head? hhead) hbound

/-! ### A secret that is deleted -/

/-- The first turn binds the template, and the secret is gone before the second one. -/
theorem exists_deleted : ∃ s s' turns, Ledger "clusters" "demo" [s', s] turns ∧
    s.boundTemplate.isSome = true ∧ s'.isTrue .templateBound = false := by
  have hfirst : (Demo.written none Demo.world).map (·.boundTemplate) =
      some (some Demo.template) := by decide +kernel
  have hsecond : ((Demo.written none Demo.world).bind fun s =>
      Demo.written (some (s.withTimes id)) Demo.emptyWorld).map (·.isTrue .templateBound) =
        some false := by decide +kernel
  obtain ⟨s, hs, hbound⟩ := Option.map_eq_some_iff.mp hfirst
  rw [hs, Option.bind_some] at hsecond
  obtain ⟨s', hs', hfalse⟩ := Option.map_eq_some_iff.mp hsecond
  obtain ⟨w, hw, rfl⟩ := Demo.exists_write hs
  obtain ⟨w', hw', rfl⟩ := Demo.exists_write hs'
  have hlog : w ∈ Effects.writes (History.demoTurn none Demo.world).log := hw
  have hlog' : w' ∈ Effects.writes (History.demoTurn (some (w.status.withTimes id))
      Demo.emptyWorld).log := hw'
  have hone : Ledger "clusters" "demo" [w.status.withTimes id] _ :=
    .written .created rfl rfl rfl hlog id
  have htwo := hone.written rfl rfl rfl hlog' id
  refine ⟨_, _, _, htwo, ?_, ?_⟩
  · rw [Status.withTimes_boundTemplate, hbound]
    rfl
  · rw [Status.isTrue_withTimes, hfalse]

/-- The second turn reports the template that is bound as not bound. -/
theorem report_taken_back : ∃ statuses turns, Ledger "clusters" "demo" statuses turns ∧
    ¬statuses.Pairwise (fun newer older =>
      older.boundTemplate.isSome = true → newer.isTrue .templateBound = true) := by
  obtain ⟨s, s', turns, hledger, hbound, hfalse⟩ := exists_deleted
  refine ⟨_, turns, hledger, fun hpairwise => ?_⟩
  rw [(List.pairwise_cons.mp hpairwise).1 s (List.mem_singleton_self s) hbound] at hfalse
  cases hfalse

theorem stays_reported_iff_deleted : ∃ statuses turns, Ledger "clusters" "demo" statuses turns ∧
    ¬∀ t ∈ turns, t.Misses "clusters" → t.resource.acceptedTemplate = none := by
  obtain ⟨s, s', turns, hledger, hbound, hfalse⟩ := exists_deleted
  refine ⟨_, turns, hledger, fun hnone => ?_⟩
  have hpairwise := (stays_reported_iff hledger).mpr hnone
  rw [(List.pairwise_cons.mp hpairwise).1 s (List.mem_singleton_self s) hbound] at hfalse
  cases hfalse

end Ledger

end ControlPlane
