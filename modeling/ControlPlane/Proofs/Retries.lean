/-
Retries over whole runs of the controller.

A session is all that is done with any resources, in the order in which it ends: a
reconciliation that returns an action, one that returns an error, one that breaks off, and the
retry that an error is followed by.  Reconciliations may overlap.  But a reconciliation looks at
the retries of its resource only at its end, so to take each as if it were made at its end leaves
nothing out.

The row of delays of a resource moves on at two places, at the end of a pass that backs off
and in a retry, and is reset at a third.  A failed write comes before either end of a pass,
so a reconciliation that fails leaves the row to the retry.  The row stands where the count
of these moves says, since no two resources share a key.
-/
import ControlPlane.Proofs.Backoff
import ControlPlane.Proofs.Names
import ControlPlane.Proofs.Requeue

namespace ControlPlane

open Program (Runs)

namespace Demo

/-- A reconciliation of the resource by a controller. -/
def reconciled (c : Controller) (w : InMemory.World) : Controller.Returned × Controller :=
  ((c.reconcile (resource none) ⟨0, 0⟩).run InMemory.World.answer w).1

theorem runs_reconciled {c : Controller} {w : InMemory.World} {returned : Controller.Returned}
    (h : (reconciled c w).1 = returned) :
    Runs (c.reconcile (resource none) ⟨0, 0⟩)
      ((c.reconcile (resource none) ⟨0, 0⟩).trace InMemory.World.answer w)
      (returned, (reconciled c w).2) := by
  subst h
  exact Program.runs_trace _ _ w

/-- Collaborators that reject all writes. -/
def unwritableWorld : InMemory.World := { emptyWorld with writerFails := true }

def rejected : ControllerError := .dependencyUnavailable "status write rejected"

end Demo

/-- What tells a resource from all others. -/
def Resource.key (r : Resource) : ObjectKey := ⟨r.metadata.ns.getD "", r.name⟩

/-- What was done with a resource once. -/
inductive Attempt where
  /-- A reconciliation came to this verdict on its pass and returned an action. -/
  | settled (r : Resource) (v : Controller.Verdict) (action : Action)
  /-- A reconciliation returned an error. -/
  | failed (r : Resource) (e : ControllerError)
  /-- A reconciliation broke off and returned nothing. -/
  | brokeOff (r : Resource)
  /-- An error was followed by an action. -/
  | retried (r : Resource) (e : ControllerError) (action : Action)

namespace Attempt

def resource : Attempt → Resource
  | settled r _ _ | failed r _ | brokeOff r | retried r _ _ => r

def action? : Attempt → Option Action
  | settled _ _ action | retried _ _ action => some action
  | failed _ _ | brokeOff _ => none

/-- The action is one of backing off: the pass asks for it, or an error is followed up. -/
def BacksOff : Attempt → Prop
  | settled _ v _ => v.requeue = .backoff
  | failed _ _ | brokeOff _ => False
  | retried _ _ _ => True

/-- A reconciliation returned an action, and its pass had no error. -/
def Clears : Attempt → Prop
  | settled _ v _ => v.error = none
  | failed _ _ | brokeOff _ | retried _ _ _ => False

instance (a : Attempt) : Decidable a.BacksOff := by
  cases a <;> unfold BacksOff <;> infer_instance

instance (a : Attempt) : Decidable a.Clears := by
  cases a <;> unfold Clears <;> infer_instance

end Attempt

/-- How often a resource has backed off since it was cleared last, where the attempts are
listed from the last one back. -/
def misses (k : ObjectKey) (attempts : List Attempt) : Nat :=
  (attempts.takeWhile fun a => ¬(a.resource.key = k ∧ a.Clears)).countP fun a =>
    a.resource.key = k ∧ a.BacksOff

section Misses

variable {k : ObjectKey} {a : Attempt} {attempts : List Attempt}

theorem misses_of_other (h : a.resource.key ≠ k) : misses k (a :: attempts) = misses k attempts := by
  simp [misses, h]

theorem misses_of_clears (h : a.Clears) : misses a.resource.key (a :: attempts) = 0 := by
  simp [misses, h]

theorem misses_of_backsOff (hclears : ¬a.Clears) (h : a.BacksOff) :
    misses a.resource.key (a :: attempts) = misses a.resource.key attempts + 1 := by
  simp [misses, hclears, h]

theorem misses_of_neither (hclears : ¬a.Clears) (h : ¬a.BacksOff) :
    misses k (a :: attempts) = misses k attempts := by
  simp [misses, hclears, h]

variable {r : Resource} {e : ControllerError} {action : Action}

theorem misses_failed : misses k (.failed r e :: attempts) = misses k attempts := by
  have hclears : ¬(Attempt.failed r e).Clears := not_false
  exact misses_of_neither hclears not_false

theorem misses_brokeOff : misses k (.brokeOff r :: attempts) = misses k attempts := by
  have hclears : ¬(Attempt.brokeOff r).Clears := not_false
  exact misses_of_neither hclears not_false

theorem misses_retried :
    misses r.key (.retried r e action :: attempts) = misses r.key attempts + 1 := by
  have hclears : ¬(Attempt.retried r e action).Clears := not_false
  exact misses_of_backsOff hclears trivial

end Misses

namespace Controller

variable {config : Config} {c c' : Controller} {r : Resource} {v : Verdict} {log : Effects}
  {start : Time} {action : Action} {e : ControllerError} {attempts : List Attempt}

/-- The verdict on the pass of a reconciliation. -/
def Judges (c : Controller) (r : Resource) (start : Time) (log : Effects) (v : Verdict) : Prop :=
  ∃ ns walked, r.metadata.ns = some ns ∧
    Runs ((c.passOver r ns).walk (standingAt r start)) (Effects.calls log) (some walked) ∧
    v = settle r ((c.passOver r ns).outcome walked)

/-- What was done by a controller with all its resources so far, the last attempt first, and
the controller after it. -/
inductive Session (config : Config) : List Attempt → Controller → Prop where
  | start : Session config [] (.start config)
  | settled {c c' : Controller} {attempts : List Attempt} {r : Resource} {start : Time}
      {log : Effects} {v : Verdict} {action : Action} (earlier : Session config attempts c)
      (hruns : Runs (c.reconcile r start) log (some (.ok action), c'))
      (hv : c.Judges r start log v) :
      Session config (.settled r v action :: attempts) c'
  | failed {c c' : Controller} {attempts : List Attempt} {r : Resource} {start : Time}
      {log : Effects} {e : ControllerError} (earlier : Session config attempts c)
      (hruns : Runs (c.reconcile r start) log (some (.error e), c')) :
      Session config (.failed r e :: attempts) c'
  | brokeOff {c c' : Controller} {attempts : List Attempt} {r : Resource} {start : Time}
      {log : Effects} (earlier : Session config attempts c)
      (hruns : Runs (c.reconcile r start) log (none, c')) :
      Session config (.brokeOff r :: attempts) c'
  | retried {c : Controller} {attempts : List Attempt} (earlier : Session config attempts c)
      (r : Resource) (e : ControllerError) :
      Session config (.retried r e (c.retry r e).1 :: attempts) (c.retry r e).2

/-! ### The ends of a reconciliation -/

theorem keyOf_eq (r : Resource) : keyOf r = r.key.text := rfl

/-- A verdict asks for backing off over a transient error and over nothing else: a discarded
pass waits for a change. -/
theorem Judges.backs_off_iff (h : c.Judges r start log v) :
    v.requeue = .backoff ↔ ∃ e, v.error = some e ∧ e.errorClass = .transient := by
  obtain ⟨ns, walked, -, hwalk, rfl⟩ := h
  have hgoes := Pass.goes_walk _ walked.1 walked.2 hwalk
  cases hcheck : Status.checkTransition r.status ((c.passOver r ns).outcome walked).status with
  | ok _ =>
    rw [settle_of_ok hcheck]
    exact Pass.backs_off_iff hgoes
  | error violation =>
    rw [settle_of_error hcheck]
    simp [ControllerError.errorClass]

/-- A reconciliation that returns an action concludes from the verdict on its pass. -/
theorem Judges.conclude_eq (h : c.Judges r start log v)
    (hruns : Runs (c.reconcile r start) log (some (.ok action), c')) :
    ∃ finish, (some (.ok action), c') = c.conclude r v start finish := by
  obtain ⟨ns, walked, hns, hwalk, rfl⟩ := h
  obtain ⟨-, -, hbroken⟩ | ⟨walked', hwalk', hend⟩ := runs_reconcile hns hruns
  · cases hbroken
  cases Program.runs_unique hwalk hwalk'
  dsimp only at hend
  rcases hend with ⟨-, -, hresult⟩ | ⟨s, reply, -, -, hresult⟩
  · exact ⟨_, hresult⟩
  · cases hreply : reply.result with
    | ok u =>
      rw [hreply] at hresult
      exact ⟨reply.arrival, hresult⟩
    | error e =>
      rw [hreply] at hresult
      cases hresult

/-- What comes after a verdict: the resource is cleared unless there was an error, and then it
backs off if it has to. -/
theorem conclude_spec (c : Controller) (r : Resource) (v : Verdict) (start finish : Time) :
    let t := match v.error with
      | none => c.backoff.reset (keyOf r)
      | some _ => c.backoff
    (c.conclude r v start finish).1 = some (.ok (match v.requeue with
        | .awaitChange => .awaitChange
        | .poll => .requeue c.config.signalPollInterval
        | .backoff => .requeue (t.next (keyOf r)).1)) ∧
      (c.conclude r v start finish).2.config = c.config ∧
      (c.conclude r v start finish).2.backoff = match v.requeue with
        | .awaitChange | .poll => t
        | .backoff => (t.next (keyOf r)).2 := by
  unfold conclude
  cases v.error <;> cases v.requeue <;> exact ⟨rfl, rfl, rfl⟩

/-- The three ends of a reconciliation that returns an action: it is cleared, it backs off, or
it stopped over an error that nothing but a change can help. -/
theorem settled_cases (hv : c.Judges r start log v)
    (hruns : Runs (c.reconcile r start) log (some (.ok action), c')) :
    (v.error = none ∧ c'.backoff = c.backoff.reset r.key.text) ∨
      (v.error ≠ none ∧ v.requeue = .backoff ∧ action = .requeue (c.backoff.next r.key.text).1 ∧
        c'.backoff = (c.backoff.next r.key.text).2) ∨
      (v.error ≠ none ∧ v.requeue ≠ .backoff ∧ c'.backoff = c.backoff) := by
  have hiff := hv.backs_off_iff
  obtain ⟨finish, hresult⟩ := hv.conclude_eq hruns
  obtain ⟨haction, -, hbackoff⟩ := conclude_spec c r v start finish
  rw [← hresult] at haction hbackoff
  rw [← keyOf_eq]
  dsimp only at haction hbackoff
  cases herror : v.error with
  | none =>
    have hrequeue : v.requeue ≠ .backoff := by simpa [herror] using hiff
    rw [herror] at hbackoff
    cases hvr : v.requeue with
    | backoff => exact absurd hvr hrequeue
    | poll => rw [hvr] at hbackoff; exact .inl ⟨rfl, hbackoff⟩
    | awaitChange => rw [hvr] at hbackoff; exact .inl ⟨rfl, hbackoff⟩
  | some e =>
    rw [herror] at haction hbackoff
    cases hvr : v.requeue with
    | backoff =>
      rw [hvr] at haction hbackoff
      exact .inr (.inl ⟨nofun, rfl, Except.ok.inj (Option.some.inj haction), hbackoff⟩)
    | poll => rw [hvr] at hbackoff; exact .inr (.inr ⟨nofun, nofun, hbackoff⟩)
    | awaitChange => rw [hvr] at hbackoff; exact .inr (.inr ⟨nofun, nofun, hbackoff⟩)

/-- A reconciliation that returns an error, or breaks off, leaves the retries alone. -/
theorem backoff_of_unsettled {returned : Returned}
    (hruns : Runs (c.reconcile r start) log (returned, c'))
    (hunsettled : ∀ action, returned ≠ some (.ok action)) : c'.backoff = c.backoff := by
  cases hns : r.metadata.ns with
  | none =>
    unfold reconcile at hruns
    rw [hns] at hruns
    cases hruns
    rfl
  | some ns =>
    obtain ⟨-, -, hbroken⟩ | ⟨walked, -, hend⟩ := runs_reconcile hns hruns
    · cases hbroken
      rfl
    dsimp only at hend
    rcases hend with ⟨-, -, hresult⟩ | ⟨s, reply, -, -, hresult⟩
    · cases hresult
      exact absurd rfl (hunsettled _)
    · cases hreply : reply.result with
      | ok u =>
        rw [hreply] at hresult
        cases hresult
        exact absurd rfl (hunsettled _)
      | error e =>
        rw [hreply] at hresult
        cases hresult
        rfl

/-- A retry backs off. -/
theorem retry_eq : (c.retry r e).1 = .requeue (c.backoff.next r.key.text).1 ∧
    (c.retry r e).2.backoff = (c.backoff.next r.key.text).2 := by
  rw [← keyOf_eq]
  exact ⟨rfl, rfl⟩

end Controller

/-! ### Where the rows stand -/

/-- The row of every resource stands behind so many delays. -/
def BackoffTracker.Stands (t : BackoffTracker) (passed : ObjectKey → Nat) : Prop :=
  ∀ k : ObjectKey, k.Plain → t.rowOf k.text = Backoff.standardRow (passed k)

namespace BackoffTracker

variable {t : BackoffTracker} {k : ObjectKey} {passed passed' : ObjectKey → Nat}

theorem stands_empty : empty.Stands fun _ => 0 := fun _ _ => rfl

theorem Stands.congr (h : t.Stands passed) (hsame : ∀ k, passed' k = passed k) :
    t.Stands passed' := by
  intro k hk
  rw [h k hk, hsame]

/-- The next delay of a resource. -/
theorem Stands.delay (h : t.Stands passed) (hk : k.Plain) :
    (t.next k.text).1 = .ofSeconds (min (Nat.fib (passed k + 1) * 5) 300) := by
  rw [next_fst_eq, h k hk, Backoff.next_standardRow]

theorem Stands.next (h : t.Stands passed) (hk : k.Plain) (hself : passed' k = passed k + 1)
    (hothers : ∀ k', k ≠ k' → passed' k' = passed k') : (t.next k.text).2.Stands passed' := by
  intro k' hk'
  rw [rowOf_next]
  by_cases hsame : k = k'
  · subst hsame
    rw [if_pos rfl, h k hk, Backoff.next_standardRow, hself]
  · rw [if_neg fun htext => hsame (ObjectKey.text_inj hk hk' htext.symm), h k' hk',
      hothers k' hsame]

theorem Stands.reset (h : t.Stands passed) (hk : k.Plain) (hself : passed' k = 0)
    (hothers : ∀ k', k ≠ k' → passed' k' = passed k') : (t.reset k.text).Stands passed' := by
  intro k' hk'
  rw [rowOf_reset]
  by_cases hsame : k = k'
  · subst hsame
    rw [if_pos rfl, hself]
  · rw [if_neg fun htext => hsame (ObjectKey.text_inj hk hk' htext.symm), h k' hk',
      hothers k' hsame]

end BackoffTracker

namespace Controller

variable {config : Config} {c c' : Controller} {r : Resource} {log : Effects} {start : Time}
  {action : Action} {a : Attempt} {attempts later earlier : List Attempt}

/-- Wherever a session has come to, the row of every resource stands behind its misses. -/
theorem Session.stands (h : Session config attempts c)
    (hplain : ∀ a ∈ attempts, a.resource.key.Plain) :
    c.backoff.Stands (misses · attempts) := by
  induction h with
  | start => exact BackoffTracker.stands_empty
  | @settled c c' attempts r start log v action earlier hruns hv ih =>
    obtain ⟨hr, hrest⟩ := List.forall_mem_cons.mp hplain
    have hothers : ∀ k, r.key ≠ k →
        misses k (.settled r v action :: attempts) = misses k attempts :=
      fun k hne => misses_of_other hne
    rcases settled_cases hv hruns with ⟨hnone, hreset⟩ | ⟨hsome, hbacks, -, hnext⟩ |
      ⟨hsome, hbacks, hsame⟩
    · have hclears : (Attempt.settled r v action).Clears := hnone
      rw [hreset]
      exact (ih hrest).reset hr (misses_of_clears hclears) hothers
    · have hclears : ¬(Attempt.settled r v action).Clears := hsome
      rw [hnext]
      exact (ih hrest).next hr (misses_of_backsOff hclears hbacks) hothers
    · have hclears : ¬(Attempt.settled r v action).Clears := hsome
      have hnot : ¬(Attempt.settled r v action).BacksOff := hbacks
      rw [hsame]
      exact (ih hrest).congr fun k => misses_of_neither hclears hnot
  | @failed c c' attempts r start log e earlier hruns ih =>
    rw [backoff_of_unsettled hruns nofun]
    exact (ih (List.forall_mem_cons.mp hplain).2).congr fun k => misses_failed
  | @brokeOff c c' attempts r start log earlier hruns ih =>
    rw [backoff_of_unsettled hruns nofun]
    exact (ih (List.forall_mem_cons.mp hplain).2).congr fun k => misses_brokeOff
  | @retried c attempts earlier r e ih =>
    obtain ⟨hr, hrest⟩ := List.forall_mem_cons.mp hplain
    have hothers : ∀ k, r.key ≠ k →
        misses k (.retried r e (c.retry r e).1 :: attempts) = misses k attempts :=
      fun k hne => misses_of_other hne
    rw [retry_eq.2]
    exact (ih hrest).next hr misses_retried hothers

/-- An attempt that backs off takes the next delay of its resource. -/
theorem Session.action_of_backsOff (h : Session config (a :: attempts) c)
    (hplain : ∀ b ∈ a :: attempts, b.resource.key.Plain) (hbacks : a.BacksOff) :
    a.action? = some (.requeue
      (.ofSeconds (min (Nat.fib (misses a.resource.key attempts + 1) * 5) 300))) := by
  obtain ⟨hr, hrest⟩ := List.forall_mem_cons.mp hplain
  cases h with
  | @settled c _ _ r start log v action earlier hruns hv =>
    rcases settled_cases hv hruns with ⟨hnone, -⟩ | ⟨-, -, haction, -⟩ | ⟨-, hnot, -⟩
    · obtain ⟨e, herror, -⟩ := hv.backs_off_iff.mp hbacks
      cases hnone.symm.trans herror
    · rw [← (earlier.stands hrest).delay hr]
      exact congrArg some haction
    · exact absurd hbacks hnot
  | failed | brokeOff => exact hbacks.elim
  | @retried c _ earlier r e =>
    rw [← (earlier.stands hrest).delay hr]
    exact congrArg some retry_eq.1

/-- What a session ended with earlier was a session as well. -/
theorem Session.exists_earlier (h : Session config (later ++ earlier) c) :
    ∃ c', Session config earlier c' := by
  induction later generalizing c with
  | nil => exact ⟨c, h⟩
  | cons a later ih =>
    cases h with
    | settled h => exact ih h
    | failed h => exact ih h
    | brokeOff h => exact ih h
    | retried h => exact ih h

/-- Any reconciliation that returns an action goes on with a session, and ends in one of the
three ways. -/
theorem Session.exists_settled (h : Session config attempts c)
    (hruns : Runs (c.reconcile r start) log (some (.ok action), c')) :
    ∃ v, Session config (.settled r v action :: attempts) c' ∧
      ((v.error = none ∧ c'.backoff = c.backoff.reset r.key.text) ∨
        (v.error ≠ none ∧ v.requeue = .backoff ∧ action = .requeue (c.backoff.next r.key.text).1 ∧
          c'.backoff = (c.backoff.next r.key.text).2) ∨
        (v.error ≠ none ∧ v.requeue ≠ .backoff ∧ c'.backoff = c.backoff)) := by
  cases hns : r.metadata.ns with
  | none =>
    unfold reconcile at hruns
    rw [hns] at hruns
    cases hruns
  | some ns =>
    obtain ⟨-, -, hbroken⟩ | ⟨walked, hwalk, -⟩ := runs_reconcile hns hruns
    · cases hbroken
    have hv : c.Judges r start log _ := ⟨ns, walked, hns, hwalk, rfl⟩
    exact ⟨_, .settled h hruns hv, settled_cases hv hruns⟩

/-- A reconciliation that counts one more failure backs off. -/
theorem exists_backsOff_demo {w : InMemory.World} (h : Session config attempts c)
    (hok : (Demo.reconciled c w).1 = some (.ok action))
    (hmore : c.backoff.failures (Demo.resource none).key.text <
      (Demo.reconciled c w).2.backoff.failures (Demo.resource none).key.text) :
    ∃ v, v.error ≠ none ∧ v.requeue = .backoff ∧
      Session config (.settled (Demo.resource none) v action :: attempts)
        (Demo.reconciled c w).2 := by
  obtain ⟨v, hsession, hend⟩ := h.exists_settled (Demo.runs_reconciled hok)
  obtain ⟨-, hreset⟩ | ⟨herror, hbacks, -, -⟩ | ⟨-, -, hsame⟩ := hend
  · rw [hreset, BackoffTracker.failures_reset] at hmore
    exact absurd hmore (Nat.not_lt_zero _)
  · exact ⟨v, herror, hbacks, hsession⟩
  · rw [hsame] at hmore
    exact absurd hmore (Nat.lt_irrefl _)

/-- **Retry delays follow the Fibonacci numbers over whole runs.**  In whatever order
reconciliations and retries of any resources end, with whatever answers, each one that backs
off puts its resource off by the Fibonacci number of one more than its misses, times 5 s and at
most 300 s; and that is the delay that each resource has ahead at the end.  What is done with
one resource leaves the misses of all others.  So does a pass that ends in an error of the
input or over a broken latch, even for its own resource, a reconciliation that breaks off, and
one that returns an error; only the retry after that one counts. -/
theorem Session.retry_delays (h : Session config attempts c)
    (hplain : ∀ a ∈ attempts, a.resource.key.Plain) :
    (∀ later a earlier, attempts = later ++ a :: earlier → a.BacksOff →
      a.action? = some (.requeue
        (.ofSeconds (min (Nat.fib (misses a.resource.key earlier + 1) * 5) 300)))) ∧
    (∀ k : ObjectKey, k.Plain →
      (c.backoff.next k.text).1 = .ofSeconds (min (Nat.fib (misses k attempts + 1) * 5) 300)) ∧
    ∀ later a earlier, attempts = later ++ a :: earlier →
      (∀ k, a.resource.key ≠ k → misses k (a :: earlier) = misses k earlier) ∧
      match a with
      | .settled r v _ => ∀ e, v.error = some e → e.errorClass = .failure →
        misses r.key (a :: earlier) = misses r.key earlier
      | .failed r _ | .brokeOff r => misses r.key (a :: earlier) = misses r.key earlier
      | .retried r _ _ => misses r.key (a :: earlier) = misses r.key earlier + 1 := by
  refine ⟨?_, fun k hk => (h.stands hplain).delay hk, ?_⟩
  · rintro later a earlier rfl hbacks
    obtain ⟨c', hsession⟩ := h.exists_earlier
    exact hsession.action_of_backsOff (List.forall_mem_append.mp hplain).2 hbacks
  · rintro later a earlier rfl
    refine ⟨fun k hne => misses_of_other hne, ?_⟩
    obtain ⟨c', hsession⟩ := h.exists_earlier
    cases hsession with
    | @settled _ _ _ r start log v action _ hruns hv =>
      intro e herror hclass
      have hclears : ¬(Attempt.settled r v action).Clears := fun hnone =>
        nomatch herror.symm.trans hnone
      have hbacks : ¬(Attempt.settled r v action).BacksOff := by
        intro hbackoff
        obtain ⟨e', herror', hclass'⟩ := hv.backs_off_iff.mp hbackoff
        cases herror.symm.trans herror'
        cases hclass.symm.trans hclass'
      exact misses_of_neither hclears hbacks
    | failed => exact misses_failed
    | brokeOff => exact misses_brokeOff
    | retried => exact misses_retried

theorem retry_delays_over_failed_write :
    ∃ attempts c, Session .standard attempts c ∧
      attempts.map Attempt.action? = [some (.requeue (.ofSeconds 10)),
        some (.requeue (.ofSeconds 5)), none, some (.requeue (.ofSeconds 5))] ∧
      (c.backoff.next (Demo.resource none).key.text).1 = .ofSeconds 15 := by
  let c₀ := Controller.start .standard
  let c₁ := (Demo.reconciled c₀ Demo.emptyWorld).2
  let c₂ := (Demo.reconciled c₁ Demo.unwritableWorld).2
  let c₃ := (c₂.retry (Demo.resource none) Demo.rejected).2
  have hfirst : (Demo.reconciled c₀ Demo.emptyWorld).1 = some (.ok (.requeue (.ofSeconds 5))) := by
    decide +kernel
  have hfailed : (Demo.reconciled c₁ Demo.unwritableWorld).1 = some (.error Demo.rejected) := by
    decide +kernel
  have hretried : (c₂.retry (Demo.resource none) Demo.rejected).1 = .requeue (.ofSeconds 5) := by
    decide +kernel
  have hlast : (Demo.reconciled c₃ Demo.emptyWorld).1 = some (.ok (.requeue (.ofSeconds 10))) := by
    decide +kernel
  obtain ⟨v, herror, hbacks, hone⟩ := exists_backsOff_demo (w := Demo.emptyWorld) .start hfirst
    (by decide +kernel)
  have htwo := (hone.failed (Demo.runs_reconciled hfailed)).retried (Demo.resource none)
    Demo.rejected
  obtain ⟨v', herror', hbacks', hthree⟩ := exists_backsOff_demo (w := Demo.emptyWorld) htwo hlast
    (by decide +kernel)
  have hplain : (Demo.resource none).key.Plain := by decide
  have hdelays := hthree.retry_delays (by simpa [Attempt.resource] using hplain)
  have hnext := hdelays.2.1 _ hplain
  have hmisses : misses (Demo.resource none).key
      [.settled (Demo.resource none) v' (.requeue (.ofSeconds 10)),
        .retried (Demo.resource none) Demo.rejected (c₂.retry (Demo.resource none) Demo.rejected).1,
        .failed (Demo.resource none) Demo.rejected,
        .settled (Demo.resource none) v (.requeue (.ofSeconds 5))] = 3 := by
    simp [misses, Attempt.resource, Attempt.Clears, Attempt.BacksOff, herror, hbacks, herror',
      hbacks']
  refine ⟨_, _, hthree, ?_, ?_⟩
  · rw [hretried]
    rfl
  · rw [hnext, hmisses]
    rfl

end Controller

end ControlPlane
