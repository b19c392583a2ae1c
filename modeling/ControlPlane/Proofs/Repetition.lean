/-
Steps that are repeated.

A pass is run again over the status that it has left, and the calls that it makes again are
answered as before.  `Repeats` says of a step that it then comes to one end, and leaves the
status as it is.  It composes step by step, and a single step repeats what it came to if the
calls that it made are there, and if the status tells what it reports.

The status is the one that the first pass has left at its end.  Of what the steps in between
have told it is known that no later one takes it back: `Keeps` says so of the conditions
before a place, and `Rests` of the end of a part of a walk, the report of a stop included.
-/
import ControlPlane.Proofs.Told

namespace ControlPlane

/-! ### Repeated calls -/

/-- A call that is made both times is answered in the same way. -/
def Calls.Agree (first second : Calls) : Prop :=
  ∀ (c : Call) (a b : c.Reply), ⟨c, a⟩ ∈ first → ⟨c, b⟩ ∈ second → b.outcome = a.outcome

theorem Calls.Agree.mono {first second part : Calls} (h : first.Agree second)
    (hpart : part ⊆ second) : first.Agree part :=
  fun c a b ha hb => h c a b ha (hpart hb)

/-- Answers can be compared, call by call. -/
instance Call.decidableEqAnswer : (c : Call) → DecidableEq c.Answer
  | .getSecret .. => inferInstanceAs (DecidableEq (Option SecretData))
  | .listSecrets .. => inferInstanceAs (DecidableEq (List NamedSecret))
  | .generateBootConfig _ => inferInstanceAs (DecidableEq String)
  | .ensureMachines _ => inferInstanceAs (DecidableEq Unit)
  | .controlPlaneJoined .. => inferInstanceAs (DecidableEq Bool)
  | .bootstrapComplete .. => inferInstanceAs (DecidableEq Bool)
  | .deleteBootstrapMachine .. => inferInstanceAs (DecidableEq Unit)
  | .bootstrapMachineDeleted .. => inferInstanceAs (DecidableEq Bool)

deriving instance DecidableEq for Call.Reply

namespace Walk

variable {α β : Type} {made : Calls} {z : Status} {w : Walk α} {f : α → Walk β}

/-- Over a status, and with the answers of some calls, a step ends in one way and leaves the
status as it is. -/
def Repeats (made : Calls) (w : Walk α) (z : Status) (r : Except Stop α) : Prop :=
  ∀ now, w.Ends ⟨z, now⟩ fun log r' s' => made.Agree log → r' = r ∧ s'.status = z

theorem repeats_pure {a : α} : Repeats made (pure a) z (.ok a) :=
  fun _ => ends_pure.mpr fun _ => ⟨rfl, rfl⟩

theorem repeats_stop {why : Stop} : Repeats made (stop why : Walk α) z (.error why) :=
  fun _ => ends_stop.mpr fun _ => ⟨rfl, rfl⟩

theorem repeats_status : Repeats made status z (.ok z) :=
  fun _ => ends_status.mpr fun _ => ⟨rfl, rfl⟩

theorem repeats_change {g : Status → Time → Status} (h : ∀ now, g z now = z) :
    Repeats made (change g) z (.ok ()) :=
  fun now => ends_change.mpr fun _ => ⟨rfl, h now⟩

theorem repeats_ask {c : Call} {reply : c.Reply} (h : ⟨c, reply⟩ ∈ made) :
    Repeats made (ask c) z (.ok reply.outcome) := by
  refine fun _ => ends_ask.mpr fun reply' hagree => ⟨?_, rfl⟩
  rw [hagree c reply reply' h List.mem_cons_self]

theorem Repeats.bind {a : α} {r : Except Stop β} (hw : Repeats made w z (.ok a))
    (hf : Repeats made (f a) z r) : Repeats made (w >>= f) z r := by
  refine fun now => ends_bind.mpr ((hw now).imp fun log r' s' h => ?_)
  cases r' with
  | ok a' =>
    intro rest r' s'' hrun hagree
    obtain ⟨hsame, hz⟩ := h (hagree.mono (List.subset_append_left log rest))
    cases hsame
    obtain ⟨status, now'⟩ := s'
    subst hz
    exact hf now' rest r' s'' hrun (hagree.mono (List.subset_append_right log rest))
  | error why =>
    intro hagree
    cases (h hagree).1

theorem Repeats.bind_error {why : Stop} (hw : Repeats made w z (.error why)) :
    Repeats made (w >>= f) z (.error why) := by
  refine fun now => ends_bind.mpr ((hw now).imp fun log r' s' h => ?_)
  cases r' with
  | ok a' =>
    intro rest r' s'' _ hagree
    cases (h (hagree.mono (List.subset_append_left log rest))).1
  | error why' =>
    intro hagree
    obtain ⟨hsame, hz⟩ := h hagree
    cases hsame
    exact ⟨rfl, hz⟩

end Walk

namespace Pass

open Walk Status

variable {α β : Type} {p : Pass} {s : Standing} {made : Calls} {z : Status} {m n : Nat}

/-! ### What stays

A later part of a walk leaves what the earlier parts have told. -/

/-- The conditions that come before a place stay, and with the first of them the template
that is bound.  A template that is bound on the way is one over which the spec is accepted. -/
structure Keeps (p : Pass) (n : Nat) (a b : Status) : Prop where
  accepted : p.judge a.boundTemplate = .ok () → p.judge b.boundTemplate = .ok ()
  boundTemplate : 0 < n → b.boundTemplate = a.boundTemplate
  told : ∀ type : ConditionType, type.place < n → b.told type = a.told type

namespace Keeps

variable {a b c : Status}

theorem of_conditions (hbound : b.boundTemplate = a.boundTemplate)
    (htold : ∀ type : ConditionType, type.place < n → b.told type = a.told type) :
    p.Keeps n a b where
  accepted h := by rw [hbound, h]
  boundTemplate _ := hbound
  told := htold

theorem of_same (h : a.Same b) : p.Keeps n a b :=
  of_conditions h.boundTemplate fun type _ => h.told type

theorem trans (hab : p.Keeps n a b) (hbc : p.Keeps n b c) : p.Keeps n a c where
  accepted h := hbc.accepted (hab.accepted h)
  boundTemplate h := (hbc.boundTemplate h).trans (hab.boundTemplate h)
  told type h := (hbc.told type h).trans (hab.told type h)

theorem mono (h : p.Keeps n a b) (hmn : m ≤ n) : p.Keeps m a b where
  accepted := h.accepted
  boundTemplate hm := h.boundTemplate (by omega)
  told type hm := h.told type (by omega)

/-- Reports of later conditions leave the earlier ones. -/
theorem tell {l : List Report} {generation : Option Int} {now : Time}
    (h : ∀ r ∈ l, n ≤ r.type.place) : p.Keeps n a (a.tell l generation now) :=
  of_conditions tell_boundTemplate fun type htype => told_tell_of_not_mem fun r hr hsame => by
    have hplace := h r hr
    rw [hsame] at hplace
    omega

theorem report {type : ConditionType} {status : ConditionStatus} {reason : Reason}
    {message : String} {generation : Option Int} {now : Time} (h : n ≤ type.place) :
    p.Keeps n a (a.report type status reason message generation now) :=
  tell (l := [⟨type, status, reason, message⟩]) (by simpa using h)

end Keeps

/-- The end of a part of a walk is at rest: it keeps what comes before a place, and where it
is reached once more nothing is added. -/
structure Rests (p : Pass) (n : Nat) (before : Status) (r : Except Stop α) (s : Standing) :
    Prop where
  keeps : p.Keeps n before (p.left r s)
  again : ∀ z now, (p.left r s).Same z → p.left r ⟨z, now⟩ = z

theorem Rests.after {a b : Status} {r : Except Stop α} (hab : p.Keeps n a b)
    (h : p.Rests n b r s) : p.Rests n a r s :=
  ⟨hab.trans h.keeps, h.again⟩

theorem Rests.mono {a : Status} {r : Except Stop α} (h : p.Rests n a r s) (hmn : m ≤ n) :
    p.Rests m a r s :=
  ⟨h.keeps.mono hmn, h.again⟩

theorem rests_ok {a : Status} {x : α} (h : p.Keeps n a s.status) : p.Rests n a (.ok x) s :=
  ⟨h, fun _ _ _ => rfl⟩

theorem rests_stop {status : Status} {why : Stop} {now : Time} (hn : n ≤ 6)
    (h : why.BlamesFrom n) : p.Rests n status (.error why : Except Stop α) ⟨status, now⟩ where
  keeps := by
    rw [left_error, reportError_eq_tell]
    exact .tell fun r hr => (rises_errorReports hn h).le_place hr
  again z now' hz := by
    rw [left_error, reportError_eq_tell] at hz ⊢
    exact hz.tell (rises_errorReports hn h)

theorem rests_blamed {status : Status} {type : ConditionType} {reason : Reason}
    {error : ControllerError} {requeue : Requeue} {now : Time}
    (h : n ≤ type.place ∧ type.place < 6) :
    p.Rests n status (.error ⟨error, some (type, reason), requeue⟩ : Except Stop α)
      ⟨status, now⟩ :=
  rests_stop (by omega) (Stop.blamesFrom_blamed h)

theorem rests_waiting {status : Status} {now : Time} {type : ConditionType} {reason : Reason}
    {message : String} (h : n ≤ type.place ∧ type.place < 6) :
    p.Rests n status (.ok Requeue.poll) ⟨p.waiting type reason message status now, now⟩ :=
  rests_ok (.tell fun _ hr => (rises_waitReports h.1 h.2).le_place hr)

theorem keeps_signalled {status latched : Status} {signal : Signal} {now : Time}
    (hlatch : latched.conditions = status.conditions)
    (hbound : latched.boundTemplate = status.boundTemplate) (h : n ≤ signal.condition.place) :
    p.Keeps n status (p.signalled signal latched now) := by
  have hlatched : p.Keeps n status latched :=
    .of_conditions hbound fun type _ => by unfold told; rw [hlatch]
  exact hlatched.trans (.report h)

theorem keeps_concluded {status : Status} {now : Time} (hn : n ≤ 6) :
    p.Keeps n status (p.concluded status now) :=
  .tell fun _ hr => Nat.le_trans hn (rises_endReports.le_place hr)

/-! ### Repeated steps -/

theorem repeats_report {type : ConditionType} {status : ConditionStatus} {reason : Reason}
    {message : String}
    (h : z.told type = some (status.text, reason.text, message, p.generation)) :
    Repeats made (p.report type status reason message) z (.ok ()) :=
  repeats_change fun _ => report_of_told h

theorem repeats_call_answered {c : Call} {failure : ControllerError → Walk c.Answer}
    {a : c.Answer} {now : Time} (h : ⟨c, ⟨.answered a, now⟩⟩ ∈ made) :
    Repeats made (p.call c failure) z (.ok a) :=
  (repeats_ask h).bind repeats_pure

theorem repeats_call_failed {c : Call} {failure : ControllerError → Walk c.Answer}
    {reply : c.Reply} {e : ControllerError} {why : Stop} (h : ⟨c, reply⟩ ∈ made)
    (he : c.result p.config reply.outcome = .error e)
    (hfailure : Repeats made (failure e) z (.error why)) :
    Repeats made (p.call c failure) z (.error why) := by
  refine (repeats_ask h).bind ?_
  rw [he]
  exact hfailure

theorem repeats_callFor_failed {type : ConditionType} {c : Call} {reply : c.Reply}
    {e : ControllerError} (h : ⟨c, reply⟩ ∈ made)
    (he : c.result p.config reply.outcome = .error e) :
    Repeats made (p.callFor type c) z (.error (.on type e .backoff)) :=
  repeats_call_failed h he repeats_stop

theorem repeats_look_failed {type : ConditionType} {signal : Signal} {c : Call}
    {seen : c.Answer → Bool} {reply : c.Reply} {e : ControllerError} (h : ⟨c, reply⟩ ∈ made)
    (he : c.result p.config reply.outcome = .error e) :
    Repeats made (p.look type signal c seen) z (.error (.on type e .backoff)) :=
  (repeats_callFor_failed h he).bind_error

theorem repeats_look_unseen {type : ConditionType} {signal : Signal} {c : Call}
    {seen : c.Answer → Bool} {a : c.Answer} {now : Time} (h : ⟨c, ⟨.answered a, now⟩⟩ ∈ made)
    (hseen : seen a = false) : Repeats made (p.look type signal c seen) z (.ok false) := by
  refine (repeats_call_answered h).bind ?_
  rw [hseen]
  exact repeats_pure

theorem repeats_callForMachines_failed {c : Call} {reply : c.Reply} {e : ControllerError}
    (h : ⟨c, reply⟩ ∈ made) (he : c.result p.config reply.outcome = .error e) :
    Repeats made (p.callForMachines c) z (.error (provisioningStop z e)) := by
  refine repeats_call_failed h he (repeats_status.bind ?_)
  unfold provisioningStop
  split
  · exact repeats_stop
  · exact repeats_stop

theorem repeats_waitFor {type : ConditionType} {reason : Reason} {message : String}
    {status : Status} {now : Time} (h : type.place < 6)
    (hz : (p.waiting type reason message status now).Same z) :
    Repeats made (p.waitFor type reason message) z (.ok .poll) := by
  rw [waiting_eq_tell] at hz
  exact fun _ => ends_waitFor.mpr fun _ => ⟨rfl, hz.tell (rises_waitReports (Nat.zero_le _) h)⟩

theorem repeats_conclude {status : Status} {now : Time} (hz : (p.concluded status now).Same z) :
    Repeats made p.conclude z (.ok .awaitChange) := by
  rw [concluded_eq_tell] at hz
  exact fun _ => ends_conclude.mpr fun _ => ⟨rfl, hz.tell rises_endReports⟩

end Pass

end ControlPlane
