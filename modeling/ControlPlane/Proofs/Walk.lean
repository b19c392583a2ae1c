/-
What a step of a pass can come to.

A pass is a program of calls, and the collaborators may answer each of them as they
like.  `Ends` speaks of all of these runs at once: it holds of a step when every run of
it that ends, whatever the answers, makes calls, comes to a result and leaves a standing
as a postcondition says.  It is the weakest precondition of a step, so a sequence is taken
apart by `ends_bind` and every single step by one equation, and no proof about a pass
has to look at programs and runs again.

A step may also break off, and `Ends` asks nothing of that.  Which passes do is a question of
its own, and `Breaks` answers it.

For a relation that every step respects, `Respects` spares the proof its way through the
exits of a sequence.
-/
import ControlPlane.Pass

namespace ControlPlane

open Program (Runs)

/-- The calls of a pass, each with the answer that it got. -/
abbrev Calls := List (Program.Exchange Call Call.Reply)

/-- The call has come to an answer. -/
def Outcome.isAnswered {α : Type} : Outcome α → Bool
  | .answered _ => true
  | .failed _ | .timedOut => false

theorem Outcome.exists_of_isAnswered {α : Type} {outcome : Outcome α}
    (h : outcome.isAnswered = true) : ∃ a, outcome = .answered a := by
  cases outcome with
  | answered a => exact ⟨a, rfl⟩
  | failed e => cases h
  | timedOut => cases h

namespace Walk

variable {α β : Type} {s : Standing}

/-- However the collaborators answer, the step ends as `Q` says. -/
def Ends (w : Walk α) (s : Standing) (Q : Calls → Except Stop α → Standing → Prop) : Prop :=
  ∀ log r s', Runs (w s) log (some (r, s')) → Q log r s'

theorem Ends.imp {w : Walk α} {Q Q' : Calls → Except Stop α → Standing → Prop}
    (h : w.Ends s Q) (himp : ∀ log r s', Q log r s' → Q' log r s') : w.Ends s Q' :=
  fun log r s' hrun => himp log r s' (h log r s' hrun)

/-- A step that asks nothing ends in one way. -/
theorem ends_done {w : Walk α} {r : Except Stop α} {s' : Standing}
    {Q : Calls → Except Stop α → Standing → Prop} (hw : w s = .done (some (r, s'))) :
    w.Ends s Q ↔ Q [] r s' := by
  constructor
  · intro h
    exact h [] r s' (hw ▸ .done _)
  · intro h log r' s'' hrun
    rw [hw] at hrun
    cases hrun
    exact h

@[simp] theorem ends_pure {a : α} {Q : Calls → Except Stop α → Standing → Prop} :
    (pure a : Walk α).Ends s Q ↔ Q [] (.ok a) s :=
  ends_done rfl

@[simp] theorem ends_stop {why : Stop} {Q : Calls → Except Stop α → Standing → Prop} :
    (stop why : Walk α).Ends s Q ↔ Q [] (.error why) s :=
  ends_done rfl

theorem ends_abort {Q : Calls → Except Stop α → Standing → Prop} : (abort : Walk α).Ends s Q := by
  intro log r s' hrun
  cases hrun

@[simp] theorem ends_status {Q : Calls → Except Stop Status → Standing → Prop} :
    status.Ends s Q ↔ Q [] (.ok s.status) s :=
  ends_done rfl

@[simp] theorem ends_change {f : Status → Time → Status}
    {Q : Calls → Except Stop Unit → Standing → Prop} :
    (change f).Ends s Q ↔ Q [] (.ok ()) ⟨f s.status s.now, s.now⟩ :=
  ends_done rfl

@[simp] theorem ends_ask {c : Call} {Q : Calls → Except Stop (Outcome c.Answer) → Standing → Prop} :
    (ask c).Ends s Q ↔
      ∀ reply : c.Reply, Q [⟨c, reply⟩] (.ok reply.outcome) ⟨s.status, reply.arrival⟩ := by
  constructor
  · intro h reply
    exact h _ _ _ (.ask (.done _))
  · intro h log r s' hrun
    cases hrun with
    | ask rest =>
      cases rest
      exact h _

/-- The second step goes on from where the first one has come to, unless that has stopped. -/
@[simp] theorem ends_bind {w : Walk α} {f : α → Walk β}
    {Q : Calls → Except Stop β → Standing → Prop} :
    (w >>= f).Ends s Q ↔ w.Ends s fun log r s' =>
      match r with
      | .ok a => (f a).Ends s' fun rest => Q (log ++ rest)
      | .error why => Q log (.error why) s' := by
  constructor
  · intro h log r s' hrun
    cases r with
    | ok a =>
      intro rest r' s'' hrest
      exact h _ _ _ (Program.runs_bind_iff.mpr ⟨log, some (.ok a, s'), rest, rfl, hrun, hrest⟩)
    | error why =>
      exact h _ _ _ (Program.runs_bind_iff.mpr
        ⟨log, some (.error why, s'), [], (List.append_nil log).symm, hrun, .done _⟩)
  · intro h log r s' hrun
    obtain ⟨first, end₁, rest, rfl, hfirst, hrest⟩ := Program.runs_bind_iff.mp hrun
    cases end₁ with
    | none => cases hrest
    | some end₁ =>
      obtain ⟨r₁, s₁⟩ := end₁
      have hQ := h first r₁ s₁ hfirst
      cases r₁ with
      | ok a => exact hQ rest r s' hrest
      | error why =>
        cases hrest
        simpa using hQ

/-! ### What every step respects

A latch that is set stays set through every change a step makes, and it is set only by
its signal.  Such a relation between the status before, the calls and the status after
holds of a step that does nothing and is closed under sequence; if it holds over every
change it holds over a whole walk, whichever way that ends. -/

/-- The statuses before and after a step are related over its calls, whether or not it
stops. -/
def Respects (R : Status → Calls → Status → Prop) (w : Walk α) (s : Standing) : Prop :=
  w.Ends s fun log _ s' => R s.status log s'.status

/-- What the first step comes to may be what the second one needs. -/
theorem respects_bind_of {R : Status → Calls → Status → Prop}
    (htrans : ∀ {a l b m c}, R a l b → R b m c → R a (l ++ m) c) {w : Walk α} {f : α → Walk β}
    {P : α → Standing → Prop}
    (hw : w.Ends s fun log r s' => R s.status log s'.status ∧ ∀ a, r = .ok a → P a s')
    (hf : ∀ a s', P a s' → (f a).Respects R s') : (w >>= f).Respects R s := by
  refine ends_bind.mpr (hw.imp fun log r s' h => ?_)
  obtain ⟨hR, hP⟩ := h
  cases r with
  | ok a => exact (hf a s' (hP a rfl)).imp fun _ _ s'' hR' => htrans hR hR'
  | error why => exact hR

theorem respects_bind {R : Status → Calls → Status → Prop}
    (htrans : ∀ {a l b m c}, R a l b → R b m c → R a (l ++ m) c) {w : Walk α} {f : α → Walk β}
    (hw : w.Respects R s) (hf : ∀ a s', (f a).Respects R s') : (w >>= f).Respects R s :=
  respects_bind_of htrans (P := fun _ _ => True) (hw.imp fun _ _ _ hR => ⟨hR, fun _ _ => trivial⟩)
    fun a s' _ => hf a s'

end Walk

end ControlPlane
