/-
Machines are made one by one.

The machines of a request are gone through in their order, and each one that is not there is
made.  A call may fail or be given up between any two requests, and the next call begins with
the first machine again.  What carries the argument is what a call leaves: the objects that
were kept, completed with the first so many machines of the request, whatever the end of the
call, and with all of them if it was answered.  To complete with some of the machines first
and with all of them afterwards is to complete with all of them, so calls that come to nothing
leave no trace behind one that succeeds.
-/
import ControlPlane.Proofs.MachineStore
import Mathlib.Logic.Relation

namespace ControlPlane.Kubernetes

open Program (Reaches)

/-- Where the requests about a machine go.  Only if it is called by no name, two machines may
have one place. -/
def machinePlace (ns name : String) : String := placeOf (ObjectType.machines.objectPath ns name)

/-- The requests about a machine go to its path if it is called by a name. -/
theorem machinePlace_eq {ns name : String} (hns : IsName ns) (hname : IsName name) :
    machinePlace ns name = ObjectType.machines.objectPath ns name :=
  placeOf_eq (ObjectType.fits_machines.stays_objectPath hns hname)

namespace MachineApi

variable {σ : Type} {api : MachineApi σ} {r : MachineSetRequest} {machine : MachineRole × String}
  {l l' : List (MachineRole × String)} {objects : String → Option Json} {s s' : σ}

/-- The machines of a request are kept where the requests about them go. -/
def Keeps (api : MachineApi σ) (r : MachineSetRequest) : Prop :=
  ∀ machine ∈ r.machines, api.KeepsAt (machinePlace r.ns machine.2)

theorem Lawful.keeps (hlaw : api.Lawful) (hns : IsName r.ns) (hcluster : IsName r.cluster) :
    api.Keeps r := by
  intro machine hmachine
  obtain ⟨hname, -⟩ := isName_of_mem_machines hcluster machine hmachine
  rw [machinePlace_eq hns hname]
  exact hlaw.keepsAt hns hname

/-! ### Completion -/

/-- What is made at a place of the machines of a list: the first one that goes there. -/
def madeAt (api : MachineApi σ) (r : MachineSetRequest) (l : List (MachineRole × String))
    (place : String) : Option Json :=
  (l.find? fun machine => place = machinePlace r.ns machine.2).map fun machine =>
    api.made (machineObject r machine.1 machine.2)

/-- Objects, and the machines of a list where there was no object. -/
def completed (api : MachineApi σ) (r : MachineSetRequest) (l : List (MachineRole × String))
    (objects : String → Option Json) : String → Option Json :=
  fun place => (objects place).or (api.madeAt r l place)

theorem completed_nil : api.completed r [] objects = objects :=
  funext fun _ => Option.or_none

theorem madeAt_append (place : String) :
    api.madeAt r (l ++ l') place = (api.madeAt r l place).or (api.madeAt r l' place) := by
  unfold madeAt
  rw [List.find?_append, Option.map_or]

/-- To complete with two lists, one after the other, is to complete with both. -/
theorem completed_completed :
    api.completed r l' (api.completed r l objects) = api.completed r (l ++ l') objects := by
  funext place
  unfold completed
  rw [madeAt_append, Option.or_assoc]

/-- Where there is an object the machine is skipped. -/
theorem completed_of_isSome (h : (objects (machinePlace r.ns machine.2)).isSome = true) :
    api.completed r [machine] objects = objects := by
  funext place
  unfold completed
  by_cases hplace : place = machinePlace r.ns machine.2
  · obtain ⟨object, hobject⟩ := Option.isSome_iff_exists.mp h
    rw [hplace, hobject, Option.some_or]
  · have hnone : api.madeAt r [machine] place = none := by simp [madeAt, hplace]
    rw [hnone, Option.or_none]

/-- Where there is none the machine is added. -/
theorem completed_of_none (h : objects (machinePlace r.ns machine.2) = none) :
    api.completed r [machine] objects =
      putAt (machinePlace r.ns machine.2) (api.made (machineObject r machine.1 machine.2)) objects := by
  funext place
  unfold completed putAt
  by_cases hplace : place = machinePlace r.ns machine.2
  · rw [if_pos hplace, hplace, h]
    simp [madeAt]
  · rw [if_neg hplace]
    have hnone : api.madeAt r [machine] place = none := by simp [madeAt, hplace]
    rw [hnone, Option.or_none]

/-- A list that begins another one adds nothing after it. -/
theorem completed_of_prefix (h : l <+: l') :
    api.completed r l' (api.completed r l objects) = api.completed r l' objects := by
  obtain ⟨rest, rfl⟩ := h
  funext place
  unfold completed
  rw [madeAt_append]
  cases objects place with
  | some object => simp
  | none => cases api.madeAt r l place <;> simp

/-! ### One machine -/

/-- A look-up or an apply of a machine has failed, and nothing has been sent since. -/
def Refused (api : MachineApi σ) (r : MachineSetRequest) (machine : MachineRole × String) (s : σ) :
    Prop :=
  ∃ before fault,
    (Client.get? .machines r.ns machine.2 decodeObject).run.run api.reply before = (.error fault, s) ∨
      (Client.apply .machines r.ns machine.2 (machineObject r machine.1 machine.2)
        decodeObject).run.run api.reply before = (.error fault, s)

/-- One machine is made unless it is there, or a request has failed and nothing has changed. -/
theorem run_ensureMachine (h : api.KeepsAt (machinePlace r.ns machine.2)) {result : Except Fault Unit}
    (hrun : (ensureMachine r machine).run.run api.reply s = (result, s')) :
    (result = .ok () ∧ api.kept s' = api.completed r [machine] (api.kept s)) ∨
      ((∃ fault, result = .error fault) ∧ api.Refused r machine s' ∧ api.kept s' = api.kept s) := by
  rcases run_client_bind_cases hrun with ⟨found, s'', hget, hgo⟩ | ⟨fault, hget, rfl⟩
  · have hfound := h.run_get? hget
    rw [← h.kept_of_run_get? hget] at hfound ⊢
    cases found with
    | some object =>
      cases hgo
      exact .inl ⟨rfl, (completed_of_isSome hfound.symm).symm⟩
    | none =>
      have habsent := Option.isNone_iff_eq_none.mp (Option.isSome_eq_false_iff.mp hfound.symm)
      rw [completed_of_none habsent]
      rcases h.run_apply habsent hgo with hmade | ⟨⟨fault, rfl⟩, hsame⟩
      · exact .inl hmade
      · exact .inr ⟨⟨fault, rfl⟩, ⟨s'', fault, .inr hgo⟩, hsame⟩
  · exact .inr ⟨⟨fault, rfl⟩, ⟨s, fault, .inl hget⟩, h.kept_of_run_get? hget⟩

theorem reaches_ensureMachine (h : api.KeepsAt (machinePlace r.ns machine.2))
    (hreach : Reaches api.reply (ensureMachine r machine).run s s') :
    api.kept s' = api.kept s ∨ api.kept s' = api.completed r [machine] (api.kept s) := by
  rcases reaches_client_bind hreach with hfirst | ⟨found, s'', hget, hrest⟩
  · exact .inl (h.reaches_get? hfirst)
  · have hfound := h.run_get? hget
    rw [← h.kept_of_run_get? hget] at hfound ⊢
    cases found with
    | some object => exact .inl (congrArg api.kept hrest.of_done)
    | none =>
      have habsent := Option.isNone_iff_eq_none.mp (Option.isSome_eq_false_iff.mp hfound.symm)
      rw [completed_of_none habsent]
      exact h.reaches_apply habsent hrest

/-! ### All machines -/

/-- A call that is answered has completed all machines, and one that fails those before the
machine that it failed for.  The induction follows the list: what comes of the rest is on top of
the first machine. -/
theorem run_ensureEach (h : ∀ machine ∈ l, api.KeepsAt (machinePlace r.ns machine.2))
    {result : Except Fault Unit} (hrun : (ensureEach r l).run.run api.reply s = (result, s')) :
    (result = .ok () ∧ api.kept s' = api.completed r l (api.kept s)) ∨
      ((∃ fault, result = .error fault) ∧ ∃ n machine, l[n]? = some machine ∧
        api.Refused r machine s' ∧ api.kept s' = api.completed r (l.take n) (api.kept s)) := by
  induction l generalizing s with
  | nil =>
    cases hrun
    exact .inl ⟨rfl, completed_nil.symm⟩
  | cons machine rest ih =>
    obtain ⟨hmachine, hrest⟩ := List.forall_mem_cons.mp h
    rcases run_client_bind_cases hrun with ⟨_, s'', hfirst, hgo⟩ | ⟨fault, hfirst, rfl⟩
    · rcases run_ensureMachine hmachine hfirst with ⟨-, hmade⟩ | ⟨⟨fault, hfault⟩, -⟩
      · rcases ih hrest hgo with ⟨hok, hall⟩ | ⟨hfault, n, next, hnext, hrefused, hsome⟩
        · rw [hmade, completed_completed] at hall
          exact .inl ⟨hok, hall⟩
        · rw [hmade, completed_completed] at hsome
          exact .inr ⟨hfault, n + 1, next, hnext, hrefused, hsome⟩
      · cases hfault
    · rcases run_ensureMachine hmachine hfirst with ⟨hok, -⟩ | ⟨-, hrefused, hsame⟩
      · cases hok
      · -- a failure in front of everything else has completed nothing
        refine .inr ⟨⟨fault, rfl⟩, 0, machine, rfl, hrefused, ?_⟩
        rw [hsame, List.take_zero, completed_nil]

/-- So has one that is given up. -/
theorem reaches_ensureEach (h : ∀ machine ∈ l, api.KeepsAt (machinePlace r.ns machine.2))
    (hreach : Reaches api.reply (ensureEach r l).run s s') :
    ∃ n, api.kept s' = api.completed r (l.take n) (api.kept s) := by
  induction l generalizing s with
  | nil =>
    rw [hreach.of_done]
    exact ⟨0, completed_nil.symm⟩
  | cons machine rest ih =>
    obtain ⟨hmachine, hrest⟩ := List.forall_mem_cons.mp h
    rcases reaches_client_bind hreach with hfirst | ⟨_, s'', hfirst, hgo⟩
    · rcases reaches_ensureMachine hmachine hfirst with hsame | hmade
      · exact ⟨0, hsame.trans completed_nil.symm⟩
      · exact ⟨1, hmade⟩
    · rcases run_ensureMachine hmachine hfirst with ⟨-, hmade⟩ | ⟨⟨fault, hfault⟩, -⟩
      · obtain ⟨n, hsome⟩ := ih hrest hgo
        rw [hmade, completed_completed] at hsome
        exact ⟨n + 1, hsome⟩
      · cases hfault

/-! ### Calls -/

/-- The machines of a list are there, those of them that were not have been made, and nothing
else has changed. -/
structure HasMade (api : MachineApi σ) (r : MachineSetRequest) (l : List (MachineRole × String))
    (s s' : σ) : Prop where
  /-- What was there is as it was. -/
  unchanged : ∀ place object, api.kept s place = some object → api.kept s' place = some object
  /-- What was not there is a machine of the list. -/
  created : ∀ place object, api.kept s place = none → api.kept s' place = some object →
    ∃ machine ∈ l, place = machinePlace r.ns machine.2 ∧
      object = api.made (machineObject r machine.1 machine.2)
  present : ∀ machine ∈ l, (api.kept s' (machinePlace r.ns machine.2)).isSome = true

theorem hasMade_of_completed (h : api.kept s' = api.completed r l (api.kept s)) :
    api.HasMade r l s s' where
  unchanged place object hobject := by rw [h, completed, hobject, Option.some_or]
  created place object hnone hobject := by
    rw [h, completed, hnone, Option.none_or, madeAt] at hobject
    obtain ⟨machine, hfound, hmade⟩ := Option.map_eq_some_iff.mp hobject
    have hplace : place = machinePlace r.ns machine.2 := by simpa using List.find?_some hfound
    exact ⟨machine, List.mem_of_find?_eq_some hfound, hplace, hmade.symm⟩
  present machine hmachine := by
    have hmade : (api.madeAt r l (machinePlace r.ns machine.2)).isSome = true := by
      rw [madeAt, Option.isSome_map, List.find?_isSome]
      exact ⟨machine, hmachine, by simp⟩
    rw [h, completed, Option.isSome_or, hmade, Bool.or_true]

/-- Some calls for the machines of a request, each to whatever end: answered, failed or given
up. -/
abbrev Attempts (api : MachineApi σ) (r : MachineSetRequest) : σ → σ → Prop :=
  Relation.ReflTransGen (Reaches api.reply (perform (.ensureMachines r)))

/-- What the objects come to with all machines is the same after any calls. -/
theorem Attempts.completed_eq (hkeeps : api.Keeps r) (h : api.Attempts r s s') :
    api.completed r r.machines (api.kept s') = api.completed r r.machines (api.kept s) := by
  induction h with
  | refl => rfl
  | tail _ hcall ih =>
    obtain ⟨n, hsome⟩ := reaches_ensureEach hkeeps (reaches_of_asCollaborator hcall)
    rw [hsome, completed_of_prefix (List.take_prefix n _), ih]

/-- **Machines are made one by one, and none is overwritten.**  However a call for the machines
of a request ends, all that was there is as it was, and what has come is the first so many of
the machines that were not there.  If the call is answered these are all machines, and it fails
only behind a request that did, for the machine that comes after them.  After any calls, each
to whatever end, a call that is answered leaves what a single one would have left, from anywhere
with the same objects at the beginning. -/
theorem ensureMachines_incremental (hkeeps : api.Keeps r) (s : σ) :
    (∀ s', Reaches api.reply (perform (.ensureMachines r)) s s' →
      ∃ n, api.HasMade r (r.machines.take n) s s') ∧
    (∀ s', (perform (.ensureMachines r)).run api.reply s = (.ok (), s') →
      api.HasMade r r.machines s s') ∧
    (∀ e s', (perform (.ensureMachines r)).run api.reply s = (.error e, s') →
      ∃ n machine, r.machines[n]? = some machine ∧ api.Refused r machine s' ∧
        api.HasMade r (r.machines.take n) s s') ∧
    ∀ s₁ s₂, api.Attempts r s s₁ → (perform (.ensureMachines r)).run api.reply s₁ = (.ok (), s₂) →
      ∀ s' s'', api.kept s' = api.kept s →
        (perform (.ensureMachines r)).run api.reply s' = (.ok (), s'') → api.kept s₂ = api.kept s'' := by
  have hanswered : ∀ {s s' : σ}, (perform (.ensureMachines r)).run api.reply s = (.ok (), s') →
      api.kept s' = api.completed r r.machines (api.kept s) := by
    intro s s' hrun
    rcases run_ensureEach hkeeps (run_of_asCollaborator hrun) with ⟨-, hall⟩ | ⟨⟨fault, hfault⟩, -⟩
    · exact hall
    · cases hfault
  refine ⟨fun s' hreach => ?_, fun s' hrun => hasMade_of_completed (hanswered hrun),
    fun e s' hrun => ?_, fun s₁ s₂ hattempts hrun s' s'' hsame hrun' => ?_⟩
  · obtain ⟨n, hsome⟩ := reaches_ensureEach hkeeps (reaches_of_asCollaborator hreach)
    exact ⟨n, hasMade_of_completed hsome⟩
  · obtain ⟨fault, hfault⟩ := run_of_asCollaborator_error hrun
    rcases run_ensureEach hkeeps hfault with ⟨hok, -⟩ | ⟨-, n, machine, hmachine, hrefused, hsome⟩
    · cases hok
    · exact ⟨n, machine, hmachine, hrefused, hasMade_of_completed hsome⟩
  · rw [hanswered hrun, hattempts.completed_eq hkeeps, hanswered hrun', hsame]

end MachineApi

namespace MachineStore

/-- A store without any machine, and with these refusals. -/
def started (refusals : List Bool) : MachineStore := ⟨.empty, [], refusals⟩

/-- A call for the machines of a request. -/
def call (r : MachineSetRequest) (s : MachineStore) : Except ClientError Unit × MachineStore :=
  (perform (.ensureMachines r)).run api.reply s

theorem run_eq_of_ok {r : MachineSetRequest} {s : MachineStore} (h : (call r s).1 = .ok ()) :
    (perform (.ensureMachines r)).run api.reply s = (.ok (), (call r s).2) := Prod.ext h rfl

theorem reaches_call (r : MachineSetRequest) (s : MachineStore) :
    Reaches api.reply (perform (.ensureMachines r)) s (call r s).2 := Program.reaches_run _ _ _

/-- The bootstrap machine and another one. -/
def request : MachineSetRequest := ⟨"clusters", "demo", .blank, 1, "demo-installer-inputs"⟩

/-- A store that refuses to make the last machine, once. -/
def refusing : MachineStore := started [false, false, false, true]

/-- A call that fails at the last machine and one that is answered leave what one that is answered
leaves. -/
theorem kept_eq_after_refusal : (call request refusing).1 ≠ .ok () ∧
    (call request (call request refusing).2).1 = .ok () ∧ (call request (started [])).1 = .ok () ∧
      api.kept (call request (call request refusing).2).2 = api.kept (call request (started [])).2 := by
  have hkeeps : api.Keeps request :=
    lawful.keeps (.of_all (by decide) (by decide)) (.of_all (by decide) (by decide))
  have hagain : (call request (call request refusing).2).1 = .ok () := by decide +kernel
  have honce : (call request (started [])).1 = .ok () := by decide +kernel
  refine ⟨by decide +kernel, hagain, honce, ?_⟩
  obtain ⟨-, -, -, hconverges⟩ := MachineApi.ensureMachines_incremental hkeeps refusing
  have hkept : api.kept (started []) = api.kept refusing := rfl
  exact hconverges (call request refusing).2 (call request (call request refusing).2).2
    (.single (reaches_call request refusing)) (run_eq_of_ok hagain) (started [])
    (call request (started [])).2 hkept (run_eq_of_ok honce)

end MachineStore

end ControlPlane.Kubernetes
