/-
Reconciliations against the collaborators in memory.

All clusters share one store of secrets, one provider and one installer, but each has its own
part of them: the machines that are called after it, the note of its deletion and its inputs.
`Agree` compares two worlds on some of these parts.  A call that concerns a cluster leaves the
parts of all others (`spares_callWithin`), and its answer and what it leaves of the cluster's
own part depend on that part alone (`alike_callWithin`).  What holds of a call holds of a
program of such calls.
-/
import ControlPlane.Proofs.Names
import ControlPlane.Proofs.Plays
import ControlPlane.Proofs.Timeless

namespace ControlPlane

open InMemory

namespace InMemory

variable {k k' : ObjectKey} {w w' w'' : World} {cluster machine : ObjectKey → Prop}

/-! ### The parts of the clusters -/

/-- A machine is called after the cluster. -/
def Owns (k machine : ObjectKey) : Prop :=
  machine.ns = k.ns ∧ (machine.name = Cluster.bootstrapMachine k.name ∨
    ∃ i, machine.name = Cluster.controlPlaneMachine k.name i)

/-- No machine is called after two clusters. -/
theorem Owns.unique {x : ObjectKey} (h : Owns k x) (h' : Owns k' x) : k = k' := by
  obtain ⟨hns, hname⟩ := h
  obtain ⟨hns', hname'⟩ := h'
  have hcluster : k.name = k'.name := Cluster.eq_of_machine hname hname'
  cases k
  cases k'
  rw [ObjectKey.mk.injEq]
  exact ⟨hns.symm.trans hns', hcluster⟩

theorem owns_bootstrapMachine : Owns k ⟨k.ns, Cluster.bootstrapMachine k.name⟩ := ⟨rfl, .inl rfl⟩

theorem owns_of_mem_machines {q : MachineSetRequest} {m : MachineRole × String}
    (hm : m ∈ q.machines) : Owns ⟨q.ns, q.cluster⟩ ⟨q.ns, m.2⟩ := by
  refine ⟨rfl, ?_⟩
  rcases List.mem_cons.mp hm with rfl | hm
  · exact .inl rfl
  · obtain ⟨i, -, rfl⟩ := List.mem_map.mp hm
    exact .inr ⟨i, rfl⟩

namespace World

/-- What no call changes. -/
def surroundings (w : World) :=
  (w.secrets.secrets, w.secrets.unavailable, w.secrets.latency, w.provider.joined,
    w.provider.holdDeletion, w.provider.latency, w.installer.complete, w.installer.latency,
    w.writerFails)

/-- Two worlds are the same in the parts of some clusters and in some machines. -/
structure Agree (cluster machine : ObjectKey → Prop) (w w' : World) : Prop where
  surroundings : w'.surroundings = w.surroundings
  machines : ∀ x, machine x → w'.provider.machines.get? x = w.provider.machines.get? x
  deletionRequested : ∀ k, cluster k →
    w'.provider.deletionRequested.get? k = w.provider.deletionRequested.get? k
  inputs : ∀ k, cluster k → w'.installer.inputs.get? k = w.installer.inputs.get? k

/-- The worlds are the same in the part of a cluster. -/
abbrev Alike (k : ObjectKey) : World → World → Prop := Agree (· = k) (Owns k)

/-- The worlds are the same but for the part of a cluster. -/
abbrev Spares (k : ObjectKey) : World → World → Prop := Agree (· ≠ k) fun x => ¬Owns k x

/-- The worlds are the same but for the parts of two clusters. -/
abbrev SparesBoth (k k' : ObjectKey) : World → World → Prop :=
  Agree (fun x => x ≠ k ∧ x ≠ k') fun x => ¬Owns k x ∧ ¬Owns k' x

namespace Agree

theorem refl (w : World) : Agree cluster machine w w :=
  ⟨rfl, fun _ _ => rfl, fun _ _ => rfl, fun _ _ => rfl⟩

theorem symm (h : Agree cluster machine w w') : Agree cluster machine w' w :=
  ⟨h.surroundings.symm, fun x hx => (h.machines x hx).symm,
    fun k hk => (h.deletionRequested k hk).symm, fun k hk => (h.inputs k hk).symm⟩

theorem trans (h : Agree cluster machine w w') (h' : Agree cluster machine w' w'') :
    Agree cluster machine w w'' :=
  ⟨h'.surroundings.trans h.surroundings, fun x hx => (h'.machines x hx).trans (h.machines x hx),
    fun k hk => (h'.deletionRequested k hk).trans (h.deletionRequested k hk),
    fun k hk => (h'.inputs k hk).trans (h.inputs k hk)⟩

end Agree

/-- What is left but for the part of one cluster is the part of any other. -/
theorem Spares.alike (h : Spares k' w w') (hne : k ≠ k') : Alike k w w' where
  surroundings := h.surroundings
  machines x hx := h.machines x fun hx' => hne (hx.unique hx')
  deletionRequested := by
    rintro _ rfl
    exact h.deletionRequested _ hne
  inputs := by
    rintro _ rfl
    exact h.inputs _ hne

theorem Spares.both (h : Spares k w w') : SparesBoth k k' w w' :=
  ⟨h.surroundings, fun x hx => h.machines x hx.1, fun x hx => h.deletionRequested x hx.1,
    fun x hx => h.inputs x hx.1⟩

theorem Spares.both' (h : Spares k' w w') : SparesBoth k k' w w' :=
  ⟨h.surroundings, fun x hx => h.machines x hx.2, fun x hx => h.deletionRequested x hx.2,
    fun x hx => h.inputs x hx.2⟩

/-- The parts of two clusters and what lies outside of them make up all that is kept. -/
theorem eq_of_parts (hk : Alike k w w') (hk' : Alike k' w w')
    (hothers : SparesBoth k k' w w') :
    w'.provider.machines = w.provider.machines ∧
      w'.provider.joined = w.provider.joined ∧
      w'.provider.deletionRequested = w.provider.deletionRequested ∧
      w'.installer.inputs = w.installer.inputs := by
  have hjoined : w'.provider.joined = w.provider.joined :=
    congrArg (fun x => x.2.2.2.1) hk.surroundings
  refine ⟨Table.ext fun x => ?_, hjoined, Table.ext fun x => ?_, Table.ext fun x => ?_⟩
  · by_cases hx : Owns k x
    · exact hk.machines x hx
    by_cases hx' : Owns k' x
    · exact hk'.machines x hx'
    · exact hothers.machines x ⟨hx, hx'⟩
  · by_cases hx : x = k
    · exact hk.deletionRequested x hx
    by_cases hx' : x = k'
    · exact hk'.deletionRequested x hx'
    · exact hothers.deletionRequested x ⟨hx, hx'⟩
  · by_cases hx : x = k
    · exact hk.inputs x hx
    by_cases hx' : x = k'
    · exact hk'.inputs x hx'
    · exact hothers.inputs x ⟨hx, hx'⟩

/-- Counting and waiting touch nobody's part. -/
theorem agree_counted {c : Call} {d : Duration} :
    Agree cluster machine w ((w.count c).wait d) := by
  cases c <;> exact ⟨rfl, fun _ _ => rfl, fun _ _ => rfl, fun _ _ => rfl⟩

/-! ### Calls -/

variable {q : MachineSetRequest} {m : MachineRole × String} {l : List (MachineRole × String)}

theorem spares_ensureOne (hm : m ∈ q.machines) :
    Spares ⟨q.ns, q.cluster⟩ w { w with provider := Provider.ensureOne q w.provider m } := by
  unfold Provider.ensureOne
  dsimp only
  split
  · exact .refl w
  split
  · exact .refl w
  · refine ⟨rfl, fun x hx => ?_, fun _ _ => rfl, fun _ _ => rfl⟩
    have hother : x ≠ ⟨q.ns, m.2⟩ := fun hx' => hx (hx' ▸ owns_of_mem_machines hm)
    dsimp only
    rw [Table.get?_insert, if_neg hother]

theorem spares_ensureAll (hl : ∀ m ∈ l, m ∈ q.machines) : Spares ⟨q.ns, q.cluster⟩ w
    { w with provider := l.foldl (Provider.ensureOne q) w.provider } := by
  induction l generalizing w with
  | nil => exact .refl w
  | cons m l ih =>
    obtain ⟨hm, hrest⟩ := List.forall_mem_cons.mp hl
    exact (spares_ensureOne hm).trans (ih hrest)

theorem alike_ensureOne (hm : m ∈ q.machines) (h : Alike ⟨q.ns, q.cluster⟩ w w') :
    Alike ⟨q.ns, q.cluster⟩ { w with provider := Provider.ensureOne q w.provider m }
      { w' with provider := Provider.ensureOne q w'.provider m } := by
  have hasked : w'.provider.deletionWasRequested q.ns q.cluster =
      w.provider.deletionWasRequested q.ns q.cluster := by
    unfold Provider.deletionWasRequested Table.contains
    rw [h.deletionRequested _ rfl]
  have hthere : w'.provider.machines.contains ⟨q.ns, m.2⟩ =
      w.provider.machines.contains ⟨q.ns, m.2⟩ := by
    unfold Table.contains
    rw [h.machines _ (owns_of_mem_machines hm)]
  unfold Provider.ensureOne
  dsimp only
  rw [hasked, hthere]
  split
  · exact h
  split
  · exact h
  · refine ⟨h.surroundings, fun x hx => ?_, h.deletionRequested, h.inputs⟩
    dsimp only
    rw [Table.get?_insert, Table.get?_insert, h.machines x hx]

theorem alike_ensureAll (hl : ∀ m ∈ l, m ∈ q.machines) (h : Alike ⟨q.ns, q.cluster⟩ w w') :
    Alike ⟨q.ns, q.cluster⟩ { w with provider := l.foldl (Provider.ensureOne q) w.provider }
      { w' with provider := l.foldl (Provider.ensureOne q) w'.provider } := by
  induction l generalizing w w' with
  | nil => exact h
  | cons m l ih =>
    obtain ⟨hm, hrest⟩ := List.forall_mem_cons.mp hl
    exact ih hrest (alike_ensureOne hm h)

variable {inputs : InstallInputs} {ns name : String}

theorem spares_ensure : Spares ⟨q.ns, q.cluster⟩ w
    { w with provider := (w.provider.ensure q).2 } := by
  unfold Provider.ensure
  split
  · exact .refl w
  · exact spares_ensureAll fun _ hm => hm

theorem alike_ensure (h : Alike ⟨q.ns, q.cluster⟩ w w') :
    (w'.provider.ensure q).1 = (w.provider.ensure q).1 ∧
      Alike ⟨q.ns, q.cluster⟩ { w with provider := (w.provider.ensure q).2 }
        { w' with provider := (w'.provider.ensure q).2 } := by
  unfold Provider.ensure
  split
  · exact ⟨rfl, h⟩
  · exact ⟨rfl, alike_ensureAll (fun _ hm => hm) h⟩

theorem spares_delete : Spares ⟨ns, name⟩ w
    { w with provider := w.provider.delete ns name } := by
  have hasked : ∀ x : ObjectKey, x ≠ ⟨ns, name⟩ →
      (w.provider.deletionRequested.insert ⟨ns, name⟩ ()).get? x =
        w.provider.deletionRequested.get? x := by
    intro x hx
    rw [Table.get?_insert, if_neg hx]
  unfold Provider.delete
  dsimp only
  split
  · exact ⟨rfl, fun _ _ => rfl, hasked, fun _ _ => rfl⟩
  · refine ⟨rfl, fun x hx => ?_, hasked, fun _ _ => rfl⟩
    have hother : x ≠ ⟨ns, Cluster.bootstrapMachine name⟩ := by
      rintro rfl
      exact hx owns_bootstrapMachine
    unfold Provider.finishDeletion
    dsimp only
    rw [Table.get?_erase, if_neg hother]

theorem alike_delete (hhold : w'.provider.holdDeletion = w.provider.holdDeletion)
    (h : Alike ⟨ns, name⟩ w w') :
    Alike ⟨ns, name⟩ { w with provider := w.provider.delete ns name }
      { w' with provider := w'.provider.delete ns name } := by
  have hasked : ∀ x : ObjectKey, x = ⟨ns, name⟩ →
      (w'.provider.deletionRequested.insert ⟨ns, name⟩ ()).get? x =
        (w.provider.deletionRequested.insert ⟨ns, name⟩ ()).get? x := by
    rintro x rfl
    rw [Table.get?_insert, Table.get?_insert, if_pos rfl, if_pos rfl]
  unfold Provider.delete
  dsimp only
  by_cases hold : w.provider.holdDeletion = true
  · rw [if_pos hold, if_pos (hhold.trans hold)]
    exact ⟨h.surroundings, h.machines, hasked, h.inputs⟩
  · rw [if_neg hold, if_neg (fun hold' => hold (hhold.symm.trans hold'))]
    refine ⟨h.surroundings, fun x hx => ?_, hasked, h.inputs⟩
    unfold Provider.finishDeletion
    dsimp only
    rw [Table.get?_erase, Table.get?_erase, h.machines x hx]

theorem spares_generate : Spares ⟨inputs.ns, inputs.cluster⟩ w
    { w with installer := (w.installer.generate inputs).2 } := by
  unfold Installer.generate
  split
  · refine ⟨rfl, fun _ _ => rfl, fun _ _ => rfl, fun x hx => ?_⟩
    dsimp only
    rw [Table.get?_insert, if_neg hx]
  · exact .refl w

theorem alike_generate (h : Alike ⟨inputs.ns, inputs.cluster⟩ w w') :
    (w'.installer.generate inputs).1 = (w.installer.generate inputs).1 ∧
      Alike ⟨inputs.ns, inputs.cluster⟩ { w with installer := (w.installer.generate inputs).2 }
        { w' with installer := (w'.installer.generate inputs).2 } := by
  unfold Installer.generate
  split
  · refine ⟨rfl, h.surroundings, h.machines, h.deletionRequested, fun x hx => ?_⟩
    dsimp only
    rw [Table.get?_insert, Table.get?_insert, h.inputs x hx]
  · exact ⟨rfl, h⟩

/-- A call that concerns a cluster leaves the parts of all others. -/
theorem spares_perform {c : Call} (hc : c.Concerns k) : Spares k w (w.perform c).2 := by
  cases c with
  | getSecret ns name => exact .refl w
  | listSecrets ns selector => exact .refl w
  | generateBootConfig inputs =>
    obtain rfl : ⟨inputs.ns, inputs.cluster⟩ = k := hc
    exact spares_generate
  | ensureMachines request =>
    obtain rfl : ⟨request.ns, request.cluster⟩ = k := hc
    exact spares_ensure
  | controlPlaneJoined ns cluster => exact .refl w
  | bootstrapComplete ns cluster => exact .refl w
  | deleteBootstrapMachine ns cluster =>
    obtain rfl : ⟨ns, cluster⟩ = k := hc
    exact spares_delete
  | bootstrapMachineDeleted ns cluster => exact .refl w

/-- A call that concerns a cluster has its answer from the part of that cluster, and leaves
there what it leaves. -/
theorem alike_perform {c : Call} (hc : c.Concerns k) (h : Alike k w w') :
    (w'.perform c).1 = (w.perform c).1 ∧ Alike k (w.perform c).2 (w'.perform c).2 := by
  have hfixed := h.surroundings
  unfold surroundings at hfixed
  simp only [Prod.mk.injEq] at hfixed
  obtain ⟨hsecrets, hunavailable, -, hjoined, hhold, -, hcomplete, -, -⟩ := hfixed
  cases c with
  | getSecret ns name =>
    refine ⟨?_, h⟩
    unfold perform SecretStore.get SecretStore.guarded
    rw [hsecrets, hunavailable]
  | listSecrets ns selector =>
    refine ⟨?_, h⟩
    unfold perform SecretStore.list SecretStore.guarded
    rw [hsecrets, hunavailable]
  | generateBootConfig inputs =>
    obtain rfl : ⟨inputs.ns, inputs.cluster⟩ = k := hc
    exact alike_generate h
  | ensureMachines request =>
    obtain rfl : ⟨request.ns, request.cluster⟩ = k := hc
    exact alike_ensure h
  | controlPlaneJoined ns cluster =>
    refine ⟨?_, h⟩
    unfold perform Provider.hasJoined
    rw [hjoined]
  | bootstrapComplete ns cluster =>
    refine ⟨?_, h⟩
    unfold perform Installer.isComplete
    rw [hcomplete]
  | deleteBootstrapMachine ns cluster =>
    obtain rfl : ⟨ns, cluster⟩ = k := hc
    exact ⟨rfl, alike_delete hhold h⟩
  | bootstrapMachineDeleted ns cluster =>
    obtain rfl : ⟨ns, cluster⟩ = k := hc
    have hthere : w'.provider.machines.contains ⟨ns, Cluster.bootstrapMachine cluster⟩ =
        w.provider.machines.contains ⟨ns, Cluster.bootstrapMachine cluster⟩ := by
      unfold Table.contains
      rw [h.machines _ owns_bootstrapMachine]
    refine ⟨?_, h⟩
    unfold perform Provider.isDeleted
    dsimp only
    rw [hthere]

/-! ### Calls that take no time -/

/-- No call takes any time. -/
structure Prompt (w : World) : Prop where
  secrets : w.secrets.latency = none
  provider : w.provider.latency = none
  installer : w.installer.latency = none

theorem Prompt.of_agree (hw : w.Prompt) (h : Agree cluster machine w w') : w'.Prompt := by
  have hfixed := h.surroundings
  unfold surroundings at hfixed
  simp only [Prod.mk.injEq] at hfixed
  obtain ⟨-, -, hsecrets, -, -, hprovider, -, hinstaller, -⟩ := hfixed
  exact ⟨hsecrets.trans hw.secrets, hprovider.trans hw.provider, hinstaller.trans hw.installer⟩

/-- How a call ends that is performed in time. -/
def outcomeOf {α : Type} : Except ClientError α → Outcome α
  | .ok a => .answered a
  | .error e => .failed e

theorem callWithin_of_prompt (c : Call) (budget : Duration) (hw : w.Prompt) :
    (w.callWithin c budget).1.outcome = outcomeOf (((w.count c).wait .zero).perform c).1 ∧
      (w.callWithin c budget).2 = (((w.count c).wait .zero).perform c).2 := by
  have hlatency : (w.count c).latency c = none := by
    cases c
    case getSecret => exact hw.secrets
    case listSecrets => exact hw.secrets
    case generateBootConfig => exact hw.installer
    case bootstrapComplete => exact hw.installer
    all_goals exact hw.provider
  have hintime : Duration.zero ≤ budget := Nat.zero_le budget.nanos
  unfold callWithin
  dsimp only
  rw [hlatency, Option.getD_none, if_pos hintime]
  cases (((w.count c).wait .zero).perform c).1 with
  | ok a => exact ⟨rfl, rfl⟩
  | error e => exact ⟨rfl, rfl⟩

variable {c : Call} {budget : Duration}

theorem spares_callWithin (hw : w.Prompt) (hc : c.Concerns k) :
    Spares k w (w.callWithin c budget).2 := by
  rw [(callWithin_of_prompt c budget hw).2]
  exact agree_counted.trans (spares_perform hc)

theorem alike_callWithin (budget : Duration) (hw : w.Prompt) (hc : c.Concerns k) (h : Alike k w w') :
    (w'.callWithin c budget).1.outcome = (w.callWithin c budget).1.outcome ∧
      Alike k (w.callWithin c budget).2 (w'.callWithin c budget).2 := by
  obtain ⟨houtcome, hafter⟩ := callWithin_of_prompt c budget hw
  obtain ⟨houtcome', hafter'⟩ := callWithin_of_prompt c budget (hw.of_agree h)
  have hcounted : Alike k ((w.count c).wait .zero) ((w'.count c).wait .zero) :=
    (agree_counted.symm.trans h).trans agree_counted
  obtain ⟨hanswer, hleft⟩ := alike_perform hc hcounted
  rw [houtcome, houtcome', hafter, hafter', hanswer]
  exact ⟨rfl, hleft⟩

/-! ### Programs of calls -/

/-- The collaborators answer a call within its budget. -/
def answerCall (config : Config) (c : Call) (w : World) : c.Reply × World :=
  w.callWithin c (c.budget config)

variable {α : Type} {p : Program Call Call.Reply α} {config : Config}

theorem spares_run (hp : p.Asks (Call.Concerns k)) (hw : w.Prompt) :
    Spares k w (p.run (answerCall config) w).2 := by
  have hrelated := (Program.reaches_run (answerCall config) p w).related
    (R := fun w w' => w.Prompt → Spares k w w') hp (fun w _ => .refl w)
    (fun hab hbc hw => (hab hw).trans (hbc (hw.of_agree (hab hw))))
    (fun c w hc hw => spares_callWithin hw hc)
  exact hrelated hw

/-- By clocks that are not read, a program that concerns a cluster comes to the same in any two
worlds in which the part of that cluster is the same. -/
theorem alike_run (config : Config) (hp : p.Asks (Call.Concerns k)) (hw : w.Prompt)
    (h : Alike k w w') :
    (p.run (timelessly (answerCall config)) w').1 = (p.run (timelessly (answerCall config)) w).1 ∧
      Alike k (p.run (timelessly (answerCall config)) w).2
        (p.run (timelessly (answerCall config)) w').2 := by
  induction hp generalizing w w' with
  | done a => exact ⟨rfl, h⟩
  | @ask c next hc rest ih =>
    obtain ⟨houtcome, hleft⟩ := alike_callWithin (c.budget config) hw hc h
    have hprompt : (w.callWithin c (c.budget config)).2.Prompt :=
      hw.of_agree (spares_callWithin hw hc)
    have hnext := ih ⟨(w.callWithin c (c.budget config)).1.outcome, .epoch⟩ hprompt hleft
    unfold Program.run timelessly answerCall
    dsimp only
    rw [houtcome]
    exact hnext

end World

end InMemory

end ControlPlane
