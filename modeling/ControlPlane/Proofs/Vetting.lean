/-
What a pass has seen before it provisions.

The calls of a pass have fixed places, and it makes each of them at most once, in the order of
these places and after an answer to all that came before.  `Sequel` says so of the rest of a
pass from a place on, and that the rest leaves the bound template alone.

The installer and the provider are called behind the look-ups.  So what the look-ups were
answered stands before these two calls in every log, and `Accounted` judges each call by what
stands before it: the spec was accepted, there was something to install from, every manifest
had a path, and what is handed over is what was answered.
-/
import ControlPlane.Proofs.Manifests
import ControlPlane.Proofs.Reconcile
import ControlPlane.Proofs.Ways

namespace ControlPlane

open Program (Runs)

/-- A pass over the example resource with a selector for its manifests. -/
def Demo.selectingPass : Pass :=
  let resource := resource none
  let selector : LabelSelector := ⟨some (.ofList [("app", "demo")]), none⟩
  ⟨.standard, { resource with spec := { resource.spec with manifestsSelector := some selector } },
    "clusters"⟩

/-- Collaborators of which the store has a manifest, too. -/
def Demo.manifestWorld : InMemory.World :=
  let secret : NamedSecret :=
    ⟨"demo-manifests", .ofList [("app", "demo")], .ofList [("manifests/demo.yaml", [2])]⟩
  { world with secrets := world.secrets.add "clusters" secret }

namespace Call

/-- When a call comes in a pass. -/
def place : Call → Nat
  | .getSecret .. => 0
  | .listSecrets .. => 1
  | .generateBootConfig _ => 2
  | .ensureMachines _ => 3
  | .controlPlaneJoined .. => 4
  | .bootstrapComplete .. => 5
  | .deleteBootstrapMachine .. => 6
  | .bootstrapMachineDeleted .. => 7

/-- The call leads to machines. -/
def provisions : Call → Bool
  | .generateBootConfig _ | .ensureMachines _ => true
  | _ => false

end Call

theorem Call.provisions_of_place {c : Call} (h : 4 ≤ c.place) : c.provisions = false := by
  cases c <;> simp_all [Call.place, Call.provisions]

/-! ### The order of the calls -/

/-- The calls come in order, each after an answer to all before. -/
def Calls.InOrder (log : Calls) : Prop :=
  log.Pairwise fun e later => e.1.place < later.1.place ∧ e.2.outcome.isAnswered = true

/-- The rest of a pass from a place on: its calls come in order from there, and the template
that is bound stays. -/
structure Sequel (n : Nat) (before : Status) (log : Calls) (after : Status) : Prop where
  place : ∀ e ∈ log, n ≤ e.1.place
  ordered : Calls.InOrder log
  bound : after.boundTemplate = before.boundTemplate

namespace Sequel

variable {n m : Nat} {before after : Status} {log : Calls}

theorem nil (h : after.boundTemplate = before.boundTemplate) : Sequel n before [] after :=
  ⟨List.forall_mem_nil _, .nil, h⟩

theorem mono (h : Sequel m before log after) (hnm : n ≤ m) : Sequel n before log after :=
  ⟨fun e he => Nat.le_trans hnm (h.place e he), h.ordered, h.bound⟩

/-- A call that is the last one. -/
theorem last {c : Call} {reply : c.Reply} (hc : c.place = n)
    (h : after.boundTemplate = before.boundTemplate) : Sequel n before [⟨c, reply⟩] after where
  place := by simp [hc]
  ordered := List.pairwise_singleton ..
  bound := h

/-- A call that is answered, and what follows it. -/
theorem cons {c : Call} {a : c.Answer} {now : Time} {between : Status} (hc : c.place = n)
    (hrest : Sequel (n + 1) between log after)
    (h : between.boundTemplate = before.boundTemplate) :
    Sequel n before (⟨c, ⟨.answered a, now⟩⟩ :: log) after where
  place := by
    refine List.forall_mem_cons.mpr ⟨Nat.le_of_eq hc.symm, fun e he => ?_⟩
    exact Nat.le_of_succ_le (hrest.place e he)
  ordered := by
    refine List.pairwise_cons.mpr ⟨fun e he => ⟨?_, rfl⟩, hrest.ordered⟩
    show c.place < e.1.place
    rw [hc]
    exact hrest.place e he
  bound := hrest.bound.trans h

end Sequel

namespace Pass

open Walk

variable {p : Pass} {s : Status} {log : Calls} {r : Except Stop Requeue} {s' : Standing}

theorem sequel_of_tearsDown (h : p.TearsDown s log r s') : Sequel 6 s log s'.status := by
  cases h with
  | unasked => exact .last rfl rfl
  | unknown => exact .cons rfl (.last rfl rfl) rfl
  | remains => exact .cons rfl (.last rfl rfl) rfl
  | gone => exact .cons rfl (.last rfl rfl) rfl

theorem sequel_of_completes (h : p.Completes s log r s') : Sequel 5 s log s'.status := by
  cases h with
  | known _ hrest => exact (sequel_of_tearsDown hrest).mono (by decide)
  | unknown => exact .last rfl rfl
  | unfinished => exact .last rfl rfl
  | finished hrest => exact .cons rfl (sequel_of_tearsDown hrest) rfl

theorem sequel_of_joins (h : p.Joins s log r s') : Sequel 4 s log s'.status := by
  cases h with
  | unknown => exact .last rfl rfl
  | absent => exact .last rfl rfl
  | joined hrest => exact .cons rfl (sequel_of_completes hrest) rfl

/-- The request for machines comes first, and it is for the template that stays bound. -/
theorem sequel_of_hands {bootSecret : String} (h : p.Hands bootSecret s log r s') :
    Sequel 3 s log s'.status ∧ ∃ reply later,
      log = ⟨.ensureMachines (p.request bootSecret s), reply⟩ :: later ∧
        ∀ e ∈ later, 4 ≤ e.1.place := by
  cases h with
  | unmade => exact ⟨.last rfl rfl, _, _, rfl, List.forall_mem_nil _⟩
  | made hrest =>
    have hsequel := sequel_of_joins hrest
    exact ⟨.cons rfl hsequel rfl, _, _, rfl, hsequel.place⟩

theorem sequel_of_gathers {looks : Calls} {install : InstallState}
    {manifests : Table String Bytes} {status after : Status}
    (h : p.Gathers s looks install manifests status) (hrest : Sequel 2 status log after) :
    Sequel 0 status (looks ++ log) after := by
  cases h with
  | defaults => exact .cons rfl (hrest.mono (by decide)) rfl
  | listed => exact .cons rfl (.cons rfl hrest rfl) rfl

/-- Look-ups that stop a pass come in order, and lead to no machines. -/
theorem sequel_of_stumbles {why : Stop} (h : p.Stumbles s log why s') :
    Sequel 0 s'.status log s'.status ∧ ∀ e ∈ log, e.1.provisions = false := by
  cases h with
  | unanswered => exact ⟨.last rfl rfl, by simp [lookup, Call.provisions]⟩
  | absent => exact ⟨.last rfl rfl, by simp [lookup, Call.provisions]⟩
  | useless => exact ⟨.last rfl rfl, by simp [lookup, Call.provisions]⟩
  | unlisted => exact ⟨.cons rfl (.last rfl rfl) rfl, by simp [lookup, Call.provisions]⟩
  | invalid => exact ⟨.cons rfl (.last rfl rfl) rfl, by simp [lookup, Call.provisions]⟩

theorem inOrder_of_provisions (h : p.Provisions s log r s') : log.InOrder := by
  cases h with
  | stumbled h => exact (sequel_of_stumbles h).1.ordered
  | unconfigured h => exact (sequel_of_gathers h (.last rfl rfl)).ordered
  | configured h hrest =>
    exact (sequel_of_gathers h (.cons rfl (sequel_of_hands hrest).1 rfl)).ordered

/-- A pass makes its calls in order. -/
theorem inOrder_of_goes {before : Standing} (h : p.Goes before log r s') : log.InOrder := by
  cases h with
  | refused => exact .nil
  | ready => exact .nil
  | initialized _ hrest => exact (sequel_of_completes hrest).ordered
  | fresh _ _ hrest => exact inOrder_of_provisions hrest

end Pass

/-! ### What stands before a call -/

/-- The installer starts from what the secret holds under the two keys, of which it has one. -/
theorem InstallState.eq_of_ofSecret {install : InstallState} {secret : String} {data : SecretData}
    (h : InstallState.ofSecret secret data = .ok install) :
    install = ⟨data.get? installConfigKey, data.get? installStateKey⟩ ∧
      (data.contains installConfigKey = true ∨ data.contains installStateKey = true) := by
  unfold InstallState.ofSecret at h
  dsimp only at h
  split at h
  · cases h
  · rename_i hsome
    cases h
    refine ⟨rfl, ?_⟩
    unfold Table.contains
    revert hsome
    cases data.get? installConfigKey <;> cases data.get? installStateKey <;> simp

/-- Each call of a log with what stands before it. -/
def Calls.Each (P : Calls → Call → Prop) (log : Calls) : Prop :=
  ∀ before c reply after, log = before ++ ⟨c, reply⟩ :: after → P before c

namespace Calls.Each

variable {P : Calls → Call → Prop} {l m : Calls}

theorem cons_iff {e : Program.Exchange Call Call.Reply} :
    Calls.Each P (e :: l) ↔ P [] e.1 ∧ Calls.Each (fun before => P (e :: before)) l := by
  constructor
  · intro h
    refine ⟨h [] e.1 e.2 l rfl, fun before c reply after hl => ?_⟩
    exact h (e :: before) c reply after (by rw [hl, List.cons_append])
  · rintro ⟨hfirst, hrest⟩ before c reply after heq
    cases before with
    | nil =>
      cases heq
      exact hfirst
    | cons first before =>
      obtain ⟨rfl, hl⟩ := List.cons.inj heq
      exact hrest before c reply after hl

theorem of_mem (h : ∀ e ∈ l, ∀ before, P before e.1) : Calls.Each P l := by
  intro before c reply after hl
  refine h ⟨c, reply⟩ ?_ before
  rw [hl]
  exact List.mem_append_right _ List.mem_cons_self

theorem append_iff : Calls.Each P (l ++ m) ↔
    Calls.Each P l ∧ Calls.Each (fun before => P (l ++ before)) m := by
  induction l generalizing P with
  | nil => exact ⟨fun h => ⟨of_mem (List.forall_mem_nil _), h⟩, fun h => h.2⟩
  | cons e l ih =>
    rw [List.cons_append, cons_iff, cons_iff, ih, and_assoc]
    rfl

end Calls.Each

namespace Pass

/-- What a pass has seen before it provisions. -/
structure Vetted (p : Pass) (before : Calls) : Prop where
  /-- No rule is broken. -/
  spec : specErrors p.resource.spec p.ns = some []
  /-- The template may be taken. -/
  template : checkTemplateUpdate p.resource.acceptedTemplate p.resource.spec.template = .ok ()
  /-- The secret is there and holds something to start from. -/
  secret : ∃ data now,
    ⟨.getSecret p.ns p.resource.spec.installState.name, ⟨.answered (some data), now⟩⟩ ∈ before ∧
      (data.contains installConfigKey = true ∨ data.contains installStateKey = true)
  /-- Where there is a selector, secrets were listed by it. -/
  listed : ∀ selector, ControlPlane.manifestsQuery p.resource.spec = .ok (some selector) →
    ∃ secrets now, ⟨.listSecrets p.ns selector, ⟨.answered secrets, now⟩⟩ ∈ before
  /-- All that was listed holds manifests only. -/
  manifests : ∀ ns selector (reply : (Call.listSecrets ns selector).Reply),
    ⟨.listSecrets ns selector, reply⟩ ∈ before → ∃ secrets, reply.outcome = .answered secrets ∧
      ∀ secret ∈ secrets, ∀ key ∈ secret.data.keys, isManifestPath key = true

/-- What is right about a call, given what stands before it and the template that is bound in
the end. -/
structure Accounted (p : Pass) (bound : Option MachineTemplate) (before : Calls) (c : Call) :
    Prop where
  /-- Whatever leads to machines comes after the checks. -/
  vetted : c.provisions = true → p.Vetted before
  /-- The installer is handed the bytes that the secret holds under the two keys, of which it
  holds one. -/
  inputs : ∀ inputs, c = .generateBootConfig inputs → ∃ data now,
    ⟨.getSecret p.ns p.resource.spec.installState.name, ⟨.answered (some data), now⟩⟩ ∈ before ∧
      inputs.config = data.get? installConfigKey ∧ inputs.state = data.get? installStateKey ∧
      inputs.hasSource = true
  /-- The machines boot from what the call just before was answered, and they are of the bound
  template. -/
  request : ∀ request, c = .ensureMachines request → bound = some request.template ∧
    ∃ earlier inputs now,
      before = earlier ++ [⟨.generateBootConfig inputs, ⟨.answered request.bootSecret, now⟩⟩]

variable {p : Pass} {s status : Status} {log looks : Calls} {r : Except Stop Requeue}
  {s' : Standing} {install : InstallState} {manifests : Table String Bytes}
  {bound : Option MachineTemplate} {before : Calls} {c : Call}

theorem accounted_of_provisions_eq_false (h : c.provisions = false) :
    p.Accounted bound before c := by
  refine ⟨fun hc => ?_, ?_, ?_⟩
  · rw [h] at hc
    cases hc
  · rintro inputs rfl
    cases h
  · rintro request rfl
    cases h

/-- What the look-ups come to is vetted if the spec is accepted. -/
theorem vetted_of_gathers
    (haccepted : p.judge (p.resource.status.getD .blank).boundTemplate = .ok ())
    (h : p.Gathers s looks install manifests status) : p.Vetted looks := by
  obtain ⟨hspec, htemplate⟩ := accepted_iff.mp haccepted
  cases h with
  | defaults hinstall hquery =>
    obtain ⟨-, hsource⟩ := InstallState.eq_of_ofSecret hinstall
    refine ⟨hspec, htemplate, ⟨_, _, List.mem_cons_self, hsource⟩, ?_, ?_⟩
    · intro selector hselector
      rw [hquery] at hselector
      cases hselector
    · intro ns selector reply hmem
      cases List.mem_singleton.mp hmem
  | listed hinstall hquery hmanifests =>
    obtain ⟨-, hsource⟩ := InstallState.eq_of_ofSecret hinstall
    refine ⟨hspec, htemplate, ⟨_, _, List.mem_cons_self, hsource⟩, ?_, ?_⟩
    · intro selector hselector
      rw [hquery] at hselector
      cases hselector
      exact ⟨_, _, List.mem_cons_of_mem _ List.mem_cons_self⟩
    · intro ns selector reply hmem
      obtain hlookup | hlist := List.mem_cons.mp hmem
      · cases hlookup
      · cases List.mem_singleton.mp hlist
        exact ⟨_, rfl, exists_collect_iff.mp ⟨_, hmanifests⟩⟩

/-- A call that lists nothing leaves a pass vetted. -/
theorem Vetted.after {inputs : InstallInputs} {reply : (Call.generateBootConfig inputs).Reply}
    (h : p.Vetted before) : p.Vetted (before ++ [⟨.generateBootConfig inputs, reply⟩]) where
  spec := h.spec
  template := h.template
  secret := by
    obtain ⟨data, now, hmem, hsource⟩ := h.secret
    exact ⟨data, now, List.mem_append_left _ hmem, hsource⟩
  listed selector hselector := by
    obtain ⟨secrets, now, hmem⟩ := h.listed selector hselector
    exact ⟨secrets, now, List.mem_append_left _ hmem⟩
  manifests ns selector reply hmem := by
    obtain hmem | hlast := List.mem_append.mp hmem
    · exact h.manifests ns selector reply hmem
    · cases List.mem_singleton.mp hlast

theorem accounted_generateBootConfig
    (haccepted : p.judge (p.resource.status.getD .blank).boundTemplate = .ok ())
    (h : p.Gathers s looks install manifests status) :
    p.Accounted bound looks (.generateBootConfig (p.inputs install manifests)) := by
  refine ⟨fun _ => vetted_of_gathers haccepted h, ?_, nofun⟩
  rintro inputs ⟨⟩
  have hinputs : ∀ {data : SecretData} {now : Time},
      InstallState.ofSecret p.resource.spec.installState.name data = .ok install →
      ⟨p.lookup, ⟨.answered (some data), now⟩⟩ ∈ looks → ∃ data now,
        ⟨.getSecret p.ns p.resource.spec.installState.name, ⟨.answered (some data), now⟩⟩ ∈ looks ∧
          (p.inputs install manifests).config = data.get? installConfigKey ∧
          (p.inputs install manifests).state = data.get? installStateKey ∧
          (p.inputs install manifests).hasSource = true := by
    intro data now hinstall hmem
    obtain ⟨rfl, hsource⟩ := InstallState.eq_of_ofSecret hinstall
    refine ⟨data, now, hmem, rfl, rfl, ?_⟩
    simpa [InstallInputs.hasSource, inputs, Table.contains] using hsource
  cases h with
  | defaults hinstall => exact hinputs hinstall List.mem_cons_self
  | listed hinstall => exact hinputs hinstall List.mem_cons_self

theorem accounted_ensureMachines {inputs : InstallInputs} {bootSecret : String} {now : Time}
    (hvetted : p.Vetted looks) (hbound : status.boundTemplate.isSome = true) :
    p.Accounted status.boundTemplate
      (looks ++ [⟨.generateBootConfig inputs, ⟨.answered bootSecret, now⟩⟩])
      (.ensureMachines (p.request bootSecret status)) := by
  refine ⟨fun _ => hvetted.after, nofun, ?_⟩
  rintro request ⟨⟩
  obtain ⟨template, htemplate⟩ := Option.isSome_iff_exists.mp hbound
  exact ⟨by simp [request, htemplate], looks, inputs, now, rfl⟩

/-- The look-ups bind the template. -/
theorem bound_of_gathers (h : p.Gathers s looks install manifests status) :
    status.boundTemplate = some (s.boundTemplate.getD p.resource.spec.template) := by
  cases h with
  | defaults => exact Status.bind_boundTemplate
  | listed => exact Status.bind_boundTemplate

theorem each_of_provisions_eq_false (h : ∀ e ∈ log, e.1.provisions = false) :
    Calls.Each (p.Accounted bound) log :=
  .of_mem fun e he _ => accounted_of_provisions_eq_false (h e he)

theorem accounted_of_provisions
    (haccepted : p.judge (p.resource.status.getD .blank).boundTemplate = .ok ())
    (h : p.Provisions s log r s') : Calls.Each (p.Accounted s'.status.boundTemplate) log := by
  have hlooks : ∀ {looks install manifests status}, p.Gathers s looks install manifests status →
      ∀ e ∈ looks, e.1.provisions = false := by
    intro looks install manifests status h
    cases h <;> simp [lookup, Call.provisions]
  cases h with
  | stumbled h => exact each_of_provisions_eq_false (sequel_of_stumbles h).2
  | unconfigured h =>
    refine Calls.Each.append_iff.mpr ⟨each_of_provisions_eq_false (hlooks h), ?_⟩
    refine Calls.Each.cons_iff.mpr ⟨?_, .of_mem (List.forall_mem_nil _)⟩
    rw [List.append_nil]
    exact accounted_generateBootConfig haccepted h
  | configured h hrest =>
    obtain ⟨hsequel, reply, later, rfl, hlater⟩ := sequel_of_hands hrest
    refine Calls.Each.append_iff.mpr ⟨each_of_provisions_eq_false (hlooks h), ?_⟩
    refine Calls.Each.cons_iff.mpr ⟨?_, Calls.Each.cons_iff.mpr ⟨?_, ?_⟩⟩
    · rw [List.append_nil]
      exact accounted_generateBootConfig haccepted h
    · rw [hsequel.bound]
      exact accounted_ensureMachines (vetted_of_gathers haccepted h) (by simp [bound_of_gathers h])
    · exact .of_mem fun e he _ =>
        accounted_of_provisions_eq_false (Call.provisions_of_place (hlater e he))

/-- Every call of a pass is accounted for. -/
theorem accounted_of_goes {start : Time}
    (h : p.Goes ⟨p.resource.status.getD .blank, start⟩ log r s') :
    Calls.Each (p.Accounted s'.status.boundTemplate) log := by
  cases h with
  | refused => exact .of_mem (List.forall_mem_nil _)
  | ready => exact .of_mem (List.forall_mem_nil _)
  | initialized _ hrest =>
    refine each_of_provisions_eq_false fun e he => Call.provisions_of_place ?_
    exact Nat.le_of_succ_le ((sequel_of_completes hrest).place e he)
  | fresh haccepted _ hrest => exact accounted_of_provisions haccepted hrest

/-- **Nothing is provisioned from unchecked input.**  Whatever status is stored and however the
collaborators answer, a pass makes its calls in the order of their places, each at most once and
only after an answer to all before it.  It calls the installer and the provider only over a spec
that is accepted, with something to install from and with manifests alone.  The installer is
handed what the secret holds, and the provider the boot configuration of the call just before it
and the template that is bound in the end. -/
theorem provisions_vetted {start : Time} {o : PassOutcome}
    (hrun : Runs (p.run start) log (some o)) :
    (log.Pairwise fun e later => e.1.place < later.1.place ∧ e.2.outcome.isAnswered = true) ∧
    ∀ before c reply after, log = before ++ ⟨c, reply⟩ :: after →
      p.Accounted o.status.boundTemplate before c := by
  obtain ⟨r, s', hwalk, rfl⟩ := exists_walked hrun
  have hgoes := goes_walk log r s' hwalk
  rw [boundTemplate_outcome]
  exact ⟨inOrder_of_goes hgoes, accounted_of_goes hgoes⟩

/-- The pass finds a manifest, and its fourth call is the request for machines. -/
theorem provisions_vetted_manifest :
    ∃ log o before request reply after, Runs (Demo.selectingPass.run ⟨0, 0⟩) log (some o) ∧
      log = before ++ ⟨.ensureMachines request, reply⟩ :: after ∧
      (∃ selector list, ⟨.listSecrets "clusters" selector, list⟩ ∈ before) ∧
      Demo.selectingPass.Vetted before ∧ o.status.boundTemplate = some request.template := by
  have hrun := Program.runs_trace Demo.answerCall (Demo.selectingPass.run ⟨0, 0⟩) Demo.manifestWorld
  have hrequests : ((Demo.selectingPass.run ⟨0, 0⟩).trace Demo.answerCall Demo.manifestWorld).any
      (fun e => e.1.place = 3) = true := by decide +kernel
  have hselector : ∃ selector, ControlPlane.manifestsQuery Demo.selectingPass.resource.spec =
      .ok (some selector) := ⟨_, rfl⟩
  obtain ⟨⟨c, reply⟩, hmem, hplace⟩ := List.any_eq_true.mp hrequests
  obtain ⟨before, after, hsplit⟩ := List.append_of_mem hmem
  obtain ⟨-, haccounted⟩ := provisions_vetted hrun
  obtain ⟨hvetted, -, hrequest⟩ := haccounted before c reply after hsplit
  cases c with
  | ensureMachines request =>
    have hseen := hvetted rfl
    obtain ⟨selector, hquery⟩ := hselector
    obtain ⟨secrets, now, hlist⟩ := hseen.listed selector hquery
    exact ⟨_, _, before, request, reply, after, hrun, hsplit, ⟨selector, _, hlist⟩, hseen,
      (hrequest request rfl).1⟩
  | _ => simp [Call.place] at hplace

end Pass

end ControlPlane
