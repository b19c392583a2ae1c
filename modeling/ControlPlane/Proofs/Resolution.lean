/-
How a pass comes to its manifests.

A pass that goes on to machines looks up what to install from, then lists the secrets with
manifests, and then hands both to the installer.  `Resolution` is what the two look-ups can
come to, and `Provisioned` is the whole pass: either it stops there, or it has resolved the
manifests and hands them over once.  From then on nothing takes the resolution back, and
this is what `Settled` says of the rest.
-/
import ControlPlane.Proofs.Latches

namespace ControlPlane

open Walk

/-- The manifests that a call hands to the installer. -/
def Call.manifests? : Call → Option (Table String Bytes)
  | .generateBootConfig inputs => some inputs.manifests
  | _ => none

/-- The manifests that some calls hand to the installer, one after the other. -/
def handed (log : Calls) : List (Table String Bytes) := log.filterMap fun e => e.1.manifests?

theorem handed_cons {c : Call} {reply : c.Reply} {log : Calls} :
    handed (⟨c, reply⟩ :: log) = c.manifests?.toList ++ handed log := by
  unfold handed
  rw [List.filterMap_cons]
  dsimp only
  cases c.manifests? <;> rfl

theorem handed_append {l m : Calls} : handed (l ++ m) = handed l ++ handed m :=
  List.filterMap_append

/-- The template is bound, and the manifests are resolved. -/
structure Status.Resolved (t : MachineTemplate) (s : Status) : Prop where
  bound : s.boundTemplate = some t
  resolved : s.isTrue .manifestsResolved = true

/-- A report on another condition leaves the manifests resolved. -/
theorem Status.Resolved.report {t : MachineTemplate} {s : Status} {type : ConditionType}
    {status : ConditionStatus} {reason : Reason} {message : String} {generation : Option Int}
    {now : Time} (h : s.Resolved t) (hne : type ≠ .manifestsResolved) :
    (s.report type status reason message generation now).Resolved t where
  bound := h.bound
  resolved := by
    rw [isTrue_report, if_neg hne.symm]
    exact h.resolved

/-- The end of a pass after the resolution: it leaves the manifests resolved, blames nothing on
them and hands nothing over. -/
structure Settled (t : MachineTemplate) (log : Calls) (r : Except Stop Requeue) (s : Status) :
    Prop where
  status : s.Resolved t
  blameless : ∀ why, r = .error why → ∀ reason, why.step ≠ some (.manifestsResolved, reason)
  quiet : handed log = []

namespace Settled

variable {t : MachineTemplate} {log : Calls} {r : Except Stop Requeue} {s : Status}

theorem ok {requeue : Requeue} (h : s.Resolved t) : Settled t [] (.ok requeue) s where
  status := h
  blameless _ heq := by cases heq
  quiet := rfl

/-- A stop that blames another condition. -/
theorem stopped {why : Stop} (h : s.Resolved t)
    (hwhy : ∀ reason, why.step ≠ some (.manifestsResolved, reason)) :
    Settled t [] (.error why) s where
  status := h
  blameless _ heq := by
    cases heq
    exact hwhy
  quiet := rfl

theorem on {type : ConditionType} {e : ControllerError} {requeue : Requeue} (h : s.Resolved t)
    (hne : type ≠ .manifestsResolved) : Settled t [] (.error (.on type e requeue)) s := by
  refine stopped h ?_
  intro reason hstep
  cases hstep
  exact hne rfl

/-- A call that hands nothing over may come first. -/
theorem after {c : Call} {reply : c.Reply} (h : Settled t log r s)
    (hc : c.manifests? = none) : Settled t (⟨c, reply⟩ :: log) r s where
  status := h.status
  blameless := h.blameless
  quiet := by
    rw [handed_cons, hc]
    exact h.quiet

end Settled

namespace Pass

variable {p : Pass} {s : Standing} {t : MachineTemplate}

/-! ### After the resolution -/

/-- However a step ends, it is settled. -/
def Settles (t : MachineTemplate) (w : Walk Requeue) (s : Standing) : Prop :=
  w.Ends s fun log r s' => Settled t log r s'.status

theorem Settles.after {w : Walk Requeue} {c : Call} {reply : c.Reply} (h : Settles t w s)
    (hc : c.manifests? = none) :
    w.Ends s fun rest r s' => Settled t (⟨c, reply⟩ :: rest) r s'.status :=
  h.imp fun _ _ _ hrest => hrest.after hc

theorem settles_conclude (h : s.status.Resolved t) : Settles t p.conclude s := by
  refine ends_conclude.mpr (.ok ?_)
  unfold concluded Status.clearDegraded
  exact (h.report (by decide)).report (by decide)

theorem settles_waitFor {type : ConditionType} {reason : Reason} {message : String}
    (h : s.status.Resolved t) (hne : type ≠ .manifestsResolved) :
    Settles t (p.waitFor type reason message) s := by
  refine ends_waitFor.mpr (.ok ?_)
  unfold waiting Status.reportWaiting Status.clearDegraded
  exact ((h.report hne).report (by decide)).report (by decide)

/-- A signal moves a latch and a condition of its own. -/
theorem resolved_signalled {signal : Signal} {latched : Status} {now : Time}
    (h : latched.Resolved t) : (p.signalled signal latched now).Resolved t :=
  h.report (by cases signal <;> decide)

/-- A look for a signal, and what follows it. -/
theorem settles_look {type : ConditionType} {signal : Signal} {c : Call} {seen : c.Answer → Bool}
    {latched : Status} {f : Bool → Walk Requeue} (h : s.status.Resolved t)
    (hc : c.manifests? = none) (hne : type ≠ .manifestsResolved)
    (hexpects : s.status.expects signal = true) (hlatch : s.status.latch signal = .ok latched)
    (happlied : ∀ now, Settles t (f true) ⟨p.signalled signal latched now, now⟩)
    (hunseen : ∀ now, Settles t (f false) ⟨s.status, now⟩) :
    Settles t (p.look type signal c seen >>= f) s := by
  refine ends_bind.mpr (ends_look hexpects hlatch ?applied ?unseen ?failed)
  case applied =>
    intro a now _
    exact (happlied now).after hc
  case unseen =>
    intro a now _
    exact (hunseen now).after hc
  case failed =>
    intro reply e _
    exact (Settled.on h hne).after hc

theorem settles_tearDown (h : s.status.Resolved t) (hinit : s.status.initialized = true)
    (hcomplete : s.status.isTrue .bootstrapComplete = true) : Settles t p.tearDown s := by
  have hready : Status.Resolved t { s.status with ready := true } := ⟨h.bound, h.resolved⟩
  refine ends_bind.mpr (ends_callFor ?_ ?_)
  · intro _ now
    refine Settles.after (settles_look h rfl (by decide) hcomplete (if_pos hinit) ?_ ?_) rfl
    · intro _
      exact settles_conclude (resolved_signalled hready)
    · intro _
      exact settles_waitFor h (by decide)
  · intro reply e _
    exact (Settled.on h (by decide)).after rfl

theorem settles_complete (h : s.status.Resolved t) (hinit : s.status.initialized = true) :
    Settles t p.complete s := by
  unfold complete
  refine ends_bind.mpr (ends_status.mpr ?_)
  dsimp only
  split
  · rename_i hcomplete
    exact settles_tearDown h hinit hcomplete
  · refine settles_look h rfl (by decide) hinit rfl ?_ ?_
    · intro now
      refine settles_tearDown (resolved_signalled h) hinit ?_
      rw [isTrue_signalled rfl]
      exact if_pos rfl
    · intro now
      exact settles_waitFor h (by decide)

/-- A failure on the way to machines is blamed on them at most. -/
theorem settled_provisioningStop {status : Status} {e : ControllerError}
    (h : status.Resolved t) : Settled t [] (.error (provisioningStop status e)) status := by
  unfold provisioningStop
  split
  · exact .stopped h fun reason hstep => by cases hstep
  · exact .on h (by decide)

/-! ### The look-ups -/

/-- What the look-ups of a pass come to: some manifests, or none if the pass stops there. -/
inductive Resolution (p : Pass) : Calls → Option (Table String Bytes) → Prop where
  /-- There is nothing to install from. -/
  | unfound {reply : p.lookup.Reply}
      (h : ∀ data install, reply.outcome = .answered (some data) →
        InstallState.ofSecret p.resource.spec.installState.name data ≠ .ok install) :
      Resolution p [⟨p.lookup, reply⟩] none
  /-- The selector cannot be read. -/
  | unreadable {data : SecretData} {install : InstallState} {now : Time} {e : ValidationError}
      (hinstall : InstallState.ofSecret p.resource.spec.installState.name data = .ok install)
      (hquery : ControlPlane.manifestsQuery p.resource.spec = .error e) :
      Resolution p [⟨p.lookup, ⟨.answered (some data), now⟩⟩] none
  /-- Without a selector there are no manifests. -/
  | defaults {data : SecretData} {install : InstallState} {now : Time}
      (hinstall : InstallState.ofSecret p.resource.spec.installState.name data = .ok install)
      (hquery : ControlPlane.manifestsQuery p.resource.spec = .ok none) :
      Resolution p [⟨p.lookup, ⟨.answered (some data), now⟩⟩] (some .empty)
  /-- The secrets cannot be listed, or one of them holds what is no manifest. -/
  | unlisted {data : SecretData} {install : InstallState} {now : Time} {selector : Selector}
      {reply : (Call.listSecrets p.ns selector).Reply}
      (hinstall : InstallState.ofSecret p.resource.spec.installState.name data = .ok install)
      (hquery : ControlPlane.manifestsQuery p.resource.spec = .ok (some selector))
      (h : ∀ secrets manifests, reply.outcome = .answered secrets →
        collectManifests secrets ≠ .ok manifests) :
      Resolution p [⟨p.lookup, ⟨.answered (some data), now⟩⟩, ⟨.listSecrets p.ns selector, reply⟩]
        none
  /-- The secrets hold manifests. -/
  | listed {data : SecretData} {install : InstallState} {now now' : Time} {selector : Selector}
      {secrets : List NamedSecret} {manifests : Table String Bytes}
      (hinstall : InstallState.ofSecret p.resource.spec.installState.name data = .ok install)
      (hquery : ControlPlane.manifestsQuery p.resource.spec = .ok (some selector))
      (hcollect : collectManifests secrets = .ok manifests) :
      Resolution p [⟨p.lookup, ⟨.answered (some data), now⟩⟩,
        ⟨.listSecrets p.ns selector, ⟨.answered secrets, now'⟩⟩] (some manifests)

/-- A pass on the way to machines, from a status: it stops at its look-ups, or it goes on from
the manifests that they come to. -/
inductive Provisioned (p : Pass) (before : Status) :
    Calls → Except Stop Requeue → Status → Prop where
  | stopped {looks : Calls} {r : Except Stop Requeue} {s : Status} (h : p.Resolution looks none) :
      Provisioned p before looks r s
  | handed {looks more : Calls} {manifests : Table String Bytes} {install : InstallState}
      {reply : (Call.generateBootConfig (p.inputs install manifests)).Reply}
      {r : Except Stop Requeue} {s : Status} (h : p.Resolution looks (some manifests))
      (hrest : Settled (before.boundTemplate.getD p.resource.spec.template) more r s) :
      Provisioned p before
        (looks ++ ⟨.generateBootConfig (p.inputs install manifests), reply⟩ :: more) r s

/-- What a pass does with its machines. -/
def hand (p : Pass) (bootSecret : String) : Walk Requeue := do
  p.ensureMachines bootSecret
  if ← p.look .controlPlaneInitialized .controlPlaneJoined
      (.controlPlaneJoined p.ns p.cluster) id then
    p.complete
  else
    p.waitFor .controlPlaneInitialized .waitingForControlPlane
      "waiting for a control-plane machine to join the bootstrap cluster"

theorem settles_hand {bootSecret : String} (h : s.status.Resolved t) :
    Settles t (p.hand bootSecret) s := by
  unfold hand
  refine ends_bind.mpr (ends_ensureMachines ?made ?failed)
  case made =>
    intro now
    have hrequested : (p.requested s.status now).Resolved t := h.report (by decide)
    have hinit : Status.Resolved t (p.requested s.status now).markInitialized :=
      ⟨hrequested.bound, hrequested.resolved⟩
    refine Settles.after (settles_look hrequested rfl (by decide) rfl rfl ?_ ?_) rfl
    · intro _
      exact settles_complete (resolved_signalled hinit) rfl
    · intro _
      exact settles_waitFor hrequested (by decide)
  case failed =>
    intro reply e _
    exact (settled_provisioningStop h).after rfl

/-- What follows look-ups that come to some manifests. -/
theorem provisioned_of_resolution {before : Status} {looks : Calls} {install : InstallState}
    {manifests : Table String Bytes} (h : p.Resolution looks (some manifests))
    (hs : s.status.Resolved (before.boundTemplate.getD p.resource.spec.template)) :
    (p.generateBootConfig install manifests >>= p.hand).Ends s fun rest r s' =>
      p.Provisioned before (looks ++ rest) r s'.status := by
  refine ends_bind.mpr (ends_generateBootConfig ?handed ?failed)
  case handed =>
    intro bootSecret now
    exact (settles_hand hs).imp fun _ _ _ hrest => .handed h hrest
  case failed =>
    intro reply e _
    exact .handed h (settled_provisioningStop hs)

/-- Every way in which a pass goes to machines. -/
theorem provisioned_provision :
    p.provision.Ends s fun log r s' => p.Provisioned s.status log r s'.status := by
  refine ends_bind.mpr (ends_resolveInstallState ?found ?failed ?absent ?useless)
  case found =>
    intro data install now hinstall
    have hresolved : ∀ reason message now', Status.Resolved
        (s.status.boundTemplate.getD p.resource.spec.template)
        (p.resolved reason message (p.bound install s.status now) now') := by
      intro reason message now'
      refine ⟨by simp [resolved, bound], ?_⟩
      unfold resolved
      rw [Status.isTrue_report, if_pos rfl]
      rfl
    refine ends_bind.mpr (ends_resolveManifests ?defaults ?listed ?unreadable ?unlisted ?invalid)
    case defaults =>
      intro hquery
      exact provisioned_of_resolution (.defaults hinstall hquery) (hresolved _ _ _)
    case listed =>
      intro selector secrets manifests now' hquery hmanifests
      exact provisioned_of_resolution (.listed hinstall hquery hmanifests) (hresolved _ _ _)
    case unreadable =>
      intro e hquery
      exact .stopped (.unreadable hinstall hquery)
    case unlisted =>
      intro selector reply e hquery he
      refine .stopped (.unlisted hinstall hquery ?_)
      intro secrets manifests hreply
      rw [hreply] at he
      cases he
    case invalid =>
      intro selector secrets errors now' hquery herrors
      refine .stopped (.unlisted hinstall hquery ?_)
      intro secrets' manifests hreply
      cases hreply
      rw [herrors]
      exact fun heq => by cases heq
  case failed =>
    intro reply e he
    refine .stopped (.unfound ?_)
    intro data install hreply
    rw [hreply] at he
    cases he
  case absent =>
    intro now
    refine .stopped (.unfound ?_)
    intro data install hreply
    cases hreply
  case useless =>
    intro data e now he
    refine .stopped (.unfound ?_)
    intro data' install hreply
    cases hreply
    rw [he]
    exact fun heq => by cases heq

/-- A pass over a control plane that nothing has joined yet calls nobody, or goes to machines. -/
theorem provisioned_walk (hinit : s.status.initialized = false) : p.walk.Ends s fun log r s' =>
    (log = [] ∧ (s.status.ready = true ∨ p.judge s.status.boundTemplate ≠ .ok ())) ∨
      (s.status.ready = false ∧ p.judge s.status.boundTemplate = .ok () ∧
        p.Provisioned s.status log r s'.status) := by
  refine ends_walk ?refused ?ready ?initialized ?waiting
  case refused =>
    intro why hwhy
    exact .inl ⟨rfl, .inr (by simp [hwhy])⟩
  case ready =>
    intro hready
    exact ends_conclude.mpr (.inl ⟨rfl, .inl hready⟩)
  case initialized =>
    intro _ hset
    rw [hinit] at hset
    cases hset
  case waiting =>
    intro haccepted hready _
    exact provisioned_provision.imp fun _ _ _ h => .inr ⟨hready, haccepted, h⟩

/-! ### The whole way -/

variable {log : Calls} {walked : Except Stop Requeue × Standing} {manifests : Table String Bytes}

/-- A pass hands over manifests only for a spec that is not refused, and before the end. -/
theorem unready_of_handed (hinit : s.status.initialized = false)
    (hwalk : Program.Runs (p.walk s) log (some walked)) (hm : manifests ∈ handed log) :
    s.status.ready = false ∧ p.judge s.status.boundTemplate = .ok () := by
  obtain ⟨r, s'⟩ := walked
  rcases provisioned_walk hinit log r s' hwalk with ⟨rfl, -⟩ | ⟨hready, haccepted, -⟩
  · cases hm
  · exact ⟨hready, haccepted⟩

/-- What a settled pass has to say is that the manifests are resolved. -/
theorem resolved_outcome (h : Settled t log walked.1 walked.2.status) :
    (p.outcome walked).status.Resolved t := by
  obtain ⟨r, s'⟩ := walked
  cases r with
  | ok requeue => exact h.status
  | error why =>
    refine ⟨?_, ?_⟩
    · exact Status.reportError_boundTemplate.trans h.status.bound
    · exact (Status.isTrue_reportError (h.blameless why rfl) (by decide) (by decide)).trans
        h.status.resolved

/-- **How a pass comes to its manifests.**  A pass that goes to machines begins with its
look-ups.  It hands over the manifests that these come to and nothing else, and if there are
any, what it has to say is that they are resolved. -/
theorem exists_resolution (hinit : s.status.initialized = false) (hready : s.status.ready = false)
    (haccepted : p.judge s.status.boundTemplate = .ok ())
    (hwalk : Program.Runs (p.walk s) log (some walked)) :
    ∃ looks rest found, log = looks ++ rest ∧ p.Resolution looks found ∧
      handed log = found.toList ∧ ∀ m, found = some m → (p.outcome walked).status.Resolved
        (s.status.boundTemplate.getD p.resource.spec.template) := by
  obtain ⟨r, s'⟩ := walked
  have hlooks : ∀ {looks found}, p.Resolution looks found → handed looks = [] := by
    intro looks found h
    cases h <;> rfl
  rcases provisioned_walk hinit log r s' hwalk with ⟨-, hend⟩ | ⟨-, -, hprovisioned⟩
  · rcases hend with h | h
    · rw [hready] at h
      cases h
    · exact absurd haccepted h
  · cases hprovisioned with
    | stopped h => exact ⟨log, [], none, by simp, h, hlooks h, by simp⟩
    | handed h hrest =>
      refine ⟨_, _, _, rfl, h, ?_, fun _ _ => resolved_outcome hrest⟩
      rw [handed_append, hlooks h, handed_cons, hrest.quiet]
      rfl

end Pass

end ControlPlane
