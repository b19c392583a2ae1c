/-
The versions of a resource under replays.

The controller hears of a resource with a delay and may hear of it twice, so a pass may be
handed any version that was ever stored.  What the pass writes is judged against that
version, but it is merged over the one that is stored by then, and the write does not say
which version it is for.

So a latch survives a write exactly when the pass knew of it: it was set in the version
that the pass was handed, or its signal was seen in the pass.  `Fresh` says this of one
write, and the latches never go back along the versions if and only if every write is
fresh.  They do go back when an old version is replayed after its secret is gone.
-/
import ControlPlane.Proofs.History
import ControlPlane.Proofs.Merge

namespace ControlPlane

/-- What is observed in a version of the resource. -/
def Resource.observed (r : Resource) : Status := r.status.getD .blank

/-- The latches that are set in a version are set in a later one. -/
def Resource.Forward (older newer : Resource) : Prop :=
  (older.observed.initialized = true → newer.observed.initialized = true) ∧
    (older.observed.ready = true → newer.observed.ready = true)

theorem Resource.Forward.trans {a b c : Resource} (hab : a.Forward b) (hbc : b.Forward c) :
    a.Forward c :=
  ⟨fun h => hbc.1 (hab.1 h), fun h => hbc.2 (hab.2 h)⟩

/-- A write of a turn that was merged over a stored version. -/
structure Commit where
  turn : Turn
  write : Write
  stored : Resource

namespace Commit

/-- The version that the pass was handed. -/
def handed (c : Commit) : Resource := c.turn.resource

/-- A signal was seen in the pass. -/
def saw (c : Commit) (signal : Signal) : Bool := signal.seenIn (Effects.calls c.turn.log)

/-- The pass knew of every latch that is stored. -/
def Fresh (c : Commit) : Prop :=
  (c.stored.observed.initialized = true →
      c.handed.observed.initialized = true ∨ c.saw .controlPlaneJoined = true) ∧
    (c.stored.observed.ready = true →
      c.handed.observed.ready = true ∨ c.saw .bootstrapMachineDeleted = true)

end Commit

/-- The versions of a resource, the last one first, and the writes of the controller among
them.  Everything but the status may be changed by others at any time. -/
inductive Versions (ns name : String) : List Resource → List Commit → Prop where
  | created {r : Resource} (hns : r.metadata.ns = some ns) (hname : r.name = name) :
      Versions ns name [r] []
  | edited {r r' : Resource} {earlier : List Resource} {commits : List Commit}
      (h : Versions ns name (r :: earlier) commits) (hns : r'.metadata.ns = some ns)
      (hname : r'.name = name) (hstatus : r'.status = r.status) :
      Versions ns name (r' :: r :: earlier) commits
  | written {c : Commit} {r' : Resource} {earlier : List Resource} {commits : List Commit}
      (h : Versions ns name (c.stored :: earlier) commits)
      (hhanded : c.handed ∈ c.stored :: earlier) (hwrite : c.write ∈ Effects.writes c.turn.log)
      (hmerged : Kubernetes.Merged c.write.status c.stored r') (hns : r'.metadata.ns = some ns)
      (hname : r'.name = name) : Versions ns name (r' :: c.stored :: earlier) (c :: commits)

namespace Versions

variable {ns name : String} {versions : List Resource} {commits : List Commit}

theorem ns_eq (h : Versions ns name versions commits) : ∀ r ∈ versions, r.metadata.ns = some ns := by
  induction h with
  | created hns hname => simpa using hns
  | edited h hns hname hstatus ih => exact List.forall_mem_cons.mpr ⟨hns, ih⟩
  | written h hhanded hwrite hmerged hns hname ih => exact List.forall_mem_cons.mpr ⟨hns, ih⟩

/-- Each latch of a merged version is set if it was in the version that was handed over or
its signal was seen. -/
theorem latches_of_merged {c : Commit} {r' : Resource} (hns : c.handed.metadata.ns = some ns)
    (hwrite : c.write ∈ Effects.writes c.turn.log)
    (hmerged : Kubernetes.Merged c.write.status c.stored r') :
    r'.observed.initialized = (c.handed.observed.initialized || c.saw .controlPlaneJoined) ∧
      r'.observed.ready = (c.handed.observed.ready || c.saw .bootstrapMachineDeleted) := by
  obtain ⟨after, hafter, hinit, hready⟩ := hmerged.latches
  obtain ⟨-, -, -, -, walked, hwalk, hstatus⟩ := Controller.of_mem_writes hns c.turn.runs hwrite
  have hfollows := Pass.follows_outcome hwalk
  rw [← hstatus] at hfollows
  have hobserved : r'.observed = after := by
    unfold Resource.observed
    rw [hafter]
    rfl
  rw [hobserved, hinit, hready]
  exact ⟨hfollows.initialized, hfollows.ready⟩

/-- A write takes no latch back exactly when it is fresh. -/
theorem forward_iff_fresh {c : Commit} {r' : Resource} (hns : c.handed.metadata.ns = some ns)
    (hwrite : c.write ∈ Effects.writes c.turn.log)
    (hmerged : Kubernetes.Merged c.write.status c.stored r') :
    c.stored.Forward r' ↔ c.Fresh := by
  obtain ⟨hinit, hready⟩ := latches_of_merged hns hwrite hmerged
  unfold Resource.Forward Commit.Fresh
  rw [hinit, hready, Bool.or_eq_true, Bool.or_eq_true]

/-- A version that keeps the latches of the one before keeps those of all versions. -/
theorem pairwise_cons {r r' : Resource} {earlier : List Resource} :
    (r' :: r :: earlier).Pairwise (fun newer older => older.Forward newer) ↔
      r.Forward r' ∧ (r :: earlier).Pairwise (fun newer older => older.Forward newer) := by
  constructor
  · intro h
    obtain ⟨hall, htail⟩ := List.pairwise_cons.mp h
    exact ⟨hall r List.mem_cons_self, htail⟩
  · rintro ⟨hlast, htail⟩
    refine List.pairwise_cons.mpr ⟨fun older hmem => ?_, htail⟩
    rcases List.mem_cons.mp hmem with rfl | hearlier
    · exact hlast
    · exact ((List.pairwise_cons.mp htail).1 older hearlier).trans hlast

/-- **When latches survive replays.**  Along the versions of a resource, with passes one
after the other that may be handed any version there has been, no latch ever goes back if
and only if every pass that wrote knew of the latches that were stored when it wrote. -/
theorem latches_survive_iff (h : Versions ns name versions commits) :
    versions.Pairwise (fun newer older => older.Forward newer) ↔ ∀ c ∈ commits, c.Fresh := by
  induction h with
  | created hns hname => simp
  | @edited r r' earlier commits h hns hname hstatus ih =>
    have hsame : r.Forward r' := by
      unfold Resource.Forward Resource.observed
      rw [hstatus]
      exact ⟨id, id⟩
    rw [pairwise_cons, ih]
    exact ⟨fun hall => hall.2, fun hall => ⟨hsame, hall⟩⟩
  | @written c r' earlier commits h hhanded hwrite hmerged hns hname ih =>
    rw [pairwise_cons, ih, forward_iff_fresh (h.ns_eq _ hhanded) hwrite hmerged,
      List.forall_mem_cons]

/-! ### A replay that takes a latch back -/

/-- A resource with a status merged into it. -/
def merge? (s : Status) (stored : Resource) : Option Resource :=
  (Resource.decode (.ofJson (stored.encode.mergePatch (Kubernetes.statusChange s)))).toOption

theorem merged_of_merge? {s : Status} {stored merged : Resource}
    (h : merge? s stored = some merged) : Kubernetes.Merged s stored merged := by
  unfold merge? at h
  unfold Kubernetes.Merged
  cases hdecode : Resource.decode (.ofJson (stored.encode.mergePatch (Kubernetes.statusChange s))) with
  | error e =>
    rw [hdecode] at h
    cases h
  | ok r =>
    rw [hdecode] at h
    cases h
    rfl

/-- The version is one of the example resource. -/
def isDemo (r : Resource) : Bool := r.metadata.ns = some "clusters" && r.name = "demo"

/-- The first version is handed over twice: while a machine has joined, and again when the
secret is gone. -/
def replay? : Option (Bool × Bool × Bool × Bool) := do
  let first ← Demo.written none Demo.joinedWorld
  let second ← merge? first (Demo.resource none)
  let stale ← Demo.written none Demo.emptyWorld
  let third ← merge? stale second
  some (isDemo second, second.observed.initialized, isDemo third, third.observed.initialized)

/-- The version that the first turn has stored is initialized, and the one that the replay
has stored is not. -/
theorem exists_replay : ∃ second third commits,
    Versions "clusters" "demo" [third, second, Demo.resource none] commits ∧
      second.observed.initialized = true ∧ third.observed.initialized = false := by
  have hreplay : replay? = some (true, true, true, false) := by decide +kernel
  unfold replay? at hreplay
  simp only [Option.bind_eq_bind, Option.bind_eq_some_iff, Option.some.injEq,
    Prod.mk.injEq] at hreplay
  obtain ⟨first, hfirst, second, hsecond, stale, hstale, third, hthird, hflags⟩ := hreplay
  obtain ⟨hdemo₂, hinit₂, hdemo₃, hinit₃⟩ := hflags
  unfold isDemo at hdemo₂ hdemo₃
  simp only [Bool.and_eq_true, decide_eq_true_eq] at hdemo₂ hdemo₃
  obtain ⟨w₁, hmem₁, rfl⟩ := Demo.exists_write hfirst
  obtain ⟨w₂, hmem₂, rfl⟩ := Demo.exists_write hstale
  let c₁ : Commit := ⟨History.demoTurn none Demo.joinedWorld, w₁, Demo.resource none⟩
  let c₂ : Commit := ⟨History.demoTurn none Demo.emptyWorld, w₂, second⟩
  have hone : Versions "clusters" "demo" [c₁.stored] [] := .created rfl rfl
  have htwo : Versions "clusters" "demo" [second, c₁.stored] [c₁] :=
    .written hone List.mem_cons_self hmem₁ (merged_of_merge? hsecond) hdemo₂.1 hdemo₂.2
  have hthree : Versions "clusters" "demo" [third, c₂.stored, c₁.stored] [c₂, c₁] :=
    .written htwo (List.mem_cons_of_mem _ List.mem_cons_self) hmem₂ (merged_of_merge? hthird)
      hdemo₃.1 hdemo₃.2
  exact ⟨second, third, [c₂, c₁], hthree, hinit₂, hinit₃⟩

/-- Along the replay a latch goes back. -/
theorem replay_not_forward {second third : Resource} (hinit₂ : second.observed.initialized = true)
    (hinit₃ : third.observed.initialized = false) :
    ¬ [third, second, Demo.resource none].Pairwise (fun newer older => older.Forward newer) := by
  intro h
  have hforward := (pairwise_cons.mp h).1.1 hinit₂
  rw [hinit₃] at hforward
  cases hforward

theorem latches_regress :
    ∃ versions commits, Versions "clusters" "demo" versions commits ∧
      ¬ versions.Pairwise (fun newer older => older.Forward newer) := by
  obtain ⟨second, third, commits, hversions, hinit₂, hinit₃⟩ := exists_replay
  exact ⟨_, commits, hversions, replay_not_forward hinit₂ hinit₃⟩

theorem latches_survive_iff_replay :
    ∃ versions commits, Versions "clusters" "demo" versions commits ∧ ¬ ∀ c ∈ commits, c.Fresh := by
  obtain ⟨second, third, commits, hversions, hinit₂, hinit₃⟩ := exists_replay
  refine ⟨_, commits, hversions, fun hfresh => ?_⟩
  exact replay_not_forward hinit₂ hinit₃ ((latches_survive_iff hversions).mpr hfresh)

end Versions

end ControlPlane
