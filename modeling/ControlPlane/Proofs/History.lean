/-
The history of a resource.

A resource is reconciled again and again, each time with the status that was stored
last.  Between two turns its spec and its metadata may change in any way, and a turn may
meet with any answers or break off; its write may be taken or fail.  Every status that is ever
stored this way is consistent, and the template that is bound first stays bound.
-/
import ControlPlane.Proofs.Consistent
import ControlPlane.Proofs.Reconcile

namespace ControlPlane

open Program (Runs)

/-- A reconciliation of a resource, as it went.  One that returns nothing has broken off. -/
structure Turn where
  controller : Controller
  resource : Resource
  start : Time
  log : Effects
  result : Controller.Returned × Controller
  runs : Runs (controller.reconcile resource start) log result

namespace Turn

/-- What may be stored after a turn.  A write that is taken replaces the status, but the
store may keep its times less exactly; a write that fails may have been taken as well. -/
inductive Leaves (t : Turn) : Option Status → Prop where
  | kept (h : ∀ w ∈ Effects.writes t.log, w.reply.result ≠ .ok ()) : t.Leaves t.resource.status
  | stored {w : Write} (hw : w ∈ Effects.writes t.log) (f : Time → Time) :
      t.Leaves (some (w.status.withTimes f))

variable {t : Turn} {ns : String} {after : Option Status}

/-- A turn leaves a consistent status consistent. -/
theorem consistent_of_leaves (hns : t.resource.metadata.ns = some ns)
    (h : (t.resource.status.getD .blank).Consistent ns) (hafter : t.Leaves after) :
    (after.getD .blank).Consistent ns := by
  cases hafter with
  | kept hwrites => exact h
  | stored hw f =>
    obtain ⟨-, -, -, -, walked, hwalk, hstatus⟩ := Controller.of_mem_writes hns t.runs hw
    have hwritten : Status.Consistent ns _ := hstatus ▸ Pass.consistent_outcome h hwalk
    exact hwritten.withTimes

/-- A turn leaves the template that is bound. -/
theorem boundTemplate_of_leaves {template : MachineTemplate}
    (hns : t.resource.metadata.ns = some ns)
    (h : (t.resource.status.getD .blank).boundTemplate = some template)
    (hafter : t.Leaves after) : (after.getD .blank).boundTemplate = some template := by
  cases hafter with
  | kept hwrites => exact h
  | stored hw f =>
    obtain ⟨-, -, -, -, walked, hwalk, hstatus⟩ := Controller.of_mem_writes hns t.runs hw
    have hfollows := Pass.follows_outcome hwalk
    rw [← hstatus] at hfollows
    exact hfollows.boundTemplate template h

end Turn

/-- The turns of a resource from one stored status to another.  Only the namespace and the
name of the resource stay, and a turn is handed the status that is stored. -/
inductive History (ns name : String) (before : Option Status) :
    List Turn → Option Status → Prop where
  | start : History ns name before [] before
  | turn {turns : List Turn} {stored after : Option Status} {t : Turn}
      (earlier : History ns name before turns stored) (hns : t.resource.metadata.ns = some ns)
      (hname : t.resource.name = name) (hstored : t.resource.status = stored)
      (hafter : t.Leaves after) : History ns name before (turns ++ [t]) after

namespace History

variable {ns name : String} {before after : Option Status} {turns : List Turn}

theorem consistent (h : History ns name before turns after)
    (hbefore : (before.getD .blank).Consistent ns) : (after.getD .blank).Consistent ns := by
  induction h with
  | start => exact hbefore
  | turn earlier hns hname hstored hafter ih =>
    rw [← hstored] at ih
    exact Turn.consistent_of_leaves hns ih hafter

theorem boundTemplate {template : MachineTemplate} (h : History ns name before turns after)
    (hbefore : (before.getD .blank).boundTemplate = some template) :
    (after.getD .blank).boundTemplate = some template := by
  induction h with
  | start => exact hbefore
  | turn earlier hns hname hstored hafter ih =>
    rw [← hstored] at ih
    exact Turn.boundTemplate_of_leaves hns ih hafter

/-- Every turn of a history was handed what the turns before it have left. -/
theorem exists_earlier (h : History ns name before turns after) :
    ∀ t ∈ turns, t.resource.metadata.ns = some ns ∧
      ∃ earlier, History ns name before earlier t.resource.status := by
  induction h with
  | start => simp
  | turn earlier hns hname hstored hafter ih =>
    refine List.forall_mem_append.mpr ⟨ih, fun t ht => ?_⟩
    rw [List.mem_singleton.mp ht]
    exact ⟨hns, _, hstored ▸ earlier⟩

/-- A turn of the example resource. -/
def demoTurn (status : Option Status) (w : InMemory.World) : Turn where
  controller := .start .standard
  resource := Demo.resource status
  start := ⟨0, 0⟩
  log := Demo.effects status w
  result := Demo.result status w
  runs := Demo.runs status w

/-- What the turn writes may be stored after it. -/
theorem demoTurn_leaves {status : Option Status} {w : InMemory.World} {s : Status}
    (h : Demo.written status w = some s) : (demoTurn status w).Leaves (some (s.withTimes id)) := by
  obtain ⟨wr, hmem, rfl⟩ := Demo.exists_write h
  have hlog : wr ∈ Effects.writes (demoTurn status w).log := hmem
  exact .stored hlog id

/-- **Every stored status is consistent.**  From a resource without a status, any number of
reconciliations, with any changes of the spec between them, any answers of the
collaborators and any failures to write, store only statuses whose latches, conditions and
bound template tell the same; the bound template is one that was accepted in the
resource's namespace, and it never changes again. -/
theorem stored_consistent {s : Status} {later : List Turn} {last : Option Status}
    (hreached : History ns name none turns (some s))
    (hlater : History ns name (some s) later last) :
    s.Consistent ns ∧
      ∀ t, s.boundTemplate = some t → ∃ s', last = some s' ∧ s'.boundTemplate = some t := by
  refine ⟨hreached.consistent Status.consistent_blank, fun t ht => ?_⟩
  have hlast : (last.getD .blank).boundTemplate = some t := hlater.boundTemplate ht
  cases last with
  | none => cases hlast
  | some s' => exact ⟨s', rfl, hlast⟩

/-- The first turn binds the template, and the second one finds no secret any more. -/
theorem stored_consistent_demo :
    ∃ s s', History "clusters" "demo" none [demoTurn none Demo.world] (some s) ∧
      History "clusters" "demo" (some s) [demoTurn (some s) Demo.emptyWorld] (some s') ∧
      s.Consistent "clusters" ∧ s.boundTemplate = some Demo.template ∧
      s'.boundTemplate = some Demo.template := by
  have hfirst : (Demo.written none Demo.world).map (·.boundTemplate) =
      some (some Demo.template) := by decide +kernel
  have hsecond : ((Demo.written none Demo.world).bind fun s =>
      Demo.written (some (s.withTimes id)) Demo.emptyWorld).isSome = true := by decide +kernel
  obtain ⟨s, hs, hbound⟩ := Option.map_eq_some_iff.mp hfirst
  rw [hs, Option.bind_some] at hsecond
  obtain ⟨s', hs'⟩ := Option.isSome_iff_exists.mp hsecond
  have hone : History "clusters" "demo" none [demoTurn none Demo.world] (some (s.withTimes id)) :=
    .turn .start rfl rfl rfl (demoTurn_leaves hs)
  have htwo : History "clusters" "demo" (some (s.withTimes id))
      [demoTurn (some (s.withTimes id)) Demo.emptyWorld] (some (s'.withTimes id)) :=
    .turn .start rfl rfl rfl (demoTurn_leaves hs')
  obtain ⟨hconsistent, hstays⟩ := stored_consistent hone htwo
  rw [← Status.withTimes_boundTemplate] at hbound
  obtain ⟨last, hlast, hkept⟩ := hstays Demo.template hbound
  cases hlast
  exact ⟨_, _, hone, htwo, hconsistent, hbound, hkept⟩

end History

end ControlPlane
