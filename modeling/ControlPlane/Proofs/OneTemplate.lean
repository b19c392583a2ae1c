/-
From which template the machines are made.

A pass asks for machines of the template that is bound in the status it starts from, and if
none is bound there, of the template of its spec, which it binds.  The bound template is stored
with the status, in the one write at the end of the pass.  From then on it stays, and no later
pass asks for anything else.

Before that the template may be edited, and a write may be lost after machines have been asked
for.  So all machines come from one template just if those passes agree that have asked for
machines before a bound template was stored.  An example where they do not follows.
-/
import ControlPlane.Proofs.History
import ControlPlane.Proofs.Vetting

namespace ControlPlane

open Program (Runs)

/-- The request for machines that a call makes, if it makes one. -/
def Call.request? : Call → Option MachineSetRequest
  | .ensureMachines request => some request
  | _ => none

/-- The requests for machines among some calls. -/
def machineRequests (log : Calls) : List MachineSetRequest := log.filterMap fun e => e.1.request?

theorem machineRequests_cons {c : Call} {reply : c.Reply} {log : Calls} :
    machineRequests (⟨c, reply⟩ :: log) = c.request?.toList ++ machineRequests log := by
  unfold machineRequests
  rw [List.filterMap_cons]
  dsimp only
  cases c.request? <;> rfl

theorem machineRequests_append {l m : Calls} :
    machineRequests (l ++ m) = machineRequests l ++ machineRequests m :=
  List.filterMap_append

theorem machineRequests_eq_nil {log : Calls} (h : ∀ e ∈ log, e.1.provisions = false) :
    machineRequests log = [] := by
  refine List.filterMap_eq_nil_iff.mpr fun e he => ?_
  have hfree := h e he
  obtain ⟨c, reply⟩ := e
  cases c <;> first | rfl | cases hfree

/-! ### The request of a pass -/

namespace Pass

variable {p : Pass} {s : Status} {log looks : Calls} {r : Except Stop Requeue} {s' : Standing}
  {request : MachineSetRequest}

/-- What is asked for is of the template that was bound before, or else of that of the spec, and
it is of the template that is bound in the end. -/
def AsksFor (p : Pass) (before after : Status) (request : MachineSetRequest) : Prop :=
  request.template = before.boundTemplate.getD p.resource.spec.template ∧
    after.boundTemplate = some request.template

theorem asksFor_of_provisions (h : p.Provisions s log r s') (hmem : request ∈ machineRequests log) :
    p.AsksFor s s'.status request := by
  cases h with
  | stumbled h =>
    rw [machineRequests_eq_nil (sequel_of_stumbles h).2] at hmem
    cases hmem
  | unconfigured h =>
    cases h <;> cases hmem
  | @configured looks rest install manifests status bootSecret now _ _ h hrest =>
    obtain ⟨hsequel, reply, later, rfl, hlater⟩ := sequel_of_hands hrest
    have hquiet : machineRequests later = [] :=
      machineRequests_eq_nil fun e he => Call.provisions_of_place (hlater e he)
    have hlooks : machineRequests looks = [] := by cases h <;> rfl
    rw [machineRequests_append, hlooks, machineRequests_cons, machineRequests_cons, hquiet] at hmem
    have hone : request = p.request bootSecret status := List.mem_singleton.mp hmem
    have hbound := bound_of_gathers h
    have htemplate : request.template = s.boundTemplate.getD p.resource.spec.template := by
      rw [hone]
      simp [Pass.request, hbound]
    exact ⟨htemplate, by rw [hsequel.bound, hbound, htemplate]⟩

theorem asksFor_of_goes {before : Standing} (h : p.Goes before log r s')
    (hmem : request ∈ machineRequests log) : p.AsksFor before.status s'.status request := by
  cases h with
  | refused => cases hmem
  | ready => cases hmem
  | initialized _ hrest =>
    have hplaces : ∀ e ∈ log, e.1.provisions = false := fun e he =>
      Call.provisions_of_place (Nat.le_of_succ_le ((sequel_of_completes hrest).place e he))
    rw [machineRequests_eq_nil hplaces] at hmem
    cases hmem
  | fresh _ _ hrest => exact asksFor_of_provisions hrest hmem

end Pass

/-! ### The requests of a history -/

namespace Turn

variable {t : Turn} {ns : String} {after : Option Status} {request : MachineSetRequest}

/-- What a turn asks for. -/
def requests (t : Turn) : List MachineSetRequest := machineRequests (Effects.calls t.log)

/-- A turn asks for machines of the template that was stored as bound, or else of that of its
spec. -/
theorem template_of_request (hns : t.resource.metadata.ns = some ns) (h : request ∈ t.requests) :
    request.template = t.resource.acceptedTemplate.getD t.resource.spec.template := by
  have hcalls : Effects.calls t.log ≠ [] := by
    intro hnil
    rw [requests, hnil] at h
    exact List.not_mem_nil h
  obtain ⟨⟨r, s'⟩, hwalk⟩ := Controller.exists_walk_of_calls hns t.runs hcalls
  obtain ⟨htemplate, -⟩ := Pass.asksFor_of_goes (Pass.goes_walk _ r s' hwalk) h
  rw [htemplate, Controller.standingAt, Status.boundTemplate_getD]
  rfl

/-- What a turn writes has the template bound of which it has asked for machines. -/
theorem bound_of_request {w : Write} (hns : t.resource.metadata.ns = some ns)
    (h : request ∈ t.requests) (hw : w ∈ Effects.writes t.log) :
    w.status.boundTemplate = some request.template := by
  obtain ⟨-, -, -, -, ⟨r, s'⟩, hwalk, hstatus⟩ := Controller.of_mem_writes hns t.runs hw
  obtain ⟨-, hbound⟩ := Pass.asksFor_of_goes (Pass.goes_walk _ r s' hwalk) h
  rw [hstatus, Pass.boundTemplate_outcome]
  exact hbound

/-- A turn asks for machines although no bound template was stored before it. -/
def AsksUnbound (t : Turn) : Prop := t.resource.acceptedTemplate = none ∧ t.requests ≠ []

/-- What such a turn stores has the template of its spec bound. -/
theorem bound_of_asksUnbound {w : Write} (hns : t.resource.metadata.ns = some ns)
    (h : t.AsksUnbound) (hw : w ∈ Effects.writes t.log) :
    w.status.boundTemplate = some t.resource.spec.template := by
  obtain ⟨hunbound, hasks⟩ := h
  obtain ⟨request, hmem⟩ := List.exists_mem_of_ne_nil _ hasks
  rw [bound_of_request hns hmem hw, template_of_request hns hmem, hunbound, Option.getD_none]

end Turn

/-- All machines that the turns ask for are of one template, which is the one that is bound in
every stored status with a bound template. -/
structure OneTemplate (turns : List Turn) (last : Option Status) (template : MachineTemplate) :
    Prop where
  requested : ∀ t ∈ turns, ∀ request ∈ t.requests, request.template = template
  handed : ∀ t ∈ turns, ∀ b, t.resource.acceptedTemplate = some b → b = template
  stored : ∀ b, last.bind (·.boundTemplate) = some b → b = template

theorem OneTemplate.eq_of_requests {turns : List Turn} {last : Option Status}
    {template asked : MachineTemplate} {t : Turn} (h : OneTemplate turns last template)
    (ht : t ∈ turns) (hasks : t.requests.map (·.template) = [asked]) : asked = template := by
  obtain ⟨request, hrequests, rfl⟩ := List.map_eq_singleton_iff.mp hasks
  exact h.requested t ht request (by simp [hrequests])

namespace History

variable {ns name : String} {before last : Option Status} {turns : List Turn}

/-- A template that was stored as bound stays bound to the end. -/
theorem stays_bound (h : History ns name before turns last) :
    ∀ t ∈ turns, ∀ b, t.resource.acceptedTemplate = some b →
      last.bind (·.boundTemplate) = some b := by
  induction h with
  | start => simp
  | @turn _ stored after t _ hns _ hstored hafter ih =>
    have hkeeps : ∀ b, t.resource.acceptedTemplate = some b →
        after.bind (·.boundTemplate) = some b := by
      intro b hb
      rw [Resource.acceptedTemplate, ← Status.boundTemplate_getD] at hb
      rw [← Status.boundTemplate_getD]
      exact Turn.boundTemplate_of_leaves hns hb hafter
    refine List.forall_mem_append.mpr ⟨fun t' ht' b hb => hkeeps b ?_, ?_⟩
    · rw [Resource.acceptedTemplate, hstored]
      exact ih t' ht' b hb
    · rintro t' ht' b hb
      rw [List.mem_singleton.mp ht'] at hb
      exact hkeeps b hb

/-- If no write of a turn that asks unbound is lost, what it asked for stays bound. -/
theorem bound_of_written (h : History ns name before turns last)
    (hwritten : ∀ t ∈ turns, t.AsksUnbound →
      ∃ w ∈ Effects.writes t.log, w.reply.result = .ok ()) :
    ∀ t ∈ turns, t.AsksUnbound → last.bind (·.boundTemplate) = some t.resource.spec.template := by
  induction h with
  | start => simp
  | @turn turns stored after t _ hns _ hstored hafter ih =>
    obtain ⟨hearlier, hlast⟩ := List.forall_mem_append.mp hwritten
    refine List.forall_mem_append.mpr ⟨fun t' ht' hasks => ?_, ?_⟩
    · have hbound := ih hearlier t' ht' hasks
      rw [← hstored, ← Status.boundTemplate_getD] at hbound
      rw [← Status.boundTemplate_getD]
      exact Turn.boundTemplate_of_leaves hns hbound hafter
    · intro t' ht' hasks
      rw [List.mem_singleton.mp ht'] at hasks ⊢
      cases hafter with
      | kept hlost =>
        obtain ⟨w, hw, hok⟩ := hlast t List.mem_cons_self hasks
        exact absurd hok (hlost w hw)
      | stored hw f => exact Turn.bound_of_asksUnbound hns hasks hw

/-- Turns that have asked unbound for machines of one template, which is bound in the end if any
is, make all machines from one template. -/
theorem oneTemplate_of_unbound {template : MachineTemplate} (h : History ns name before turns last)
    (hstored : ∀ b, last.bind (·.boundTemplate) = some b → b = template)
    (hunbound : ∀ t ∈ turns, t.AsksUnbound → t.resource.spec.template = template) :
    OneTemplate turns last template where
  stored := hstored
  handed t ht b hb := hstored b (h.stays_bound t ht b hb)
  requested t ht request hmem := by
    obtain ⟨hns, -⟩ := h.exists_earlier t ht
    rw [Turn.template_of_request hns hmem]
    cases hb : t.resource.acceptedTemplate with
    | some b => exact hstored b (h.stays_bound t ht b hb)
    | none => exact hunbound t ht ⟨hb, List.ne_nil_of_mem hmem⟩

/-- **When all machines come from one template.**  Whatever edits of the spec there are between
the turns of a resource, whatever answers, and whatever writes are lost: a turn asks for machines
of the template that was stored as bound, or else of that of its spec, and a template that was
stored as bound stays.  So all machines of the turns come from one template, the one that is bound
wherever one is, if and only if the turns that asked before it was stored had it in their specs.
This is so if none of these turns loses its write. -/
theorem one_template_iff (h : History ns name before turns last) :
    (∀ t ∈ turns,
      (∀ request ∈ t.requests,
        request.template = t.resource.acceptedTemplate.getD t.resource.spec.template) ∧
      ∀ b, t.resource.acceptedTemplate = some b → last.bind (·.boundTemplate) = some b) ∧
    ((∃ template, OneTemplate turns last template) ↔
      ∃ template, (∀ b, last.bind (·.boundTemplate) = some b → b = template) ∧
        ∀ t ∈ turns, t.AsksUnbound → t.resource.spec.template = template) ∧
    ((∀ t ∈ turns, t.AsksUnbound → ∃ w ∈ Effects.writes t.log, w.reply.result = .ok ()) →
      ∃ template, OneTemplate turns last template) := by
  refine ⟨fun t ht => ⟨?_, h.stays_bound t ht⟩, ⟨?_, ?_⟩, fun hwritten => ?_⟩
  · obtain ⟨hns, -⟩ := h.exists_earlier t ht
    exact fun request => Turn.template_of_request hns
  · rintro ⟨template, hone⟩
    refine ⟨template, hone.stored, fun t ht hasks => ?_⟩
    obtain ⟨hns, -⟩ := h.exists_earlier t ht
    obtain ⟨hunbound, hne⟩ := hasks
    obtain ⟨request, hmem⟩ := List.exists_mem_of_ne_nil _ hne
    have htemplate := hone.requested t ht request hmem
    rw [Turn.template_of_request hns hmem, hunbound, Option.getD_none] at htemplate
    exact htemplate
  · rintro ⟨template, hstored, hunbound⟩
    exact ⟨template, h.oneTemplate_of_unbound hstored hunbound⟩
  · have hbound := h.bound_of_written hwritten
    cases hlast : last.bind (·.boundTemplate) with
    | some b =>
      refine ⟨b, h.oneTemplate_of_unbound (by simp [hlast]) fun t ht hasks => ?_⟩
      have hb := hbound t ht hasks
      rw [hlast] at hb
      exact (Option.some.inj hb).symm
    | none =>
      refine ⟨default, h.oneTemplate_of_unbound (by simp [hlast]) fun t ht hasks => ?_⟩
      have hb := hbound t ht hasks
      rw [hlast] at hb
      cases hb

end History

/-! ### An edit after a write that was lost -/

/-- Collaborators that refuse to write a status. -/
def Demo.refusingWorld : InMemory.World := { world with writerFails := true }

/-- The example resource with another template in its spec. -/
def Demo.edited : Resource :=
  let resource := resource none
  let other := { template.infrastructure with name := "other-cp" }
  { resource with spec := { resource.spec with
      template := { template with infrastructure := other } } }

namespace History

/-- A turn of the edited resource. -/
def editedTurn : Turn where
  controller := .start .standard
  resource := Demo.edited
  start := ⟨0, 0⟩
  log := ((Controller.start .standard).reconcile Demo.edited ⟨0, 0⟩).trace InMemory.World.answer
    Demo.world
  result := (((Controller.start .standard).reconcile Demo.edited ⟨0, 0⟩).run InMemory.World.answer
    Demo.world).1
  runs := Program.runs_trace _ _ _

/-- A turn whose write is refused leaves what it was handed. -/
theorem refused_leaves : (demoTurn none Demo.refusingWorld).Leaves none := by
  have hrefused : (Effects.writes (Demo.effects none Demo.refusingWorld)).all
      (fun w => !w.reply.result.isOk) = true := by decide +kernel
  refine .kept fun w hw hok => ?_
  have hnot := List.all_eq_true.mp hrefused w hw
  rw [hok] at hnot
  cases hnot

theorem requests_refused :
    (demoTurn none Demo.refusingWorld).requests.map (·.template) = [Demo.template] := by
  decide +kernel

/-- The first turn asks for machines of one template and loses its write.  Then the template is
edited, and the second turn asks for machines of the other one and binds that. -/
theorem templates_differ : ∃ last,
    History "clusters" "demo" none [demoTurn none Demo.refusingWorld, editedTurn] (some last) ∧
      last.boundTemplate = some Demo.edited.spec.template ∧
      ¬∃ template, OneTemplate [demoTurn none Demo.refusingWorld, editedTurn] (some last)
        template := by
  have hrequests : editedTurn.requests.map (·.template) = [Demo.edited.spec.template] := by
    decide +kernel
  have hbinds : (Effects.writes editedTurn.log).head?.map (·.status.boundTemplate) =
      some (some Demo.edited.spec.template) := by decide +kernel
  obtain ⟨w, hw, hbound⟩ := Option.map_eq_some_iff.mp hbinds
  have hlast : editedTurn.Leaves (some (w.status.withTimes id)) :=
    .stored (List.mem_of_mem_head? hw) id
  refine ⟨_, .turn (.turn .start rfl rfl rfl refused_leaves) rfl rfl rfl hlast, hbound, ?_⟩
  rintro ⟨template, hone⟩
  have hfirst : Demo.template = template := hone.eq_of_requests List.mem_cons_self requests_refused
  have hsecond : Demo.edited.spec.template = template :=
    hone.eq_of_requests (List.mem_cons_of_mem _ List.mem_cons_self) hrequests
  exact absurd (hfirst.trans hsecond.symm) (by decide)

/-- The same two turns without the edit in between. -/
theorem one_template_iff_unedited : ∃ last,
    History "clusters" "demo" none [demoTurn none Demo.refusingWorld, demoTurn none Demo.world]
        (some last) ∧
      OneTemplate [demoTurn none Demo.refusingWorld, demoTurn none Demo.world] (some last)
        Demo.template := by
  have hbinds : (Demo.written none Demo.world).map (·.boundTemplate) =
      some (some Demo.template) := by decide +kernel
  obtain ⟨s, hs, hbound⟩ := Option.map_eq_some_iff.mp hbinds
  have hrun : History "clusters" "demo" none
      [demoTurn none Demo.refusingWorld, demoTurn none Demo.world] (some (s.withTimes id)) :=
    .turn (.turn .start rfl rfl rfl refused_leaves) rfl rfl rfl (demoTurn_leaves hs)
  have hstored : ∀ b, (some (s.withTimes id)).bind (·.boundTemplate) = some b →
      b = Demo.template := by
    intro b hb
    exact (Option.some.inj (hbound.symm.trans hb)).symm
  have hunbound : ∀ t ∈ [demoTurn none Demo.refusingWorld, demoTurn none Demo.world],
      t.AsksUnbound → t.resource.spec.template = Demo.template := by
    simp [demoTurn, Demo.resource]
  obtain ⟨template, hone⟩ := (one_template_iff hrun).2.1.mpr ⟨Demo.template, hstored, hunbound⟩
  have htemplate : Demo.template = template :=
    hone.eq_of_requests List.mem_cons_self requests_refused
  exact ⟨_, hrun, htemplate ▸ hone⟩

end History

end ControlPlane
