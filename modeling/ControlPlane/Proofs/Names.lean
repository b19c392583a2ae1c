/-
Names that are put together from others.

A name is read back out of a text by a separator that one side of it lacks.  The key of a
resource has its namespace before the first slash.  The name of a machine has its purpose or
its number behind the last hyphen, and a number is no purpose; so two clusters share no
machine, not even if one of them is called like a machine of the other.
-/
import ControlPlane.Machine
import ControlPlane.ObjectKey

namespace ControlPlane

section Separators

variable {α : Type} {sep : α} {a b x y : List α}

/-- A separator ends what lacks it, so what is put together with it comes from no others. -/
theorem append_sep_inj (ha : sep ∉ a) (hb : sep ∉ b) (h : a ++ sep :: x = b ++ sep :: y) :
    a = b ∧ x = y := by
  induction a generalizing b with
  | nil =>
    cases b with
    | nil => exact ⟨rfl, (List.cons.inj h).2⟩
    | cons c b => exact absurd ((List.cons.inj h).1 ▸ List.mem_cons_self) hb
  | cons c a ih =>
    cases b with
    | nil => exact absurd ((List.cons.inj h).1 ▸ List.mem_cons_self) ha
    | cons c' b =>
      obtain ⟨rfl, htail⟩ := List.cons.inj h
      obtain ⟨rfl, hrest⟩ := ih (fun hmem => ha (List.mem_cons_of_mem _ hmem))
        (fun hmem => hb (List.mem_cons_of_mem _ hmem)) htail
      exact ⟨rfl, hrest⟩

/-- The same from the other end. -/
theorem append_last_sep_inj (hx : sep ∉ x) (hy : sep ∉ y) (h : a ++ sep :: x = b ++ sep :: y) :
    a = b ∧ x = y := by
  have hreversed : x.reverse ++ sep :: a.reverse = y.reverse ++ sep :: b.reverse := by
    simpa using congrArg List.reverse h
  obtain ⟨hxy, hab⟩ := append_sep_inj (fun hmem => hx (List.mem_reverse.mp hmem))
    (fun hmem => hy (List.mem_reverse.mp hmem)) hreversed
  exact ⟨List.reverse_inj.mp hab, List.reverse_inj.mp hxy⟩

end Separators

/-! ### Keys -/

namespace ObjectKey

/-- The text that stands for a key. -/
def text (k : ObjectKey) : String := k.ns ++ "/" ++ k.name

/-- No text of another key can be taken for the text of this one. -/
abbrev Plain (k : ObjectKey) : Prop := '/' ∉ k.ns.toList

variable {k k' : ObjectKey}

theorem toList_text : k.text.toList = k.ns.toList ++ '/' :: k.name.toList := by
  simp [text]

theorem text_inj (hk : k.Plain) (hk' : k'.Plain) (h : k.text = k'.text) : k = k' := by
  have hchars := congrArg String.toList h
  rw [toList_text, toList_text] at hchars
  obtain ⟨hns, hname⟩ := append_sep_inj hk hk' hchars
  cases k
  cases k'
  rw [mk.injEq]
  exact ⟨String.toList_inj.mp hns, String.toList_inj.mp hname⟩

end ObjectKey

/-! ### Machines -/

namespace Cluster

variable {a b : String} {i j : Nat}

theorem toDigits_inj (h : Nat.toDigits 10 i = Nat.toDigits 10 j) : i = j := by
  have hread := congrArg (Nat.ofDigitChars 10 · 0) h
  rwa [Nat.ofDigitChars_toDigits (by decide) (by decide),
    Nat.ofDigitChars_toDigits (by decide) (by decide)] at hread

theorem hyphen_not_mem_toDigits : '-' ∉ Nat.toDigits 10 i := fun hmem =>
  absurd (Nat.isDigit_of_mem_toDigits (by decide) (by decide) hmem) (by decide)

theorem toList_bootstrapMachine :
    (bootstrapMachine a).toList = a.toList ++ '-' :: "bootstrap".toList := by
  simp [bootstrapMachine]

theorem toList_controlPlaneMachine : (controlPlaneMachine a i).toList =
    (a.toList ++ "-master".toList) ++ '-' :: Nat.toDigits 10 i := by
  simp [controlPlaneMachine]

theorem bootstrapMachine_inj (h : bootstrapMachine a = bootstrapMachine b) : a = b := by
  have hchars := congrArg String.toList h
  rw [toList_bootstrapMachine, toList_bootstrapMachine] at hchars
  exact String.toList_inj.mp (append_last_sep_inj (by decide) (by decide) hchars).1

theorem controlPlaneMachine_inj (h : controlPlaneMachine a i = controlPlaneMachine b j) :
    a = b ∧ i = j := by
  have hchars := congrArg String.toList h
  rw [toList_controlPlaneMachine, toList_controlPlaneMachine] at hchars
  obtain ⟨hcluster, hindex⟩ :=
    append_last_sep_inj hyphen_not_mem_toDigits hyphen_not_mem_toDigits hchars
  exact ⟨String.toList_inj.mp (List.append_cancel_right hcluster), toDigits_inj hindex⟩

/-- A machine that is numbered does not bootstrap. -/
theorem bootstrapMachine_ne_controlPlaneMachine :
    bootstrapMachine a ≠ controlPlaneMachine b j := by
  intro h
  have hchars := congrArg String.toList h
  rw [toList_bootstrapMachine, toList_controlPlaneMachine] at hchars
  have hindex := (append_last_sep_inj (by decide) hyphen_not_mem_toDigits hchars).2
  have hmem : 'b' ∈ Nat.toDigits 10 j := hindex ▸ List.mem_cons_self
  exact absurd (Nat.isDigit_of_mem_toDigits (by decide) (by decide) hmem) (by decide)

/-- A machine's name tells its cluster. -/
theorem eq_of_machine {x : String}
    (h : x = bootstrapMachine a ∨ ∃ i, x = controlPlaneMachine a i)
    (h' : x = bootstrapMachine b ∨ ∃ i, x = controlPlaneMachine b i) : a = b := by
  rcases h with hb | ⟨i, hm⟩
  · rcases h' with hb' | ⟨j, hm'⟩
    · exact bootstrapMachine_inj (hb.symm.trans hb')
    · exact absurd (hb.symm.trans hm') bootstrapMachine_ne_controlPlaneMachine
  · rcases h' with hb' | ⟨j, hm'⟩
    · exact absurd (hb'.symm.trans hm) bootstrapMachine_ne_controlPlaneMachine
    · exact (controlPlaneMachine_inj (hm.symm.trans hm')).1

end Cluster

/-! ### The machines of a request -/

namespace MachineSetRequest

variable {r s : MachineSetRequest} {name : String}

/-- The names of the machines of a request, in their order. -/
def names (r : MachineSetRequest) : List String := r.machines.map Prod.snd

theorem names_eq (r : MachineSetRequest) : r.names = Cluster.bootstrapMachine r.cluster ::
    (List.range r.replicas).map (Cluster.controlPlaneMachine r.cluster) := by
  unfold names machines
  rw [List.map_cons, List.map_map]
  rfl

/-- A machine of a request bootstraps its cluster, or is numbered. -/
theorem eq_of_mem_machines {machine : MachineRole × String} (h : machine ∈ r.machines) :
    machine = (.bootstrap, Cluster.bootstrapMachine r.cluster) ∨
      ∃ i, machine = (.master, Cluster.controlPlaneMachine r.cluster i) := by
  rcases List.mem_cons.mp h with hbootstrap | hmaster
  · exact .inl hbootstrap
  · obtain ⟨i, -, hi⟩ := List.mem_map.mp hmaster
    exact .inr ⟨i, hi.symm⟩

theorem machine_of_mem_names (h : name ∈ r.names) :
    name = Cluster.bootstrapMachine r.cluster ∨
      ∃ i, name = Cluster.controlPlaneMachine r.cluster i := by
  obtain ⟨machine, hmachine, rfl⟩ := List.mem_map.mp h
  rcases eq_of_mem_machines hmachine with rfl | ⟨i, rfl⟩
  · exact .inl rfl
  · exact .inr ⟨i, rfl⟩

/-- A machine is a master of a cluster if and only if it is called like one. -/
theorem isMaster_iff {machine : MachineRole × String} {cluster : String} (h : machine ∈ r.machines) :
    r.cluster = cluster ∧ machine.1 = .master ↔
      ∃ i, machine.2 = Cluster.controlPlaneMachine cluster i := by
  constructor
  · rintro ⟨rfl, hrole⟩
    rcases eq_of_mem_machines h with rfl | ⟨i, rfl⟩
    · cases hrole
    · exact ⟨i, rfl⟩
  · rintro ⟨i, hname⟩
    rcases eq_of_mem_machines h with rfl | ⟨j, rfl⟩
    · exact absurd hname Cluster.bootstrapMachine_ne_controlPlaneMachine
    · exact ⟨(Cluster.controlPlaneMachine_inj hname).1, rfl⟩

theorem nodup_names (r : MachineSetRequest) : r.names.Nodup := by
  rw [names_eq]
  refine List.nodup_cons.mpr ⟨fun hmem => ?_, ?_⟩
  · obtain ⟨i, -, hi⟩ := List.mem_map.mp hmem
    exact Cluster.bootstrapMachine_ne_controlPlaneMachine hi.symm
  · refine List.pairwise_map.mpr (List.nodup_range.imp fun hne heq => ?_)
    exact hne (Cluster.controlPlaneMachine_inj heq).2

/-- A machine of two requests is a machine of one cluster. -/
theorem cluster_eq_of_mem_names (hr : name ∈ r.names) (hs : name ∈ s.names) :
    r.cluster = s.cluster :=
  Cluster.eq_of_machine (machine_of_mem_names hr) (machine_of_mem_names hs)

/-- **Machine names never collide.**  A request has the bootstrap machine and then as many
machines as it asks for, numbered from zero, and no two of them are called the same.  Two
requests share a name if and only if they are about one cluster, whatever their clusters are
called and however many machines they ask for. -/
theorem names_never_collide (r s : MachineSetRequest) :
    r.machines.length = 1 + r.replicas ∧
      r.machines.head? = some (.bootstrap, Cluster.bootstrapMachine r.cluster) ∧
      (∀ i, r.machines[i + 1]? =
        if i < r.replicas then some (.master, Cluster.controlPlaneMachine r.cluster i) else none) ∧
      r.names.Nodup ∧ ((∃ name, name ∈ r.names ∧ name ∈ s.names) ↔ r.cluster = s.cluster) := by
  refine ⟨?_, rfl, fun i => ?_, nodup_names r, ?_, fun hcluster => ?_⟩
  · rw [machines, List.length_cons, List.length_map, List.length_range, Nat.add_comm]
  · rw [machines, List.getElem?_cons_succ, List.getElem?_map]
    split
    · rename_i hi
      rw [List.getElem?_range hi]
      rfl
    · rename_i hi
      rw [List.getElem?_eq_none (by rw [List.length_range]; omega)]
      rfl
  · rintro ⟨name, hr, hs⟩
    exact cluster_eq_of_mem_names hr hs
  · refine ⟨Cluster.bootstrapMachine r.cluster, ?_, ?_⟩
    · rw [names_eq]
      exact List.mem_cons_self
    · rw [names_eq, hcluster]
      exact List.mem_cons_self

/-- A cluster that is called like the bootstrap machine of another one has machines of its own. -/
example : (⟨"ns", "a-bootstrap", default, 1, ""⟩ : MachineSetRequest).names =
    ["a-bootstrap-bootstrap", "a-bootstrap-master-0"] := by decide +kernel

end MachineSetRequest

end ControlPlane
