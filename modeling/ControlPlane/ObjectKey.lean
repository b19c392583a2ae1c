/-
Keys of namespaced objects, ordered by namespace and then by name.
-/
import ControlPlane.Table

namespace ControlPlane

structure ObjectKey where
  ns : String
  name : String
deriving DecidableEq, Repr, Inhabited

namespace ObjectKey

instance : LT ObjectKey := ⟨fun a b => a.ns < b.ns ∨ (a.ns = b.ns ∧ a.name < b.name)⟩

instance : DecidableLT ObjectKey := fun a b =>
  inferInstanceAs (Decidable (a.ns < b.ns ∨ (a.ns = b.ns ∧ a.name < b.name)))

theorem lt_iff {a b : ObjectKey} : a < b ↔ a.ns < b.ns ∨ (a.ns = b.ns ∧ a.name < b.name) :=
  Iff.rfl

instance : KeyOrder ObjectKey where
  irrefl a h := by
    rcases lt_iff.1 h with h | ⟨_, h⟩
    · exact KeyOrder.irrefl a.ns h
    · exact KeyOrder.irrefl a.name h
  trans {a b c} h h' := by
    refine lt_iff.2 ?_
    rcases lt_iff.1 h with h | ⟨e, h⟩ <;> rcases lt_iff.1 h' with h' | ⟨e', h'⟩
    · exact .inl (KeyOrder.trans h h')
    · exact .inl (e' ▸ h)
    · exact .inl (e ▸ h')
    · exact .inr ⟨e.trans e', KeyOrder.trans h h'⟩
  connected {a b} h h' := by
    have spaces : a.ns = b.ns := KeyOrder.connected
      (fun l => h (lt_iff.2 (.inl l))) (fun l => h' (lt_iff.2 (.inl l)))
    have names : a.name = b.name := KeyOrder.connected
      (fun l => h (lt_iff.2 (.inr ⟨spaces, l⟩))) (fun l => h' (lt_iff.2 (.inr ⟨spaces.symm, l⟩)))
    cases a; cases b; cases spaces; cases names; rfl

end ObjectKey

/-- A set of keys. -/
abbrev KeySet := Table ObjectKey Unit

end ControlPlane
