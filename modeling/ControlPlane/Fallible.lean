/-
What may fail or break off.

A step that may fail ends with a value or with an error, and whoever asked for it goes on from
there.  Or it breaks off.  Then there is no end to go on from, and whatever waits for it breaks
off as well.
-/

namespace ControlPlane

/-- What comes of a step that may fail or break off. -/
inductive Fallible (ε α : Type) where
  | ok (a : α)
  | error (e : ε)
  /-- It breaks off. -/
  | abort
deriving DecidableEq, Repr

namespace Fallible

variable {ε α β : Type}

/-- One step after another, as long as there is a value to go on from. -/
protected def bind : Fallible ε α → (α → Fallible ε β) → Fallible ε β
  | .ok a, f => f a
  | .error e, _ => .error e
  | .abort, _ => .abort

instance : Monad (Fallible ε) where
  pure := .ok
  bind := Fallible.bind

/-- What ends with a value or an error never breaks off. -/
instance : MonadLift (Except ε) (Fallible ε) where
  monadLift
    | .ok a => .ok a
    | .error e => .error e

@[simp] theorem ok_bind (a : α) (f : α → Fallible ε β) : (ok a >>= f) = f a := rfl

@[simp] theorem error_bind (e : ε) (f : α → Fallible ε β) : (error e >>= f) = error e := rfl

@[simp] theorem abort_bind (f : α → Fallible ε β) : (abort >>= f) = abort := rfl

@[simp] theorem lift_ok (a : α) : (liftM (Except.ok a : Except ε α) : Fallible ε α) = ok a := rfl

@[simp] theorem lift_error (e : ε) :
    (liftM (Except.error e : Except ε α) : Fallible ε α) = error e := rfl

end Fallible

end ControlPlane
