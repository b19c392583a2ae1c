/-
Programs that ask questions.

A program is done, or it asks a question and goes on with the answer.  What answers is
left open: a stand-in kept in memory, a scripted API, or any answers whatever.  So the
steps of a program can be spoken of apart from the world they act on.

`run` plays a program against a world that answers and changes, and `trace` is what is
said meanwhile.  `Runs` holds of the questions and answers of a program and of its
result, for some answers.
-/

namespace ControlPlane

inductive Program (Q : Type) (A : Q → Type) (α : Type) where
  | done (a : α)
  | ask (q : Q) (next : A q → Program Q A α)

namespace Program

variable {Q : Type} {A : Q → Type} {α β : Type}

/-- One program after another. -/
def bind : Program Q A α → (α → Program Q A β) → Program Q A β
  | .done a, f => f a
  | .ask q next, f => .ask q fun a => (next a).bind f

instance : Monad (Program Q A) where
  pure := .done
  bind := bind

/-- The program comes to its result without a question. -/
def isDone : Program Q A α → Bool
  | .done _ => true
  | .ask .. => false

/-- Plays a program against a world. -/
def run {σ : Type} (answer : (q : Q) → σ → A q × σ) : Program Q A α → σ → α × σ
  | .done a, s => (a, s)
  | .ask q next, s =>
    let (a, s) := answer q s
    (next a).run answer s

/-- A question and its answer. -/
abbrev Exchange (Q : Type) (A : Q → Type) : Type := (q : Q) × A q

/-- A program comes to a result by these exchanges. -/
inductive Runs : Program Q A α → List (Exchange Q A) → α → Prop where
  | done (a : α) : Runs (.done a) [] a
  | ask {q : Q} {next : A q → Program Q A α} {a : A q} {log : List (Exchange Q A)} {r : α}
      (rest : Runs (next a) log r) : Runs (.ask q next) (⟨q, a⟩ :: log) r

@[simp] theorem pure_eq (a : α) : (pure a : Program Q A α) = .done a := rfl

@[simp] theorem bind_eq (p : Program Q A α) (f : α → Program Q A β) : p >>= f = p.bind f := rfl

@[simp] theorem done_bind (a : α) (f : α → Program Q A β) : (done a).bind f = f a := rfl

@[simp] theorem ask_bind (q : Q) (next : A q → Program Q A α) (f : α → Program Q A β) :
    (ask q next).bind f = .ask q fun a => (next a).bind f := rfl

/-- A sequence runs by the runs of its parts, one after the other. -/
theorem run_bind {σ : Type} (answer : (q : Q) → σ → A q × σ) (p : Program Q A α)
    (f : α → Program Q A β) (s : σ) :
    (p.bind f).run answer s =
      (f (p.run answer s).1).run answer (p.run answer s).2 := by
  induction p generalizing s with
  | done a => rfl
  | ask q next ih => simp [run, ih]

theorem runs_bind_iff {p : Program Q A α} {f : α → Program Q A β} {log : List (Exchange Q A)}
    {r : β} : Runs (p.bind f) log r ↔
      ∃ first a second, log = first ++ second ∧ Runs p first a ∧ Runs (f a) second r := by
  constructor
  · intro h
    induction p generalizing log with
    | done a => exact ⟨[], a, log, rfl, .done a, h⟩
    | ask q next ih =>
      cases h with
      | ask rest =>
        obtain ⟨first, a, second, rfl, hp, hf⟩ := ih _ rest
        exact ⟨_ :: first, a, second, rfl, .ask hp, hf⟩
  · rintro ⟨first, a, second, rfl, hp, hf⟩
    induction hp with
    | done a => exact hf
    | ask rest ih => exact .ask (ih hf)

/-- Without an exchange a program only is what it comes to. -/
theorem runs_nil_iff {p : Program Q A α} {r : α} : Runs p [] r ↔ p = .done r := by
  constructor
  · intro h
    cases h
    rfl
  · rintro rfl
    exact .done r

/-- The exchanges decide the result. -/
theorem runs_unique {p : Program Q A α} {log : List (Exchange Q A)} {a b : α}
    (ha : Runs p log a) (hb : Runs p log b) : a = b := by
  induction ha with
  | done a =>
    cases hb
    rfl
  | ask rest ih =>
    cases hb with
    | ask rest' => exact ih rest'

/-- The questions that a program asks a world, with the answers it gets. -/
def trace {σ : Type} (answer : (q : Q) → σ → A q × σ) : Program Q A α → σ → List (Exchange Q A)
  | .done _, _ => []
  | .ask q next, s => ⟨q, (answer q s).1⟩ :: (next (answer q s).1).trace answer (answer q s).2

/-- What a program does in a world is one of its runs. -/
theorem runs_trace {σ : Type} (answer : (q : Q) → σ → A q × σ) (p : Program Q A α) (s : σ) :
    Runs p (p.trace answer s) (p.run answer s).1 := by
  induction p generalizing s with
  | done a => exact .done a
  | ask q next ih => exact .ask (ih _ _)

end Program

end ControlPlane
