/-
The server of probes and metrics.

It tells whether the process lives, whether the controller is ready, and what has been
counted.  Only reading is allowed; a request for the head of an answer gets the answer
without its body.
-/
import ControlPlane.Metrics

namespace ControlPlane.Probe

/-- What the server knows. -/
structure State where
  ready : Bool
  /-- The metrics that are published, if they have been registered. -/
  metrics : Option Metrics

namespace State

/-- The server before the controller runs. -/
def start : State := ⟨false, none⟩

def setReady (s : State) (ready : Bool) : State := { s with ready }

/-- Registers metrics, once. -/
def register (s : State) (m : Metrics) : Except MetricsError State :=
  match s.metrics with
  | some _ => .error .alreadyRegistered
  | none => .ok { s with metrics := some m }

/-- The state in a line for humans. -/
def summary (s : State) : String :=
  "ProbeState \x7b ready: " ++ (if s.ready then "true" else "false") ++ ", .. \x7d"

end State

structure Response where
  status : Nat
  contentType : Option String
  body : String
deriving DecidableEq, Repr

/-- An answer without a body. -/
def bare (status : Nat) : Response := ⟨status, none, ""⟩

def plain (status : Nat) (body : String) : Response :=
  ⟨status, some "text/plain; charset=utf-8", body⟩

/-- The answer to a request for one of the paths; other paths have none. -/
def State.get? (s : State) (path : String) : Option Response :=
  if path = "/healthz" then some (plain 200 "ok")
  else if path = "/readyz" then some (if s.ready then plain 200 "ready" else plain 503 "not ready")
  else if path = "/metrics" then
    some ⟨200, some "text/plain; version=0.0.4", (s.metrics.map Metrics.text).getD ""⟩
  else none

/-- A character of a scheme such as `http`. -/
def isSchemeCharacter (c : Char) : Bool :=
  c.isAlphanum || c = '+' || c = '-' || c = '.' || c = '~'

/-- The part of a target from its path on.  A target may name its scheme and its host first;
then a missing path is the root.  A host alone has no path. -/
def fromPath (target : List Char) : List Char :=
  match target with
  | '/' :: _ => target
  | _ =>
    match target.dropWhile isSchemeCharacter with
    | ':' :: '/' :: '/' :: rest =>
      match rest.dropWhile fun c => c ≠ '/' && c ≠ '?' && c ≠ '#' with
      | '/' :: rest => '/' :: rest
      | rest => '/' :: rest
    | _ => []

/-- The path of a target, which ends where a query starts. -/
def pathOf (target : String) : String :=
  String.ofList ((fromPath target.toList).takeWhile fun c => c ≠ '?' && c ≠ '#')

/-- Answers a request. -/
def State.respond (s : State) (method target : String) : Response :=
  match s.get? (pathOf target) with
  | none => bare 404
  | some r =>
    if method = "GET" then r
    else if method = "HEAD" then { r with body := "" }
    else bare 405

end ControlPlane.Probe
