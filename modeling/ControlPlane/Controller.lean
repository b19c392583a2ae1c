/-
The controller: it reconciles one resource at a time.

A reconciliation runs a pass, settles what the pass has to say, commits the status if it
differs from the stored one, and decides when to look at the resource again.  A pass that
would break a latch is discarded: the violation is reported over the stored status
instead, and not even that is written when the stored status is broken itself.  A pass that
breaks off takes the reconciliation with it, which has been counted by then.

Between two reconciliations the controller remembers the retries of every resource and
its metrics.
-/
import ControlPlane.Backoff
import ControlPlane.Metrics
import ControlPlane.Pass

namespace ControlPlane

/-- What a reconciliation does outside: it calls collaborators within a budget, and it
commits a status. -/
inductive Effect where
  | call (c : Call) (budget : Duration)
  | writeStatus (ns name : String) (status : Status)

/-- The end of a write, and the moment of it. -/
structure WriteReply where
  result : Except ControllerError Unit
  arrival : Time

/-- What an effect is answered with. -/
abbrev Effect.Reply : Effect → Type
  | .call c _ => c.Reply
  | .writeStatus .. => WriteReply

/-- When a resource is looked at again. -/
inductive Action where
  | awaitChange
  | requeue (after : Duration)
deriving DecidableEq, Repr

structure Controller where
  config : Config
  backoff : BackoffTracker
  metrics : Metrics

namespace Controller

def start (config : Config) : Controller := ⟨config, .empty, .empty⟩

/-- The key of a resource among all resources. -/
def keyOf (r : Resource) : String := r.metadata.ns.getD "" ++ "/" ++ r.name

/-! ### Settling a pass -/

/-- What a reconciliation has come to before its write. -/
structure Verdict where
  status : Status
  requeue : Requeue
  error : Option ControllerError
  /-- The status may be written. -/
  writable : Bool

/-- Judges the outcome of a pass against the stored status. -/
def settle (r : Resource) (o : PassOutcome) : Verdict :=
  match Status.checkTransition r.status o.status with
  | .ok () => ⟨o.status, o.requeue, o.error, true⟩
  | .error violation =>
    let error := ControllerError.invariantViolation violation
    let status := (r.status.getD .blank).reportError none error r.generation o.finish
    ⟨status, .awaitChange, some error, (Status.checkTransition r.status status).isOk⟩

/-- The status that has to be committed, if any. -/
def Verdict.write? (v : Verdict) (stored : Option Status) : Option Status :=
  if v.writable && stored ≠ some v.status then some v.status else none

/-! ### What comes after -/

/-- Counts a reconciliation. -/
def measure (c : Controller) (r : Resource) (start finish : Time) : Controller :=
  { c with metrics :=
      c.metrics.countReconciliation (Phase.observe r.status).text (finish.since start) }

/-- Counts the error of a pass; a pass without one ends the retries of its resource. -/
def note (c : Controller) (key : String) : Option ControllerError → Controller
  | some e => { c with metrics := c.metrics.countFailure e }
  | none => { c with backoff := c.backoff.reset key }

/-- When the resource is looked at again. -/
def actionFor (c : Controller) (key : String) : Requeue → Action × Controller
  | .awaitChange => (.awaitChange, c)
  | .poll => (.requeue c.config.signalPollInterval, c)
  | .backoff =>
    let (delay, backoff) := c.backoff.next key
    (.requeue delay, { c with backoff })

/-- What a reconciliation returns; nothing if it breaks off. -/
abbrev Returned : Type := Option (Except ControllerError Action)

/-- The end of a reconciliation whose write, if any, has succeeded. -/
def conclude (c : Controller) (r : Resource) (v : Verdict) (start finish : Time) :
    Returned × Controller :=
  let (action, c) := ((c.measure r start finish).note (keyOf r) v.error).actionFor (keyOf r) v.requeue
  (some (.ok action), c)

/-- The pass of a reconciliation, with the budget of each call. -/
def passWithin (config : Config) (p : Program Call Call.Reply α) :
    Program Effect Effect.Reply α :=
  match p with
  | .done a => .done a
  | .ask c next => .ask (.call c (c.budget config)) fun reply => passWithin config (next reply)

/-- Reconciles a resource.  Errors of the pass are in its status; what is returned as an
error is a resource without a namespace or a write that failed.  Nothing is returned, and
nothing written, if the pass breaks off.  It does so before its first call, so no time has
passed then. -/
def reconcile (c : Controller) (r : Resource) (start : Time) :
    Program Effect Effect.Reply (Returned × Controller) :=
  match r.metadata.ns with
  | none =>
    .done (some (.error (.watch ("OpenShiftControlPlane " ++ r.name ++ " has no namespace"))), c)
  | some ns =>
    (passWithin c.config (Pass.run ⟨c.config, r, ns⟩ start)).bind fun
      | none => .done (none, c.measure r start start)
      | some o =>
        let v := settle r o
        match v.write? r.status with
        | none => .done (c.conclude r v start o.finish)
        | some status =>
          .ask (.writeStatus ns r.name status) fun reply =>
            match reply.result with
            | .ok () => .done (c.conclude r v start reply.arrival)
            | .error e => .done (some (.error e), c.measure r start reply.arrival)

/-- What follows a reconciliation that returned an error. -/
def retry (c : Controller) (r : Resource) (e : ControllerError) : Action × Controller :=
  let (delay, backoff) := c.backoff.next (keyOf r)
  (.requeue delay, { c with backoff, metrics := c.metrics.countFailure e })

end Controller

end ControlPlane
