/-
A scripted cluster API, to play the clients against.

A reply may be set for a method and a path, and is then always given.  Otherwise the API
keeps the objects that are applied to it and gives them back, finds nothing when it is
asked for all secrets or machines, takes every status, and knows of nothing else.
-/
import ControlPlane.Json.Compact
import ControlPlane.Kubernetes.Collaborators

namespace ControlPlane.Kubernetes

open Json

structure Scripted where
  /-- The replies that are set, by method and path. -/
  replies : Table String Reply
  /-- The objects that were applied, by path. -/
  objects : Table String Json
  /-- The requests so far, the last one first. -/
  log : List Request
  /-- The number of statuses taken. -/
  statuses : Nat
  now : Time

namespace Scripted

def start (now : Time) : Scripted := ⟨.empty, .empty, [], 0, now⟩

/-- A reply of a value. -/
def ok (j : Json) : Reply := ⟨200, j.render⟩

def notFound : Reply where
  code := 404
  body := (objectOf [field "apiVersion" (.str "v1"), field "code" (.int 404),
    field "kind" (.str "Status"), field "message" (.str "not found"),
    field "reason" (.str "NotFound"), field "status" (.str "Failure")]).render

def emptyList : Reply := ok <|
  objectOf [field "apiVersion" (.str "v1"), field "items" (.arr []), field "kind" (.str "List"),
    field "metadata" (.obj [])]

/-- The resource that every stored status is answered with. -/
def someResource : Reply :=
  ok (Resource.encode ⟨{}, ⟨.blank, ⟨"secret"⟩, none⟩, none⟩)

def deleted : Reply := ok <|
  objectOf [field "apiVersion" (.str "v1"), field "kind" (.str "Status"),
    field "status" (.str "Success")]

/-- The key of a reply that is set. -/
def keyOf (r : Request) : String := r.method.text ++ " " ++ r.path

/-- The path ends in a text. -/
def endsIn (path ending : String) : Bool := ending.toList.reverse.isPrefixOf path.toList.reverse

/-- The reply to a request for which none is set. -/
def byItself (api : Scripted) (r : Request) : Reply × Scripted :=
  match r.method with
  | .patch =>
    if endsIn r.path "/status" then (someResource, { api with statuses := api.statuses + 1 })
    else
      let object := r.body.getD .null
      (ok object, { api with objects := api.objects.insert r.path object })
  | .delete => (deleted, { api with objects := api.objects.erase r.path })
  | .get =>
    if endsIn r.path "/secrets" || endsIn r.path "/machines" then (emptyList, api)
    else
      match api.objects.get? r.path with
      | some object => (ok object, api)
      | none => (notFound, api)

/-- Replies to a request. -/
def reply (r : Request) (api : Scripted) : Reply × Scripted :=
  let api := { api with log := r :: api.log }
  match api.replies.get? (keyOf r) with
  | some reply => (reply, api)
  | none => api.byItself r

/-- Runs requests against the API. -/
def runOn (p : Sending α) (api : Scripted) : α × Scripted := p.run reply api

/-- Carries out a call. -/
def call (c : Call) (api : Scripted) : Except ClientError c.Answer × Scripted :=
  runOn (perform c) api

/-- Carries out a call within a budget.  The API answers without delay, so any budget is
enough but none at all: that one runs out while the first request waits to be sent, and
the request is withdrawn. -/
def callWithin (c : Call) (budget : Duration) (api : Scripted) : Outcome c.Answer × Scripted :=
  if budget = .zero ∧ !(perform c).isDone then (.timedOut, api)
  else
    match api.call c with
    | (.ok a, api) => (.answered a, api)
    | (.error e, api) => (.failed e, api)

/-- Answers what a reconciliation asks for. -/
def answer : (e : Effect) → Scripted → e.Reply × Scripted
  | .call c budget, api =>
    let (outcome, api) := api.callWithin c budget
    (⟨outcome, api.now⟩, api)
  | .writeStatus ns name s, api =>
    let (result, api) := runOn (writeStatus ns name s) api
    (⟨result, api.now⟩, api)

end Scripted

end ControlPlane.Kubernetes
