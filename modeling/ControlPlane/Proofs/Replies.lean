/-
What is read of some replies.

A refusal is never read as a value, and the one that says an object does not exist is told
apart from the others.  The text of a value is read as the value, so what a reader makes of
such a reply is what it makes of the value.
-/
import ControlPlane.Kubernetes.Scripted
import ControlPlane.Proofs.JsonText

namespace ControlPlane.Kubernetes

open Json

/-- A refusal is never read as a value. -/
theorem read_ne_ok {α : Type} {decode : Source → Decoded α} {r : Reply} {a : α}
    (hcode : 400 ≤ r.code ∧ r.code < 600) : r.read decode ≠ .ok a := by
  unfold Reply.read
  rw [if_pos hcode]
  exact fun heq => by cases heq

/-- The text of a value is read without a detour over strings. -/
theorem read_ok {α : Type} {decode : Source → Decoded α} {j : Json} :
    (Scripted.ok j).read decode =
      match (Source.parse? j.compact).map decode with
      | some (.ok a) => .ok a
      | _ => .error .unreadable := by
  unfold Reply.read Scripted.ok Json.render
  dsimp only
  rw [if_neg (by omega), String.toList_ofList]
  rfl

/-- A reply that an object does not exist. -/
def absent : Reply where
  code := 404
  body := (objectOf [field "code" (.int 404), field "reason" (.str "NotFound"),
    field "status" (.str "Failure")]).render

theorem ofReply_of_decode {r : Reply} {refusal : Refusal}
    (h : (Source.parse? r.body.toList).map (fun s => (Refusal.decode s).toOption) =
      some (some refusal)) : Refusal.ofReply r = refusal := by
  obtain ⟨s, hparse, hs⟩ := Option.map_eq_some_iff.mp h
  unfold Refusal.ofReply
  cases hdecode : Refusal.decode s with
  | error e =>
    rw [hdecode] at hs
    cases hs
  | ok a =>
    rw [hdecode] at hs
    cases hs
    simp [hparse, hdecode]

theorem ofReply_absent : Refusal.ofReply absent = ⟨"Failure", "", "NotFound", 404⟩ := by
  refine ofReply_of_decode ?_
  unfold absent Json.render
  rw [String.toList_ofList]
  decide +kernel

theorem read_absent {α : Type} (decode : Source → Decoded α) :
    ∃ fault, absent.read decode = .error fault ∧ fault.isNotFound = true := by
  have hrefused : absent.read decode = .error (.refused (.ofReply absent)) := by
    unfold Reply.read
    rw [if_pos (by decide)]
  rw [ofReply_absent] at hrefused
  exact ⟨_, hrefused, by decide⟩

/-- A value that can be written down is read as it is. -/
theorem read_of_legible {α : Type} {decode : Source → Decoded α} {j : Json} {a : α}
    (hlegible : Legible nestingLimit j) (hread : decode (.ofJson j) = .ok a) :
    (Scripted.ok j).read decode = .ok a := by
  rw [read_ok, parse?_compact hlegible, Option.map_some, hread]

/-- Some reply to an object that is made is an object. -/
theorem read_object : ∃ object, (Scripted.ok (.obj [])).read decodeObject = .ok object :=
  ⟨.obj [], read_of_legible (.obj nofun) rfl⟩

end ControlPlane.Kubernetes
