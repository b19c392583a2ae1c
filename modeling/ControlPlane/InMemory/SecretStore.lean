/-
A store of secrets kept in memory.
-/
import ControlPlane.Call
import ControlPlane.ObjectKey

namespace ControlPlane.InMemory

structure SecretStore where
  secrets : Table ObjectKey NamedSecret
  /-- How long every call takes. -/
  latency : Option Duration
  /-- Every call fails. -/
  unavailable : Bool
  /-- The number of look-ups by name so far. -/
  gets : Nat
  /-- The number of look-ups by labels so far. -/
  lists : Nat

namespace SecretStore

def empty : SecretStore := ⟨.empty, none, false, 0, 0⟩

instance : Inhabited SecretStore := ⟨empty⟩

/-- Adds a secret, in place of one of the same name. -/
def add (s : SecretStore) (ns : String) (secret : NamedSecret) : SecretStore :=
  { s with secrets := s.secrets.insert ⟨ns, secret.name⟩ secret }

def remove (s : SecretStore) (ns name : String) : SecretStore :=
  { s with secrets := s.secrets.erase ⟨ns, name⟩ }

/-- An answer of a store that may be out of reach. -/
def guarded (s : SecretStore) (a : α) : Except ClientError α :=
  if s.unavailable then .error (.api "secret store unavailable") else .ok a

/-- The contents of a secret. -/
def get (s : SecretStore) (ns name : String) : Except ClientError (Option SecretData) :=
  s.guarded ((s.secrets.get? ⟨ns, name⟩).map (·.data))

/-- The secrets of a namespace that a selector accepts, sorted by name. -/
def list (s : SecretStore) (ns : String) (selector : Selector) :
    Except ClientError (List NamedSecret) :=
  s.guarded <| (s.secrets.entries.filter fun e =>
    e.1.ns = ns && selector.holds e.2.labels).map (·.2)

end SecretStore

end ControlPlane.InMemory
