/-
The inputs of the installer, read back.

The secret has the configuration and the state as they are, each only if it is set, and all
manifests in one document.  Whoever reads the document as UTF-8, then as an object, and then
each of its fields as a list of bytes, comes to the manifests that were handed over, under the
same paths.  So the secret loses nothing, and only the same contents make the same secret.
-/
import ControlPlane.Installation
import ControlPlane.Proofs.JsonText
import ControlPlane.Proofs.Records

namespace ControlPlane

open Json

/-! ### Bytes -/

/-- A byte that is written as a number. -/
def readByte (s : Source) : Decoded UInt8 := UInt8.ofNat <$> asNatBelow 256 s

theorem reads_byte (b : UInt8) : Reads readByte (.int b.toNat) b := by
  have hlt := b.toNat_lt
  have hnat : Reads (asNatBelow 256) (.int b.toNat) b.toNat := by
    show (if 0 ≤ (b.toNat : Int) ∧ (b.toNat : Int) < ((256 : Nat) : Int) then
      .ok (b.toNat : Int).toNat else .error .mismatch : Decoded Nat) = .ok b.toNat
    rw [if_pos (by omega), Int.toNat_natCast]
  show UInt8.ofNat <$> asNatBelow 256 (.ofJson (.int b.toNat)) = .ok b
  rw [hnat]
  exact congrArg Except.ok UInt8.ofNat_toNat

theorem legible_byte {depth : Nat} (b : UInt8) : Legible depth (.int b.toNat) := by
  have hlt := b.toNat_lt
  exact .int (by omega) (by omega)

/-! ### Texts as bytes -/

/-- A text is read back from its bytes. -/
theorem fromUTF8?_utf8 (cs : List Char) :
    String.fromUTF8? (InstallInputs.utf8 cs).toByteArray = some (String.ofList cs) := by
  have hbytes : (InstallInputs.utf8 cs).toByteArray = (String.ofList cs).toByteArray :=
    String.toByteArray_ofList.symm
  rw [hbytes]
  unfold String.fromUTF8?
  rw [dif_pos (String.isValidUTF8 _)]
  rfl

namespace InstallInputs

/-! ### The manifests -/

/-- The manifests that an object has by their paths. -/
def readManifests : Source → Decoded (Table String Bytes) := asTable (asList readByte)

/-- The manifests in a document. -/
def manifestsOf? (document : Bytes) : Option (Table String Bytes) := do
  let text ← String.fromUTF8? document.toByteArray
  let source ← Source.parse? text.toList
  (readManifests source).toOption

theorem reads_manifests (m : Table String Bytes) : Reads readManifests (manifestsJson m) m :=
  reads_table (fun _ => reads_same reads_byte) m

theorem legible_manifests (m : Table String Bytes) : Legible nestingLimit (manifestsJson m) := by
  refine .obj fun e he => ?_
  obtain ⟨entry, -, rfl⟩ := List.mem_map.mp he
  refine .arr fun j hj => ?_
  obtain ⟨b, -, rfl⟩ := List.mem_map.mp hj
  exact legible_byte b

/-- The document of some manifests has these manifests. -/
theorem manifestsOf?_document (m : Table String Bytes) :
    manifestsOf? (utf8 (manifestsJson m).compact) = some m := by
  have hread : readManifests (.ofJson (manifestsJson m)) = .ok m := reads_manifests m
  unfold manifestsOf?
  rw [fromUTF8?_utf8]
  simp only [Option.bind_eq_bind, Option.bind_some, String.toList_ofList,
    parse?_compact (legible_manifests m), hread]
  rfl

/-! ### The secret -/

/-- What the installer is handed about a cluster. -/
structure Contents where
  config : Option Bytes
  state : Option Bytes
  manifests : Table String Bytes
deriving DecidableEq

def contents (i : InstallInputs) : Contents := ⟨i.config, i.state, i.manifests⟩

/-- What a secret hands over, unless its manifests cannot be read. -/
def contentsOf? (data : SecretData) : Option Contents := do
  let document ← data.get? manifestsKey
  let manifests ← manifestsOf? document
  some ⟨data.get? installConfigKey, data.get? installStateKey, manifests⟩

/-- The secret has each part under a key of its own. -/
theorem get?_secretData (i : InstallInputs) :
    i.secretData.get? installConfigKey = i.config ∧
      i.secretData.get? installStateKey = i.state ∧
      i.secretData.get? manifestsKey = some (utf8 (manifestsJson i.manifests).compact) := by
  have hapart : installConfigKey ≠ installStateKey ∧ installConfigKey ≠ manifestsKey ∧
      installStateKey ≠ manifestsKey ∧ installStateKey ≠ installConfigKey := by decide
  unfold secretData Table.ofList
  simp only [Table.get?_insertMany, Table.get?_empty, Option.or_none]
  cases i.config <;> cases i.state <;> simp [Table.lookup, hapart]

/-- The secret is made from nothing but what it hands over. -/
theorem secretData_eq_of_contents {i j : InstallInputs} (h : i.contents = j.contents) :
    i.secretData = j.secretData := by
  obtain ⟨hconfig, hstate, hmanifests⟩ := Contents.mk.inj h
  unfold secretData
  rw [hconfig, hstate, hmanifests]

/-- **The inputs of the installer can be read back.**  From the secret that hands them over
come exactly the configuration and the state, each if it is set, and all manifests by their
paths.  So two inputs make one secret if and only if nothing but the cluster tells them apart. -/
theorem contents_read_back (i j : InstallInputs) :
    contentsOf? i.secretData = some i.contents ∧
      (i.secretData = j.secretData ↔ { i with ns := j.ns, cluster := j.cluster } = j) := by
  have hread : ∀ k : InstallInputs, contentsOf? k.secretData = some k.contents := by
    intro k
    obtain ⟨hconfig, hstate, hmanifests⟩ := get?_secretData k
    unfold contentsOf?
    rw [hconfig, hstate, hmanifests]
    simp only [Option.bind_eq_bind, Option.bind_some, manifestsOf?_document]
    rfl
  refine ⟨hread i, fun h => ?_, fun h => ?_⟩
  · have hcontents : some i.contents = some j.contents := by rw [← hread i, ← hread j, h]
    obtain ⟨hconfig, hstate, hmanifests⟩ := Contents.mk.inj (Option.some.inj hcontents)
    cases i
    cases j
    cases hconfig
    cases hstate
    cases hmanifests
    rfl
  · refine secretData_eq_of_contents ?_
    rw [← h]
    rfl

end InstallInputs

end ControlPlane
