/-
Where a request goes that is put together from names.

A name of an object and a type of objects hold only characters that have their place in a
path, and a form holds only such as have theirs in a query.  None of them is a number sign,
and none in a path is a question mark, so the URL leads to the path that was put together and
takes the parameters of the form along.  All that can go wrong is that it is too long.
-/
import ControlPlane.Proofs.Requests

namespace ControlPlane.Kubernetes

/-! ### Characters -/

theorem isPathCharacter_of_isNameCharacter {c : Char} (h : isNameCharacter c = true) :
    isPathCharacter c = true := by
  have hname : ((97 ≤ c.toNat ∧ c.toNat ≤ 122 ∨ 48 ≤ c.toNat ∧ c.toNat ≤ 57) ∨ c = '-') ∨
      c = '.' := by
    simpa [isNameCharacter, isNameAlphanumeric, Char.le_def, UInt32.le_iff_toNat_le] using h
  rcases hname with (hrange | rfl) | rfl
  · simp only [isPathCharacter, Bool.and_eq_true, Bool.or_eq_true, decide_eq_true_eq]
    omega
  · decide
  · decide

theorem isNameCharacter_of_isDigit {c : Char} (h : c.isDigit = true) : isNameCharacter c = true := by
  have hrange : '0' ≤ c ∧ c ≤ '9' := by simpa [Char.isDigit, Char.le_def] using h
  simp [isNameCharacter, isNameAlphanumeric, hrange]

theorem isQueryCharacter_of_isAlphanum {c : Char} (h : c.isAlphanum = true) :
    isQueryCharacter c = true := by
  have hkinds : ((decide ('A'.val ≤ c.val ∧ c.val ≤ 'Z'.val) ||
      (decide ('a'.val ≤ c.val) && decide (c.val ≤ 'z'.val))) ||
        (decide ('0'.val ≤ c.val) && decide (c.val ≤ '9'.val))) = true := h
  have hrange : (65 ≤ c.toNat ∧ c.toNat ≤ 90 ∨ 97 ≤ c.toNat ∧ c.toNat ≤ 122) ∨
      48 ≤ c.toNat ∧ c.toNat ≤ 57 := by
    simpa [UInt32.le_iff_toNat_le] using hkinds
  simp only [isQueryCharacter, Bool.and_eq_true, Bool.or_eq_true, decide_eq_true_eq]
  omega

theorem isQueryCharacter_formDigit : ∀ n < 16, isQueryCharacter (formDigit n) = true := by
  decide

theorem isQueryCharacter_formByte (b : UInt8) : ∀ c ∈ formByte b, isQueryCharacter c = true := by
  intro c hc
  have hbound := b.toNat_lt
  unfold formByte at hc
  split at hc
  · rename_i hplain
    obtain rfl := List.mem_singleton.mp hc
    have hkinds : ((((Char.ofNat b.toNat).isAlphanum = true ∨ Char.ofNat b.toNat = '*') ∨
        Char.ofNat b.toNat = '-') ∨ Char.ofNat b.toNat = '.') ∨ Char.ofNat b.toNat = '_' := by
      simpa [isPlainByte] using (Bool.and_eq_true_iff.mp hplain).2
    rcases hkinds with (((h | h) | h) | h) | h
    · exact isQueryCharacter_of_isAlphanum h
    all_goals
      rw [h]
      decide
  · split at hc
    · obtain rfl := List.mem_singleton.mp hc
      decide
    · simp only [List.mem_cons, List.not_mem_nil, or_false] at hc
      rcases hc with rfl | rfl | rfl
      · decide
      · exact isQueryCharacter_formDigit _ (by omega)
      · exact isQueryCharacter_formDigit _ (by omega)

theorem all_formText (s : String) : (formText s).all isQueryCharacter = true := by
  refine List.all_eq_true.mpr fun c hc => ?_
  obtain ⟨b, -, hb⟩ := List.mem_flatMap.mp hc
  exact isQueryCharacter_formByte b c hb

/-! ### URLs -/

/-- What stands behind the question mark. -/
def formOf : Option (List (String × String)) → List Char
  | none => []
  | some query => query.flatMap fun e => '&' :: (formText e.1 ++ '=' :: formText e.2)

theorem all_formOf (query : Option (List (String × String))) :
    (formOf query).all isQueryCharacter = true := by
  have hmarks : isQueryCharacter '&' = true ∧ isQueryCharacter '=' = true := by decide
  cases query with
  | none => rfl
  | some q => simp [formOf, List.all_flatMap, hmarks, all_formText]

theorem staysInPath_of_isPathCharacter {cs : List Char} (h : cs.all isPathCharacter = true) :
    staysInPath cs := by
  intro c hc
  have hpath := List.all_eq_true.mp h c hc
  constructor
  · rintro rfl
    revert hpath
    decide
  · rintro rfl
    revert hpath
    decide

section Url

variable {path : String} {query : Option (List (String × String))}

theorem length_urlOf_le : (urlOf path query).length ≤ path.length + 1 + (formOf query).length := by
  cases query with
  | none => simp [urlOf, formOf, String.length_toList]
  | some q =>
    simp only [urlOf, formOf, List.length_append, List.length_cons, String.length_toList]
    omega

theorem length_utf8_le (cs : List Char) : (Text.utf8 cs).length ≤ 4 * cs.length := by
  induction cs with
  | nil => exact Nat.le_refl 0
  | cons c cs ih =>
    have hwidth : (String.utf8EncodeChar c).length ≤ 4 := by
      rw [String.length_utf8EncodeChar]
      exact Char.utf8Size_le_four c
    have happend : (Text.utf8 (c :: cs)).length =
        (String.utf8EncodeChar c).length + (Text.utf8 cs).length := List.length_append
    rw [happend, List.length_cons]
    omega

/-- Nothing of the URL is cut off. -/
theorem shown_urlOf (hpath : path.toList.all isPathCharacter = true) :
    (urlOf path query).takeWhile (· ≠ '#') = urlOf path query := by
  have hstays := staysInPath_of_isPathCharacter hpath
  have hform : ∀ c ∈ formOf query, c ≠ '#' := by
    rintro c hc rfl
    have hmark := List.all_eq_true.mp (all_formOf query) _ hc
    revert hmark
    decide
  refine takeWhile_of_stays fun c hc => ?_
  cases query with
  | none => exact (hstays c hc).2
  | some q =>
    rcases List.mem_append.mp hc with hc | hc
    · exact (hstays c hc).2
    · rcases List.mem_cons.mp hc with rfl | hc
      · decide
      · exact hform c hc

theorem path_urlOf (hpath : path.toList.all isPathCharacter = true) :
    (urlOf path query).takeWhile (· ≠ '?') = path.toList := by
  have hstays := staysInPath_of_isPathCharacter hpath
  cases query with
  | none => exact takeWhile_of_stays fun c hc => (hstays c hc).1
  | some q =>
    unfold urlOf
    rw [takeWhile_append_of_stays fun c hc => (hstays c hc).1,
      List.takeWhile_cons_of_neg (by decide), List.append_nil]

theorem form_urlOf (hpath : path.toList.all isPathCharacter = true) :
    ((urlOf path query).dropWhile (· ≠ '?')).drop 1 = formOf query := by
  have hstays := staysInPath_of_isPathCharacter hpath
  have hpassed : ∀ c ∈ path.toList, decide (c ≠ '?') = true := fun c hc =>
    decide_eq_true (hstays c hc).1
  cases query with
  | none =>
    have hnone : (path.toList ++ []).dropWhile (· ≠ '?') = [] := List.dropWhile_append_of_pos hpassed
    rw [List.append_nil] at hnone
    unfold urlOf
    rw [hnone]
    rfl
  | some q =>
    unfold urlOf
    rw [List.dropWhile_append_of_pos hpassed, List.dropWhile_cons_of_neg (by decide)]
    rfl

/-- A URL that is not too long leads to its path, with the parameters of its form. -/
theorem Target.ofUrl?_urlOf (hpath : path.toList.all isPathCharacter = true)
    (hlen : 4 * (path.length + 1 + (formOf query).length) ≤ urlLimit) :
    Target.ofUrl? (urlOf path query) = some ⟨path, parameters (formOf query)⟩ := by
  have hbytes := length_utf8_le (urlOf path query)
  have hurl : (urlOf path query).length ≤ path.length + 1 + (formOf query).length := length_urlOf_le
  unfold Target.ofUrl?
  dsimp only
  rw [if_neg (by omega), shown_urlOf hpath, path_urlOf hpath, form_urlOf hpath, hpath, all_formOf,
    String.ofList_toList]
  rfl

end Url

/-! ### Names -/

/-- What the API takes for the name of an object. -/
def IsName (name : String) : Prop := name ≠ "" ∧ ∀ c ∈ name.toList, isNameCharacter c = true

namespace IsName

variable {name cluster : String}

theorem of_all (hne : name ≠ "") (h : name.toList.all isNameCharacter = true) : IsName name :=
  ⟨hne, List.all_eq_true.mp h⟩

theorem append {rest : String} (h : IsName name) (hrest : rest.toList.all isNameCharacter = true) :
    IsName (name ++ rest) := by
  constructor
  · rw [Ne, String.append_eq_empty_iff]
    exact fun hempty => h.1 hempty.1
  · rw [String.toList_append]
    exact List.forall_mem_append.mpr ⟨h.2, List.all_eq_true.mp hrest⟩

theorem all_isPathCharacter (h : IsName name) : name.toList.all isPathCharacter = true :=
  List.all_eq_true.mpr fun c hc => isPathCharacter_of_isNameCharacter (h.2 c hc)

theorem slash (h : IsName name) : '/' ∉ name.toList := by
  intro hmem
  have hslash := h.2 _ hmem
  revert hslash
  decide

theorem inputsSecret (h : IsName cluster) : IsName (Cluster.inputsSecret cluster) :=
  h.append (by decide)

theorem bootstrapMachine (h : IsName cluster) : IsName (Cluster.bootstrapMachine cluster) :=
  h.append (by decide)

theorem controlPlaneMachine (h : IsName cluster) (index : Nat) :
    IsName (Cluster.controlPlaneMachine cluster index) := by
  refine (h.append (by decide)).append (List.all_eq_true.mpr fun c hc => ?_)
  rw [String.toList_ofList] at hc
  exact isNameCharacter_of_isDigit (Nat.isDigit_of_mem_toDigits (by decide) (by decide) hc)

end IsName

/-- The machines of a cluster are called by names, and short ones if there are not many. -/
theorem isName_of_mem_machines {r : MachineSetRequest} (hcluster : IsName r.cluster) :
    ∀ machine ∈ r.machines, IsName machine.2 ∧
      machine.2.length ≤ r.cluster.length + r.replicas + 10 := by
  refine List.forall_mem_cons.mpr ⟨⟨hcluster.bootstrapMachine, ?_⟩, fun machine hmachine => ?_⟩
  · have hlen : (Cluster.bootstrapMachine r.cluster).length = r.cluster.length + 10 := by
      rw [Cluster.bootstrapMachine, String.length_append]
      rfl
    dsimp only
    omega
  · obtain ⟨i, hi, rfl⟩ := List.mem_map.mp hmachine
    refine ⟨hcluster.controlPlaneMachine i, ?_⟩
    have hpower : i + 1 < 10 ^ (i + 1) := Nat.lt_pow_self (by decide)
    have hdigits : (Nat.toDigits 10 i).length ≤ i + 1 :=
      (Nat.length_toDigits_le_iff (by decide) (by omega)).mpr (by omega)
    have hmaster : "-master-".length = 8 := rfl
    have hlen : (Cluster.controlPlaneMachine r.cluster i).length =
        r.cluster.length + 8 + (Nat.toDigits 10 i).length := by
      rw [Cluster.controlPlaneMachine, String.length_append, String.length_append,
        hmaster, String.length_ofList]
    have hrange := List.mem_range.mp hi
    dsimp only
    omega

/-! ### Objects -/

namespace ObjectType

/-- The texts of a type of objects have their place in a path, and leave room in it. -/
structure Fits (t : ObjectType) : Prop where
  root : t.root.toList.all isPathCharacter = true
  plural : t.plural.toList.all isPathCharacter = true
  length_le : t.root.length + t.plural.length ≤ 300

theorem fits_secrets : secrets.Fits := ⟨by decide, by decide, by decide⟩

theorem fits_configMaps : configMaps.Fits := ⟨by decide, by decide, by decide⟩

theorem fits_machines : machines.Fits := ⟨by decide, by decide, by decide⟩

theorem fits_controlPlanes : controlPlanes.Fits := ⟨by decide, by decide, by decide⟩

namespace Fits

variable {t : ObjectType} {ns name : String} {query : Option (List (String × String))}

theorem all_path (ht : t.Fits) (hns : IsName ns) : (t.path ns).toList.all isPathCharacter = true := by
  have hnamespaces : "/namespaces/".toList.all isPathCharacter = true := by decide
  have hslash : "/".toList.all isPathCharacter = true := by decide
  simp only [path, String.toList_append, List.all_append, Bool.and_eq_true]
  exact ⟨⟨⟨⟨ht.root, hnamespaces⟩, hns.all_isPathCharacter⟩, hslash⟩, ht.plural⟩

theorem all_objectPath (ht : t.Fits) (hns : IsName ns) (hname : IsName name) :
    (t.objectPath ns name).toList.all isPathCharacter = true := by
  have hslash : "/".toList.all isPathCharacter = true := by decide
  simp only [objectPath, String.toList_append, List.all_append, Bool.and_eq_true]
  exact ⟨⟨ht.all_path hns, hslash⟩, hname.all_isPathCharacter⟩

theorem stays_path (ht : t.Fits) (hns : IsName ns) : staysInPath (t.path ns).toList :=
  staysInPath_of_isPathCharacter (ht.all_path hns)

theorem stays_objectPath (ht : t.Fits) (hns : IsName ns) (hname : IsName name) :
    staysInPath (t.objectPath ns name).toList :=
  staysInPath_of_isPathCharacter (ht.all_objectPath hns hname)

theorem length_path_le (ht : t.Fits) : (t.path ns).length ≤ ns.length + 313 := by
  have hroom := ht.length_le
  have hpath : (t.path ns).length = t.root.length + 12 + ns.length + 1 + t.plural.length := by
    simp only [path, String.length_append]
    rfl
  omega

/-- A request about all objects of a namespace. -/
theorem target_path (ht : t.Fits) (hns : IsName ns)
    (hlen : ns.length + (formOf query).length ≤ 16000) :
    Target.ofUrl? (urlOf (t.path ns) query) = some ⟨t.path ns, parameters (formOf query)⟩ := by
  refine Target.ofUrl?_urlOf (ht.all_path hns) ?_
  have hpath : (t.path ns).length ≤ ns.length + 313 := ht.length_path_le
  rw [urlLimit]
  omega

/-- A request about one object. -/
theorem target_objectPath (ht : t.Fits) (hns : IsName ns) (hname : IsName name)
    (hlen : ns.length + name.length + (formOf query).length ≤ 16000) :
    Target.ofUrl? (urlOf (t.objectPath ns name) query) =
      some ⟨t.objectPath ns name, parameters (formOf query)⟩ := by
  refine Target.ofUrl?_urlOf (ht.all_objectPath hns hname) ?_
  have hpath : (t.path ns).length ≤ ns.length + 313 := ht.length_path_le
  have hobject : (t.objectPath ns name).length = (t.path ns).length + 1 + name.length := by
    simp only [objectPath, String.length_append]
    rfl
  rw [urlLimit]
  omega

end Fits

end ObjectType

end ControlPlane.Kubernetes
