/-
The manifests of the secrets that a selector finds.

Of the secrets that a pass has listed, either every key is a manifest path and the pass goes on
to the installer, or it stops there and names every key that is none.  `listed_cases` tells the
two apart once, and what the outcome says of either goes by its cases.

What is handed over is a merge of all the secrets, in the order in which they were listed.  So a
path has the contents of the last secret that holds it.  This is what each of the secrets holds
only if they agree on the paths that they share; nothing stops a pass over secrets that do not.
-/
import ControlPlane.Proofs.Records
import ControlPlane.Proofs.Requeue
import ControlPlane.Proofs.Vetting
import Mathlib.Data.List.Nodup
import Mathlib.Data.Prod.Basic

namespace ControlPlane

open Program (Runs)

namespace Demo

/-- One more secret that the selector of the example finds. -/
def further (data : SecretData) : NamedSecret := ⟨"demo-more", .ofList [("app", "demo")], data⟩

/-- The world with a manifest and that secret. -/
def worldWith (data : SecretData) : InMemory.World :=
  { manifestWorld with secrets := manifestWorld.secrets.add "clusters" (further data) }

/-- What a pass lists there. -/
def secretsWith (data : SecretData) : List NamedSecret :=
  [⟨"demo-manifests", .ofList [("app", "demo")], .ofList [("manifests/demo.yaml", [2])]⟩,
    further data]

/-- The calls of the pass. -/
def callsWith (data : SecretData) : Calls :=
  (selectingPass.run ⟨0, 0⟩).trace answerCall (worldWith data)

/-- A secret of which one key is just a directory and another one is in none of them. -/
def stray : SecretData := .ofList [("scripts/demo.sh", [1]), ("manifests/", [2])]

/-- A secret with a manifest of the same path as the first one. -/
def contested : SecretData := .ofList [("manifests/demo.yaml", [3])]

end Demo

/-- The secrets that some calls list, one time after the other. -/
def listings (log : Calls) : List (List NamedSecret) :=
  log.filterMap fun
    | ⟨.listSecrets .., ⟨.answered secrets, _⟩⟩ => some secrets
    | _ => none

theorem exists_of_listings {log : Calls} {secrets : List NamedSecret} (h : secrets ∈ listings log) :
    ∃ ns selector now, ⟨.listSecrets ns selector, ⟨.answered secrets, now⟩⟩ ∈ log := by
  obtain ⟨e, hmem, he⟩ := List.mem_filterMap.mp h
  split at he
  · cases he
    exact ⟨_, _, _, hmem⟩
  · cases he

theorem exists_of_handed {log : Calls} {manifests : Table String Bytes} (h : manifests ∈ handed log) :
    ∃ inputs reply, ⟨.generateBootConfig inputs, reply⟩ ∈ log ∧ inputs.manifests = manifests := by
  obtain ⟨⟨c, reply⟩, hmem, hc⟩ := List.mem_filterMap.mp h
  cases c with
  | generateBootConfig inputs =>
    cases hc
    exact ⟨inputs, reply, hmem, rfl⟩
  | _ => cases hc

/-! ### Manifest paths -/

/-- A path to something in one of the two directories. -/
def ManifestPath (key : String) : Prop :=
  ∃ rest, rest ≠ "" ∧ (key = "manifests/" ++ rest ∨ key = "openshift/" ++ rest)

theorem isPrefixOf_toList_iff {d key : String} :
    (d.toList.isPrefixOf key.toList && d.toList.length < key.toList.length) = true ↔
      ∃ rest, rest ≠ "" ∧ key = d ++ rest := by
  rw [Bool.and_eq_true, List.isPrefixOf_iff_prefix, decide_eq_true_iff]
  constructor
  · rintro ⟨⟨rest, hrest⟩, hlonger⟩
    refine ⟨String.ofList rest, ?_, ?_⟩
    · intro hnone
      have hnil : rest = [] := by simpa using congrArg String.toList hnone
      rw [← hrest, hnil, List.append_nil] at hlonger
      exact absurd hlonger (Nat.lt_irrefl _)
    · rw [← String.toList_inj, String.toList_append, String.toList_ofList, hrest]
  · rintro ⟨rest, hsome, rfl⟩
    have hpos : 0 < rest.toList.length := by
      refine List.length_pos_iff.mpr fun hnil => hsome ?_
      rw [← String.toList_inj, hnil]
      rfl
    rw [String.toList_append, List.length_append]
    exact ⟨List.prefix_append _ _, by omega⟩

theorem isManifestPath_iff {key : String} : isManifestPath key = true ↔ ManifestPath key := by
  unfold isManifestPath manifestDirectories ManifestPath
  simp only [List.any_cons, List.any_nil, Bool.or_false, Bool.or_eq_true, isPrefixOf_toList_iff]
  constructor
  · rintro (⟨rest, hsome, hkey⟩ | ⟨rest, hsome, hkey⟩)
    · exact ⟨rest, hsome, .inl hkey⟩
    · exact ⟨rest, hsome, .inr hkey⟩
  · rintro ⟨rest, hsome, hkey | hkey⟩
    · exact .inl ⟨rest, hsome, hkey⟩
    · exact .inr ⟨rest, hsome, hkey⟩

instance {key : String} : Decidable (ManifestPath key) := decidable_of_iff _ isManifestPath_iff

/-- Every key of the secrets is a manifest path. -/
def AllManifests (secrets : List NamedSecret) : Prop :=
  ∀ secret ∈ secrets, ∀ key ∈ secret.data.keys, ManifestPath key

/-! ### Offending keys -/

/-- The keys of the secrets, each with the name of its secret: one secret after the other, and
the keys of a secret in their order. -/
def listedKeys (secrets : List NamedSecret) : List (String × String) :=
  secrets.flatMap fun secret => secret.data.keys.map (secret.name, ·)

/-- Those that are no manifest paths. -/
def offending (secrets : List NamedSecret) : List (String × String) :=
  (listedKeys secrets).filter fun e => ¬ManifestPath e.2

variable {secrets : List NamedSecret}

theorem offending_eq_nil_iff : offending secrets = [] ↔ AllManifests secrets := by
  unfold offending listedKeys AllManifests
  simp only [List.filter_eq_nil_iff, List.mem_flatMap, List.mem_map, decide_eq_true_eq, not_not]
  constructor
  · intro h secret hsecret key hkey
    exact h (secret.name, key) ⟨secret, hsecret, key, hkey, rfl⟩
  · rintro h _ ⟨secret, hsecret, key, hkey, rfl⟩
    exact h secret hsecret key hkey

/-- What is reported of the secrets is their offending keys. -/
theorem flatMap_manifestErrors : (secrets.flatMap fun s => manifestErrors s.name s.data.keys) =
    (offending secrets).map fun e => .invalidManifestPath e.1 e.2 := by
  unfold offending listedKeys
  rw [List.filter_flatMap, List.map_flatMap]
  refine congrArg (List.flatMap · secrets) (funext fun secret => ?_)
  have hkeys : secret.data.keys.filter (fun key => !isManifestPath key) =
      secret.data.keys.filter fun key => ¬ManifestPath key := by
    refine List.filter_congr fun key _ => ?_
    rw [Bool.eq_iff_iff]
    simp [← isManifestPath_iff]
  rw [manifestErrors, hkeys, List.filter_map, List.map_map]
  rfl

theorem collectManifests_error_iff {errors : List ValidationError} :
    Pass.collectManifests secrets = .error errors ↔ ¬AllManifests secrets ∧
      errors = (offending secrets).map fun e => .invalidManifestPath e.1 e.2 := by
  unfold Pass.collectManifests
  rw [flatMap_manifestErrors, ← offending_eq_nil_iff]
  cases offending secrets with
  | nil => simp
  | cons e l => simp [eq_comm]

theorem allManifests_of_collect {manifests : Table String Bytes}
    (h : Pass.collectManifests secrets = .ok manifests) : AllManifests secrets := by
  intro secret hsecret key hkey
  exact isManifestPath_iff.mp (exists_collect_iff.mp ⟨manifests, h⟩ secret hsecret key hkey)

/-- A key that is no manifest path is reported once of each secret that has it. -/
theorem count_offending {name key : String} (h : ¬ManifestPath key) :
    (offending secrets).count (name, key) =
      secrets.countP fun secret => secret.name = name ∧ key ∈ secret.data.keys := by
  have hone : ∀ secret : NamedSecret, (secret.data.keys.map (secret.name, ·)).count (name, key) =
      if secret.name = name ∧ key ∈ secret.data.keys then 1 else 0 := by
    intro secret
    have hnodup : (secret.data.keys.map (secret.name, ·)).Nodup :=
      secret.data.nodup_keys.map (Prod.mk_right_injective secret.name)
    rw [hnodup.count]
    refine if_congr ?_ rfl rfl
    simp [and_comm]
  unfold offending
  rw [List.count_filter (by simpa using h)]
  induction secrets with
  | nil => rfl
  | cons secret secrets ih =>
    rw [listedKeys, List.flatMap_cons, List.count_append, hone, List.countP_cons, ← ih, listedKeys,
      Nat.add_comm]
    simp only [decide_eq_true_eq]

/-- No key of secrets with different names offends twice. -/
theorem nodup_offending (h : (secrets.map (·.name)).Nodup) : (offending secrets).Nodup := by
  refine List.Nodup.filter _ (List.nodup_flatMap.mpr ⟨fun secret _ => ?_, ?_⟩)
  · exact secret.data.nodup_keys.map (Prod.mk_right_injective secret.name)
  · refine (List.pairwise_map.mp h).imp fun hne => ?_
    intro e he he'
    obtain ⟨_, -, rfl⟩ := List.mem_map.mp he
    obtain ⟨_, -, heq⟩ := List.mem_map.mp he'
    exact hne (congrArg Prod.fst heq).symm

/-! ### Merged secrets -/

theorem Table.get?_merge {κ α : Type} [LT κ] [DecidableEq κ] [DecidableLT κ] [KeyOrder κ]
    (t u : Table κ α) (k : κ) : (t.merge u).get? k = (u.get? k).or (t.get? k) := by
  have hlast : lookup k u.entries.reverse = u.get? k := by
    have hentries : (ofList u.entries).get? k = u.get? k := by rw [ofList_entries]
    rwa [ofList, get?_insertMany, get?_empty, Option.or_none] at hentries
  rw [merge, get?_insertMany, hlast]

/-- The contents of a path are those of the last secret that holds it. -/
theorem get?_foldl_merge {found : Table String Bytes} {path : String} :
    (secrets.foldl (fun found s => found.merge s.data) found).get? path =
      (secrets.reverse.findSome? (·.data.get? path)).or (found.get? path) := by
  induction secrets generalizing found with
  | nil => rfl
  | cons secret secrets ih =>
    rw [List.foldl_cons, ih, Table.get?_merge, List.reverse_cons, List.findSome?_append,
      List.findSome?_singleton, Option.or_assoc]

/-- The secrets do not differ on a path that they share. -/
def Agree (secrets : List NamedSecret) : Prop :=
  ∀ a ∈ secrets, ∀ b ∈ secrets, ∀ path c d,
    a.data.get? path = some c → b.data.get? path = some d → c = d

/-- A secret holds some contents under a path, and no later one holds the path. -/
def LastHolds (secrets : List NamedSecret) (path : String) (contents : Bytes) : Prop :=
  ∃ before secret after, secrets = before ++ secret :: after ∧
    secret.data.get? path = some contents ∧ ∀ later ∈ after, later.data.get? path = none

theorem lastHolds_iff {path : String} {contents : Bytes} :
    LastHolds secrets path contents ↔
      secrets.reverse.findSome? (·.data.get? path) = some contents := by
  rw [List.findSome?_eq_some_iff]
  constructor
  · rintro ⟨before, secret, after, rfl, hholds, hlast⟩
    refine ⟨after.reverse, secret, before.reverse, by simp, hholds, ?_⟩
    exact fun later hlater => hlast later (List.mem_reverse.mp hlater)
  · rintro ⟨after, secret, before, hsecrets, hholds, hlast⟩
    refine ⟨before.reverse, secret, after.reverse, ?_, hholds, ?_⟩
    · rw [← List.reverse_reverse secrets, hsecrets]
      simp
    · exact fun later hlater => hlast later (List.mem_reverse.mp hlater)

theorem LastHolds.unique {path : String} {c d : Bytes} (hc : LastHolds secrets path c)
    (hd : LastHolds secrets path d) : c = d := by
  rw [lastHolds_iff] at hc hd
  exact Option.some.inj (hc.symm.trans hd)

/-- Of the secrets that hold a path there is a last one. -/
theorem exists_lastHolds_iff {path : String} : (∃ contents, LastHolds secrets path contents) ↔
    ∃ secret ∈ secrets, secret.data.contains path = true := by
  simp only [lastHolds_iff, ← Option.isSome_iff_exists, List.findSome?_isSome_iff,
    List.mem_reverse, Table.contains]

/-- The last secrets hold what every secret holds exactly if the secrets agree. -/
theorem lastHolds_iff_agree :
    (∀ secret ∈ secrets, ∀ path contents, secret.data.get? path = some contents →
      LastHolds secrets path contents) ↔ Agree secrets := by
  constructor
  · intro h a ha b hb path c d hc hd
    exact (h a ha path c hc).unique (h b hb path d hd)
  · intro h secret hsecret path contents hholds
    have hcontains : secret.data.contains path = true := Option.isSome_iff_exists.mpr ⟨_, hholds⟩
    obtain ⟨last, before, holder, after, rfl, hheld, hlast⟩ :=
      exists_lastHolds_iff.mpr ⟨secret, hsecret, hcontains⟩
    have hmem : holder ∈ before ++ holder :: after := List.mem_append_right _ List.mem_cons_self
    rw [h secret hsecret holder hmem path contents last hholds hheld]
    exact ⟨before, holder, after, rfl, hheld, hlast⟩

theorem get?_collected_iff {manifests : Table String Bytes} {path : String} {contents : Bytes}
    (h : Pass.collectManifests secrets = .ok manifests) :
    manifests.get? path = some contents ↔ LastHolds secrets path contents := by
  have hmerged : manifests = secrets.foldl (fun found s => found.merge s.data) .empty := by
    unfold Pass.collectManifests at h
    split at h
    · cases h
      rfl
    · cases h
  rw [hmerged, get?_foldl_merge, Table.get?_empty, Option.or_none, lastHolds_iff]

/-! ### A pass over the secrets that it has listed -/

namespace Pass

open Walk

variable {p : Pass} {s : Status} {log : Calls} {r : Except Stop Requeue} {s' : Standing}
  {ns : String} {selector : Selector} {now start : Time} {o : PassOutcome} {inputs : InstallInputs}

/-- Only a pass on the way to machines lists secrets. -/
theorem provisions_of_listed {before : Standing} (h : p.Goes before log r s')
    (hlisted : ⟨.listSecrets ns selector, ⟨.answered secrets, now⟩⟩ ∈ log) :
    before.status.initialized = false ∧ p.Provisions before.status log r s' := by
  cases h with
  | refused => cases hlisted
  | ready => cases hlisted
  | initialized _ hrest =>
    exact absurd ((sequel_of_completes hrest).place _ hlisted) (show ¬5 ≤ 1 by decide)
  | fresh _ hinit hrest => exact ⟨hinit, hrest⟩

/-- Manifests that were gathered from listed secrets are what these hold. -/
theorem collect_of_gathers {looks rest : Calls} {install : InstallState}
    {manifests : Table String Bytes} {status : Status}
    (h : p.Gathers s looks install manifests status) (hrest : ∀ e ∈ rest, 2 ≤ e.1.place)
    (hlisted : ⟨.listSecrets ns selector, ⟨.answered secrets, now⟩⟩ ∈ looks ++ rest) :
    collectManifests secrets = .ok manifests := by
  have hlook : ⟨.listSecrets ns selector, ⟨.answered secrets, now⟩⟩ ∈ looks := by
    obtain hlook | hlater := List.mem_append.mp hlisted
    · exact hlook
    · exact absurd (hrest _ hlater) (show ¬2 ≤ 1 by decide)
  cases h with
  | defaults => cases List.mem_singleton.mp hlook
  | listed _ _ hmanifests =>
    obtain hfirst | hlook := List.mem_cons.mp hlook
    · cases hfirst
    · cases List.mem_singleton.mp hlook
      exact hmanifests

/-- The call to the installer is the one at its place. -/
theorem inputs_of_gathers {looks later : Calls} {install : InstallState}
    {manifests : Table String Bytes} {status : Status} {c : Call} {reply : c.Reply}
    {reply' : (Call.generateBootConfig inputs).Reply}
    (h : p.Gathers s looks install manifests status) (hlater : ∀ e ∈ later, 3 ≤ e.1.place)
    (hmem : ⟨.generateBootConfig inputs, reply'⟩ ∈ looks ++ ⟨c, reply⟩ :: later) :
    .generateBootConfig inputs = c := by
  obtain hlook | hmem := List.mem_append.mp hmem
  · cases h with
    | defaults => cases List.mem_singleton.mp hlook
    | listed =>
      obtain hfirst | hlook := List.mem_cons.mp hlook
      · cases hfirst
      · cases List.mem_singleton.mp hlook
  · obtain hthis | hmem := List.mem_cons.mp hmem
    · exact congrArg Sigma.fst hthis
    · exact absurd (hlater _ hmem) (show ¬3 ≤ 2 by decide)

/-- A pass that has listed secrets stops there over the keys that are no manifest paths, with
nothing called but look-ups, or it hands over what the secrets hold, and that alone. -/
theorem listed_cases (h : p.Provisions s log r s')
    (hlisted : ⟨.listSecrets ns selector, ⟨.answered secrets, now⟩⟩ ∈ log) :
    (∃ errors install bindTime, collectManifests secrets = .error errors ∧
      r = .error ⟨.validation errors, some (.manifestsResolved, .invalidManifests), .poll⟩ ∧
      s'.status = p.bound install s bindTime ∧ ∀ e ∈ log, e.1.isLookup = true) ∨
    ∃ manifests install, collectManifests secrets = .ok manifests ∧
      (∃ reply, ⟨.generateBootConfig (p.inputs install manifests), reply⟩ ∈ log) ∧
      ∀ inputs reply, ⟨.generateBootConfig inputs, reply⟩ ∈ log →
        inputs = p.inputs install manifests := by
  cases h with
  | stumbled h =>
    cases h with
    | unanswered => cases List.mem_singleton.mp hlisted
    | absent => cases List.mem_singleton.mp hlisted
    | useless => cases List.mem_singleton.mp hlisted
    | unlisted _ he =>
      obtain hfirst | hlisted := List.mem_cons.mp hlisted
      · cases hfirst
      · cases List.mem_singleton.mp hlisted
        cases he
    | invalid _ herrors =>
      obtain hfirst | hlisted := List.mem_cons.mp hlisted
      · cases hfirst
      · cases List.mem_singleton.mp hlisted
        exact .inl ⟨_, _, _, herrors, rfl, rfl, by simp [lookup, Call.isLookup]⟩
  | unconfigured h =>
    have hmanifests := collect_of_gathers h (by simp [Call.place]) hlisted
    refine .inr ⟨_, _, hmanifests, ⟨_, List.mem_append_right _ List.mem_cons_self⟩, ?_⟩
    intro inputs reply hmem
    cases inputs_of_gathers h (List.forall_mem_nil _) hmem
    rfl
  | configured h hrest =>
    have hplace := (sequel_of_hands hrest).1.place
    have hmanifests := collect_of_gathers h ?_ hlisted
    · refine .inr ⟨_, _, hmanifests, ⟨_, List.mem_append_right _ List.mem_cons_self⟩, ?_⟩
      intro inputs reply hmem
      cases inputs_of_gathers h hplace hmem
      rfl
    · refine List.forall_mem_cons.mpr ⟨?_, fun e he => Nat.le_of_succ_le (hplace e he)⟩
      exact Nat.le_refl 2

/-- A pass that stops at its manifests, of which not all are ones. -/
structure Blocked (p : Pass) (secrets : List NamedSecret) (log : Calls) (o : PassOutcome) :
    Prop where
  /-- The error names every key that is no manifest path, and nothing else. -/
  error : o.error = some (.validation
    ((offending secrets).map fun e => .invalidManifestPath e.1 e.2))
  /-- The keys of one secret are named in their order. -/
  ordered : ∀ secret ∈ secrets, secret.data.keys.Pairwise (· < ·)
  /-- Each is named once of each secret that has it. -/
  once : ∀ name key, ¬ManifestPath key → (offending secrets).count (name, key) =
    secrets.countP fun secret => secret.name = name ∧ key ∈ secret.data.keys
  /-- So none is named twice, since secrets differ by their names. -/
  different : (secrets.map (·.name)).Nodup → (offending secrets).Nodup
  /-- The error is told of the manifests, which are not resolved. -/
  told : ∃ error, o.error = some error ∧ o.status.told .manifestsResolved = some
    (ConditionStatus.text .fails, Reason.text .invalidManifests, error.message, p.generation)
  degraded : o.status.isTrue .degraded = true
  /-- Nothing is called that leads to machines. -/
  lookups : ∀ e ∈ log, e.1.isLookup = true
  /-- The template that was bound before, or else that of the spec, stays bound. -/
  bound : o.status.boundTemplate =
    some ((p.resource.status.getD .blank).boundTemplate.getD p.resource.spec.template)
  templateBound : o.status.isTrue .templateBound = true
  requeue : o.requeue = .poll

/-- What a stop over manifests leaves behind. -/
theorem blocked_outcome {install : InstallState} {bindTime : Time}
    (hlookups : ∀ e ∈ log, e.1.isLookup = true)
    (hbound : s'.status = p.bound install (p.resource.status.getD .blank) bindTime) :
    p.Blocked secrets log (p.outcome (.error ⟨.validation ((offending secrets).map fun e =>
      .invalidManifestPath e.1 e.2), some (.manifestsResolved, .invalidManifests), .poll⟩, s')) where
  error := rfl
  ordered secret _ := List.pairwise_map.mpr secret.data.sorted
  once _ _ := count_offending
  different := nodup_offending
  told := by
    refine ⟨_, rfl, ?_⟩
    unfold outcome Status.reportError
    dsimp only [ControllerError.errorClass]
    rw [Status.told_report, if_neg (by decide), Status.told_report, if_pos rfl]
  degraded := (Status.hasStatus_iff_of_told (Status.told_reportError rfl)).mpr rfl
  lookups := hlookups
  bound := by
    rw [boundTemplate_outcome, hbound]
    exact Status.bind_boundTemplate
  templateBound := by
    have htrue : s'.status.isTrue .templateBound = true := by
      rw [hbound, Pass.bound, Status.isTrue_report, if_pos rfl]
      rfl
    rw [← htrue]
    exact Status.isTrue_reportError (fun reason hstep => by cases hstep) (by decide) (by decide)
  requeue := rfl

/-- A pass that hands over manifests says that they are resolved. -/
theorem resolved_of_collect {before : Standing} {manifests : Table String Bytes}
    (hinit : before.status.initialized = false) (hwalk : Runs (p.walk before) log (some (r, s')))
    (hlisted : ⟨.listSecrets ns selector, ⟨.answered secrets, now⟩⟩ ∈ log)
    (hmanifests : collectManifests secrets = .ok manifests) :
    (p.outcome (r, s')).status.isTrue .manifestsResolved = true := by
  obtain ⟨rfl, -⟩ | ⟨-, -, hprovisioned⟩ := provisioned_walk hinit log r s' hwalk
  · cases hlisted
  · cases hprovisioned with
    | handed _ hrest =>
      have hresolved : (p.outcome (r, s')).status.Resolved _ := resolved_outcome hrest
      exact hresolved.resolved
    | stopped h =>
      cases h with
      | unfound => cases List.mem_singleton.mp hlisted
      | unreadable => cases List.mem_singleton.mp hlisted
      | unlisted _ _ hnone =>
        obtain hfirst | hlisted := List.mem_cons.mp hlisted
        · cases hfirst
        · cases List.mem_singleton.mp hlisted
          exact absurd hmanifests (hnone _ _ rfl)

/-- **Errors of manifests are complete, and they block.**  Whatever secrets a pass has listed, it
resolves their manifests, and calls the installer, if and only if all keys of all of them are
manifest paths.  Otherwise it stops there: its error names exactly the keys that are none, it
tells so, the template that it has bound stays, and it is to be repeated. -/
theorem manifests_checked (hrun : Runs (p.run start) log (some o))
    (hlisted : ⟨.listSecrets ns selector, ⟨.answered secrets, now⟩⟩ ∈ log) :
    (o.status.isTrue .manifestsResolved = true ↔ AllManifests secrets) ∧
    ((∃ inputs reply, ⟨.generateBootConfig inputs, reply⟩ ∈ log) ↔ AllManifests secrets) ∧
    (¬AllManifests secrets → p.Blocked secrets log o) := by
  obtain ⟨r, s', hwalk, rfl⟩ := exists_walked hrun
  obtain ⟨hinit, hprovisions⟩ := provisions_of_listed (goes_walk log r s' hwalk) hlisted
  obtain ⟨errors, install, bindTime, herrors, rfl, hbound, hlookups⟩ |
      ⟨manifests, install, hmanifests, ⟨reply, hcalled⟩, -⟩ := listed_cases hprovisions hlisted
  · obtain ⟨hnot, rfl⟩ := collectManifests_error_iff.mp herrors
    have hblocked : p.Blocked secrets log _ := blocked_outcome hlookups hbound
    refine ⟨iff_of_false ?_ hnot, iff_of_false ?_ hnot, fun _ => hblocked⟩
    · obtain ⟨error, -, htold⟩ := hblocked.told
      rw [Status.isTrue, ConditionSet.isTrue, Status.hasStatus_iff_of_told htold]
      exact (by decide : ConditionStatus.text .fails ≠ ConditionStatus.text .holds)
    · rintro ⟨inputs, reply, hmem⟩
      cases hlookups _ hmem
  · have hall := allManifests_of_collect hmanifests
    exact ⟨iff_of_true (resolved_of_collect hinit hwalk hlisted hmanifests) hall,
      iff_of_true ⟨_, reply, hcalled⟩ hall, fun hnot => absurd hall hnot⟩

/-- Two keys of the second secret are named, and none of the first. -/
theorem manifests_checked_stray : ∃ log o, Runs (Demo.selectingPass.run ⟨0, 0⟩) log (some o) ∧
    Demo.selectingPass.Blocked (Demo.secretsWith Demo.stray) log o ∧
      offending (Demo.secretsWith Demo.stray) =
        [("demo-more", "manifests/"), ("demo-more", "scripts/demo.sh")] := by
  have hrun := Program.runs_trace Demo.answerCall (Demo.selectingPass.run ⟨0, 0⟩)
    (Demo.worldWith Demo.stray)
  have hlistings : Demo.secretsWith Demo.stray ∈ listings (Demo.callsWith Demo.stray) := by
    decide +kernel
  obtain ⟨ns, selector, now, hlisted⟩ := exists_of_listings hlistings
  have hoffending : offending (Demo.secretsWith Demo.stray) =
      [("demo-more", "manifests/"), ("demo-more", "scripts/demo.sh")] := by decide +kernel
  refine ⟨_, _, hrun, (manifests_checked hrun hlisted).2.2 ?_, hoffending⟩
  rw [← offending_eq_nil_iff, hoffending]
  exact List.cons_ne_nil _ _

/-- **What becomes of the manifests of a secret.**  A pass that goes on to the installer hands over,
under every path, the contents that the last of the listed secrets with that path holds, and it
hands over no other paths.  So nothing that a secret holds is lost if and only if the secrets agree
on the paths that they share. -/
theorem manifests_kept_iff {reply : (Call.generateBootConfig inputs).Reply}
    (hrun : Runs (p.run start) log (some o))
    (hlisted : ⟨.listSecrets ns selector, ⟨.answered secrets, now⟩⟩ ∈ log)
    (hcalled : ⟨.generateBootConfig inputs, reply⟩ ∈ log) :
    (∀ path contents, inputs.manifests.get? path = some contents ↔
      LastHolds secrets path contents) ∧
    (∀ path, inputs.manifests.contains path = true ↔
      ∃ secret ∈ secrets, secret.data.contains path = true) ∧
    ((∀ secret ∈ secrets, ∀ path contents, secret.data.get? path = some contents →
        inputs.manifests.get? path = some contents) ↔ Agree secrets) := by
  obtain ⟨r, s', hwalk, rfl⟩ := exists_walked hrun
  obtain ⟨-, hprovisions⟩ := provisions_of_listed (goes_walk log r s' hwalk) hlisted
  obtain ⟨errors, install, bindTime, -, -, -, hlookups⟩ |
      ⟨manifests, install, hmanifests, -, hinputs⟩ := listed_cases hprovisions hlisted
  · cases hlookups _ hcalled
  · cases hinputs inputs reply hcalled
    have hheld : ∀ path contents, (p.inputs install manifests).manifests.get? path = some contents ↔
        LastHolds secrets path contents := fun path contents => get?_collected_iff hmanifests
    refine ⟨hheld, fun path => ?_, ?_⟩
    · rw [← exists_lastHolds_iff, Table.contains, Option.isSome_iff_exists]
      exact exists_congr (hheld path)
    · rw [← lastHolds_iff_agree]
      simp only [hheld]

/-- Of two secrets with different contents under one path a pass hands over those of the
second. -/
theorem exists_contested : ∃ log o ns selector now inputs reply,
    Runs (Demo.selectingPass.run ⟨0, 0⟩) log (some o) ∧
      ⟨.listSecrets ns selector, ⟨.answered (Demo.secretsWith Demo.contested), now⟩⟩ ∈ log ∧
      ⟨.generateBootConfig inputs, reply⟩ ∈ log ∧ inputs.manifests = Demo.contested := by
  have hrun := Program.runs_trace Demo.answerCall (Demo.selectingPass.run ⟨0, 0⟩)
    (Demo.worldWith Demo.contested)
  have hlistings : Demo.secretsWith Demo.contested ∈ listings (Demo.callsWith Demo.contested) := by
    decide +kernel
  have hhanded : Demo.contested ∈ handed (Demo.callsWith Demo.contested) := by decide +kernel
  obtain ⟨ns, selector, now, hlisted⟩ := exists_of_listings hlistings
  obtain ⟨inputs, reply, hcalled, hmanifests⟩ := exists_of_handed hhanded
  exact ⟨_, _, ns, selector, now, inputs, reply, hrun, hlisted, hcalled, hmanifests⟩

/-- The last secret with the path has its contents handed over, and the secrets do not agree. -/
theorem manifests_kept_iff_contested : ∃ log o inputs reply,
    Runs (Demo.selectingPass.run ⟨0, 0⟩) log (some o) ∧ ⟨.generateBootConfig inputs, reply⟩ ∈ log ∧
      LastHolds (Demo.secretsWith Demo.contested) "manifests/demo.yaml" [3] ∧
      ¬Agree (Demo.secretsWith Demo.contested) := by
  obtain ⟨log, o, ns, selector, now, inputs, reply, hrun, hlisted, hcalled, hmanifests⟩ :=
    exists_contested
  obtain ⟨hlast, -, hkept⟩ := manifests_kept_iff hrun hlisted hcalled
  rw [hmanifests] at hlast hkept
  refine ⟨log, o, inputs, reply, hrun, hcalled, (hlast _ _).mp (by decide +kernel), ?_⟩
  rw [← hkept]
  intro hall
  have hfirst : Demo.contested.get? "manifests/demo.yaml" = some [2] :=
    hall _ List.mem_cons_self _ _ (by decide +kernel)
  revert hfirst
  decide +kernel

/-- A pass goes on to the installer without the manifest of a secret that it has listed. -/
theorem manifest_overwritten : ∃ log o ns selector secrets now inputs reply,
    Runs (Demo.selectingPass.run ⟨0, 0⟩) log (some o) ∧
      ⟨.listSecrets ns selector, ⟨.answered secrets, now⟩⟩ ∈ log ∧
      ⟨.generateBootConfig inputs, reply⟩ ∈ log ∧
      ∃ secret ∈ secrets, ∃ path contents, secret.data.get? path = some contents ∧
        inputs.manifests.get? path ≠ some contents := by
  obtain ⟨log, o, ns, selector, now, inputs, reply, hrun, hlisted, hcalled, hmanifests⟩ :=
    exists_contested
  refine ⟨log, o, ns, selector, _, now, inputs, reply, hrun, hlisted, hcalled, _,
    List.mem_cons_self, "manifests/demo.yaml", [2], by decide +kernel, ?_⟩
  rw [hmanifests]
  decide +kernel

end Pass

end ControlPlane
