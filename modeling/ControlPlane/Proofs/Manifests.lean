/-
The manifests that a pass resolves.

`Resolves` is what a pass comes to in a state of the cluster API, if its look-ups are
answered.  After the controller's own writes a pass comes to manifests again exactly if no
secret of inputs has come to be found by its selector, since the keys of such a secret are
no manifest paths.  They are the same manifests exactly if those that are found again still
make them up: a secret of the user's own may be lost to the selector once it holds inputs.
-/
import ControlPlane.Proofs.Plays
import ControlPlane.Proofs.Rules

namespace ControlPlane

open Kubernetes

/-! ### Specs -/

/-- The name of an accepted secret is one that the API takes. -/
theorem isName_of_checkSecretName {field name : String} (h : checkSecretName field name = .ok ()) :
    IsName name := by
  unfold checkSecretName at h
  dsimp only at h
  split at h
  · cases h
  rename_i hempty
  split at h
  · cases h
  split at h
  · cases h
  rename_i hall
  exact ⟨by simpa using hempty, by simpa using hall⟩

namespace Pass

variable {p : Pass} {bound : Option MachineTemplate}

/-- A pass over a spec that is not refused binds a template over which it is not refused. -/
theorem judge_bound (h : p.judge bound = .ok ()) :
    p.judge (some (bound.getD p.resource.spec.template)) = .ok () := by
  cases bound with
  | some t => exact h
  | none =>
    obtain ⟨haccepted, -⟩ := judge_eq_ok_iff.mp h
    exact judge_eq_ok_iff.mpr ⟨haccepted,
      checkTemplateUpdate_ok_iff.mpr (SpecRule.equivalent_self_of_accepted haccepted)⟩

theorem isName_of_accepted (h : p.judge bound = .ok ()) :
    IsName p.resource.spec.installState.name := by
  obtain ⟨hname, -⟩ := specErrors_eq_nil_iff_parts.mp (judge_eq_ok_iff.mp h).1
  cases hcheck : checkSecretName "spec.installStateSecretRef.name"
    p.resource.spec.installState.name with
  | ok u => exact isName_of_checkSecretName hcheck
  | error e =>
    rw [hcheck] at hname
    cases hname

end Pass

/-! ### Manifests of secrets -/

theorem Table.mem_keys_of_contains {κ α : Type} [LT κ] [DecidableEq κ] [KeyOrder κ]
    {t : Table κ α} {k : κ} (h : t.contains k = true) : k ∈ t.keys := by
  obtain ⟨v, hv⟩ := Option.isSome_iff_exists.mp h
  exact List.mem_map.mpr ⟨(k, v), get?_eq_some_iff.mp hv, rfl⟩

/-- Secrets hold manifests if and only if all their keys are manifest paths. -/
theorem exists_collect_iff {secrets : List NamedSecret} :
    (∃ m, Pass.collectManifests secrets = .ok m) ↔
      ∀ secret ∈ secrets, ∀ key ∈ secret.data.keys, isManifestPath key = true := by
  have herrors : (secrets.flatMap fun s => manifestErrors s.name s.data.keys) = [] ↔
      ∀ secret ∈ secrets, ∀ key ∈ secret.data.keys, isManifestPath key = true := by
    simp [manifestErrors, List.flatMap_eq_nil_iff]
  rw [← herrors]
  unfold Pass.collectManifests
  split
  · rename_i h
    simp [h]
  · rename_i hne
    simp only [reduceCtorEq, exists_false, false_iff]
    exact hne

/-- Inputs are no manifests. -/
theorem not_collect_of_holdsInputs {secrets : List NamedSecret} {secret : NamedSecret}
    {m : Table String Bytes} (hmem : secret ∈ secrets) (hinputs : HoldsInputs secret.data) :
    Pass.collectManifests secrets ≠ .ok m := by
  intro h
  have hpath := exists_collect_iff.mp ⟨m, h⟩ secret hmem _ (Table.mem_keys_of_contains hinputs.1)
  revert hpath
  decide

theorem mem_namedSecrets {t : Table String StoredSecret} {name : String} {secret : StoredSecret}
    (h : t.get? name = some secret) : ⟨name, secret.labels, secret.data⟩ ∈ namedSecrets t :=
  List.mem_map.mpr ⟨(name, secret), Table.get?_eq_some_iff.mp h, rfl⟩

/-- Secrets that are left of some that hold manifests hold manifests. -/
theorem exists_collect_filterKeys {t : Table String StoredSecret} {p : String → Bool}
    {m : Table String Bytes} (h : Pass.collectManifests (namedSecrets t) = .ok m) :
    ∃ m', Pass.collectManifests (namedSecrets (t.filterKeys p)) = .ok m' := by
  rw [exists_collect_iff]
  intro secret hmem
  obtain ⟨e, he, rfl⟩ := List.mem_map.mp hmem
  exact exists_collect_iff.mp ⟨m, h⟩ _ (List.mem_map.mpr ⟨e, (List.mem_filter.mp he).1, rfl⟩)

/-! ### What is found again -/

section Found

variable {σ : Type} {api : Api σ} {s s' : σ} {ns : String} {selector : Selector}
  {m : Table String Bytes}

/-- No secret of inputs is found later but as it was found before. -/
def Kubernetes.Api.Undisturbed (api : Api σ) (s s' : σ) (ns : String) (selector : Selector) :
    Prop :=
  ∀ cluster secret,
    (api.matching s' ns selector).get? (Cluster.inputsSecret cluster) = some secret →
      (api.matching s ns selector).get? (Cluster.inputsSecret cluster) = some secret

/-- The secrets that were found before, as far as they are found later. -/
def Kubernetes.Api.foundAgain (api : Api σ) (s s' : σ) (ns : String) (selector : Selector) :
    Table String StoredSecret :=
  (api.matching s ns selector).filterKeys (api.matching s' ns selector).contains

/-- All that is found later was found before, if that is so of the secrets of inputs. -/
theorem matching_eq_foundAgain (hover : api.Overwrites s s')
    (h : api.Undisturbed s s' ns selector) :
    api.matching s' ns selector = api.foundAgain s s' ns selector := by
  refine Table.eq_filterKeys ?_
  intro name secret hfound
  rcases hover ns name with hsame | ⟨cluster, written, rfl, -, -⟩
  · unfold Api.matching Api.chosen at hfound ⊢
    rw [Table.get?_select, hsame] at hfound
    exact Table.get?_select.mpr hfound
  · exact h cluster secret hfound

/-- A secret of inputs that has come to be found is no manifest. -/
theorem undisturbed_of_collect (hover : api.Overwrites s s')
    (h : Pass.collectManifests (namedSecrets (api.matching s' ns selector)) = .ok m) :
    api.Undisturbed s s' ns selector := by
  intro cluster secret hfound
  have hkept := hfound
  unfold Api.matching Api.chosen at hkept ⊢
  obtain ⟨hstored, haccepted⟩ := Table.get?_select.mp hkept
  rcases hover ns (Cluster.inputsSecret cluster) with hsame | ⟨_, written, -, hwritten, hinputs⟩
  · exact Table.get?_select.mpr ⟨hsame ▸ hstored, haccepted⟩
  · rw [hwritten] at hstored
    cases hstored
    exact absurd h (not_collect_of_holdsInputs (mem_namedSecrets hfound) hinputs)

/-- After the controller's own writes, the secrets that are found hold some manifests if and
only if no secret of inputs has come to be found. -/
theorem collect_matching_iff (hover : api.Overwrites s s') :
    Pass.collectManifests (namedSecrets (api.matching s' ns selector)) = .ok m ↔
      api.Undisturbed s s' ns selector ∧
        Pass.collectManifests (namedSecrets (api.foundAgain s s' ns selector)) = .ok m := by
  constructor
  · intro h
    have hundisturbed := undisturbed_of_collect hover h
    rw [← matching_eq_foundAgain hover hundisturbed]
    exact ⟨hundisturbed, h⟩
  · rintro ⟨hundisturbed, h⟩
    rw [matching_eq_foundAgain hover hundisturbed]
    exact h

end Found

/-! ### What a pass resolves -/

section Resolving

variable {σ : Type} {api : Api σ} {s s' : σ} {ns : String} {spec : Spec} {log : Effects} {p : Pass}
  {looks rest : Calls} {found : Option (Table String Bytes)} {m : Table String Bytes}

/-- There is something to install from. -/
def Kubernetes.Api.Installable (api : Api σ) (s : σ) (ns : String) (spec : Spec) : Prop :=
  ∃ secret install, (api.secrets s ns).get? spec.installState.name = some secret ∧
    InstallState.ofSecret spec.installState.name secret.data = .ok install

/-- The manifests that a pass comes to in a state of the API, if its look-ups are answered. -/
inductive Kubernetes.Api.Resolves (api : Api σ) (s : σ) (ns : String) (spec : Spec) :
    Table String Bytes → Prop where
  | defaults (hinstall : api.Installable s ns spec)
      (hquery : ControlPlane.manifestsQuery spec = .ok none) : Resolves api s ns spec .empty
  | selected {selector : Selector} {m : Table String Bytes} (hinstall : api.Installable s ns spec)
      (hquery : ControlPlane.manifestsQuery spec = .ok (some selector))
      (hcollect : Pass.collectManifests (namedSecrets (api.matching s ns selector)) = .ok m) :
      Resolves api s ns spec m

theorem Kubernetes.Api.Resolves.installable (h : api.Resolves s ns spec m) :
    api.Installable s ns spec := by
  cases h with
  | defaults hinstall _ => exact hinstall
  | selected hinstall _ _ => exact hinstall

theorem Kubernetes.Api.Resolves.exists_query (h : api.Resolves s ns spec m) :
    ∃ query, ControlPlane.manifestsQuery spec = .ok query := by
  cases h with
  | defaults _ hquery => exact ⟨_, hquery⟩
  | selected _ hquery _ => exact ⟨_, hquery⟩

theorem resolves_defaults_iff (hquery : ControlPlane.manifestsQuery spec = .ok none) :
    api.Resolves s ns spec m ↔ api.Installable s ns spec ∧ m = .empty := by
  constructor
  · intro h
    cases h with
    | defaults hinstall _ => exact ⟨hinstall, rfl⟩
    | selected _ hquery' _ =>
      rw [hquery] at hquery'
      cases hquery'
  · rintro ⟨hinstall, rfl⟩
    exact .defaults hinstall hquery

theorem resolves_selected_iff {selector : Selector}
    (hquery : ControlPlane.manifestsQuery spec = .ok (some selector)) :
    api.Resolves s ns spec m ↔ api.Installable s ns spec ∧
      Pass.collectManifests (namedSecrets (api.matching s ns selector)) = .ok m := by
  constructor
  · intro h
    cases h with
    | defaults _ hquery' =>
      rw [hquery] at hquery'
      cases hquery'
    | selected hinstall hquery' hcollect =>
      rw [hquery] at hquery'
      cases hquery'
      exact ⟨hinstall, hcollect⟩
  · rintro ⟨hinstall, hcollect⟩
    exact .selected hinstall hquery hcollect

/-- The installer can start from the inputs of a cluster. -/
theorem exists_ofSecret_of_holdsInputs {name : String} {data : SecretData} (h : HoldsInputs data) :
    ∃ install, InstallState.ofSecret name data = .ok install := by
  unfold InstallState.ofSecret
  refine ⟨_, if_neg ?_⟩
  dsimp only
  rw [Bool.and_eq_true]
  rintro ⟨hconfig, hstate⟩
  rcases h.2 with hkey | hkey
  · rw [Table.contains, Option.isNone_iff_eq_none.mp hconfig] at hkey
    cases hkey
  · rw [Table.contains, Option.isNone_iff_eq_none.mp hstate] at hkey
    cases hkey

/-- What there is to install from outlives the controller's own writes. -/
theorem installable_of_overwrites (hover : api.Overwrites s s') (h : api.Installable s ns spec) :
    api.Installable s' ns spec := by
  obtain ⟨secret, install, hget, hinstall⟩ := h
  rcases hover ns spec.installState.name with hsame | ⟨-, written, -, hwritten, hinputs⟩
  · exact ⟨secret, install, hsame.trans hget, hinstall⟩
  · obtain ⟨install', hinstall'⟩ := exists_ofSecret_of_holdsInputs hinputs
    exact ⟨written, install', hwritten, hinstall'⟩

theorem Pass.Resolution.isLookup (h : p.Resolution looks found) :
    ∀ e ∈ looks, e.1.isLookup = true := by
  cases h <;> simp [Pass.lookup, Call.isLookup]

/-- What a pass looks up is what is kept at its start. -/
theorem lookup_eq (hlaw : api.Lawful) (hns : IsName p.ns)
    (hname : IsName p.resource.spec.installState.name) (hplays : api.Plays log s s')
    {reply : p.lookup.Reply} {more : Calls} (hlog : Effects.calls log = ⟨p.lookup, reply⟩ :: more)
    {answer : Option SecretData} (hanswer : reply.outcome = .answered answer) :
    answer = ((api.secrets s p.ns).get? p.resource.spec.installState.name).map (·.data) := by
  have hfirst : Effects.calls log = [] ++ ⟨p.lookup, reply⟩ :: more := hlog
  obtain ⟨s₁, s₂, hsame, hcarried⟩ := hplays.carried hlaw hfirst (by simp)
  rw [hanswer] at hcarried
  rw [← hsame]
  exact getSecret_answered hlaw hns hname hcarried

/-- What a pass lists is what its selector finds at its start. -/
theorem list_eq (hlaw : api.Lawful) (hns : IsName p.ns) (hplays : api.Plays log s s')
    {first : p.lookup.Reply} {selector : Selector} {reply : (Call.listSecrets p.ns selector).Reply}
    {more : Calls}
    (hlog : Effects.calls log = ⟨p.lookup, first⟩ :: ⟨.listSecrets p.ns selector, reply⟩ :: more)
    {answer : List NamedSecret} (hanswer : reply.outcome = .answered answer) :
    answer = namedSecrets (api.matching s p.ns selector) := by
  have hquiet : ∀ e ∈ ([⟨p.lookup, first⟩] : Calls), ∀ i, e.1 ≠ .generateBootConfig i := by
    intro e he i
    rw [List.mem_singleton.mp he]
    exact fun heq => by cases heq
  obtain ⟨s₁, s₂, hsame, hcarried⟩ := hplays.carried hlaw hlog hquiet
  rw [hanswer] at hcarried
  rw [listSecrets_answered hlaw hns hcarried]
  unfold Api.matching Api.chosen
  rw [hsame]

/-- What the look-ups of a pass have come to is what the API holds for them. -/
theorem resolves_of_resolution (hlaw : api.Lawful) (hns : IsName p.ns)
    (hname : IsName p.resource.spec.installState.name) (hplays : api.Plays log s s')
    (hlog : Effects.calls log = looks ++ rest) (h : p.Resolution looks (some m)) :
    api.Resolves s p.ns p.resource.spec m := by
  have hinstallable : ∀ {data install now more},
      Effects.calls log = ⟨p.lookup, ⟨.answered (some data), now⟩⟩ :: more →
      InstallState.ofSecret p.resource.spec.installState.name data = .ok install →
      api.Installable s p.ns p.resource.spec := by
    intro data install now more hlog hinstall
    have hdata := lookup_eq hlaw hns hname hplays hlog rfl
    obtain ⟨secret, hget, rfl⟩ := Option.map_eq_some_iff.mp hdata.symm
    exact ⟨secret, install, hget, hinstall⟩
  cases h with
  | defaults hinstall hquery => exact .defaults (hinstallable hlog hinstall) hquery
  | listed hinstall hquery hcollect =>
    refine .selected (hinstallable hlog hinstall) hquery ?_
    rw [← list_eq hlaw hns hplays hlog rfl]
    exact hcollect

/-- A pass whose look-ups are answered comes to what the API holds for them. -/
theorem found_of_resolves (hlaw : api.Lawful) (hns : IsName p.ns)
    (hname : IsName p.resource.spec.installState.name) (hplays : api.Plays log s s')
    (hlog : Effects.calls log = looks ++ rest) (h : p.Resolution looks found)
    (hanswered : ∀ e ∈ looks, ∃ a, e.2.outcome = .answered a)
    (hresolves : api.Resolves s p.ns p.resource.spec m) : found = some m := by
  have hread : ∀ {reply more}, Effects.calls log = ⟨p.lookup, reply⟩ :: more →
      (∃ answer, reply.outcome = .answered answer) → ∃ data install,
        reply.outcome = .answered (some data) ∧
          InstallState.ofSecret p.resource.spec.installState.name data = .ok install := by
    rintro reply more hlog ⟨answer, hanswer⟩
    obtain ⟨secret, install, hget, hinstall⟩ := hresolves.installable
    have hkept := lookup_eq hlaw hns hname hplays hlog hanswer
    rw [hget, Option.map_some] at hkept
    subst hkept
    exact ⟨secret.data, install, hanswer, hinstall⟩
  cases h with
  | unfound hnone =>
    obtain ⟨data, install, hanswer, hinstall⟩ := hread hlog (hanswered _ List.mem_cons_self)
    exact absurd hinstall (hnone data install hanswer)
  | unreadable _ hquery =>
    obtain ⟨query, hreadable⟩ := hresolves.exists_query
    rw [hquery] at hreadable
    cases hreadable
  | defaults _ hquery => rw [((resolves_defaults_iff hquery).mp hresolves).2]
  | unlisted _ hquery hnone =>
    obtain ⟨-, hcollect⟩ := (resolves_selected_iff hquery).mp hresolves
    obtain ⟨secrets, hanswer⟩ := hanswered _ (List.mem_cons_of_mem _ List.mem_cons_self)
    rw [← list_eq hlaw hns hplays hlog hanswer] at hcollect
    exact absurd hcollect (hnone secrets m hanswer)
  | listed _ hquery hcollected =>
    obtain ⟨-, hcollect⟩ := (resolves_selected_iff hquery).mp hresolves
    rw [← list_eq hlaw hns hplays hlog rfl, hcollected] at hcollect
    cases hcollect
    rfl

/-- After the controller's own writes some manifests are resolved again exactly if no secret of
inputs has come to be found. -/
theorem exists_resolves_iff (hover : api.Overwrites s s') (h : api.Resolves s ns spec m) :
    (∃ m', api.Resolves s' ns spec m') ↔
      ∀ selector, ControlPlane.manifestsQuery spec = .ok (some selector) →
        api.Undisturbed s s' ns selector := by
  have hinstall := installable_of_overwrites hover h.installable
  cases h with
  | defaults _ hquery =>
    refine ⟨fun _ selector hselector => ?_, fun _ => ⟨_, .defaults hinstall hquery⟩⟩
    rw [hquery] at hselector
    cases hselector
  | @selected selector m _ hquery hcollect =>
    constructor
    · rintro ⟨m', h'⟩ selector' hselector
      rw [hquery] at hselector
      cases hselector
      exact undisturbed_of_collect hover ((resolves_selected_iff hquery).mp h').2
    · intro hundisturbed
      obtain ⟨m', hm'⟩ := exists_collect_filterKeys (p := (api.matching s' ns selector).contains)
        hcollect
      exact ⟨m', .selected hinstall hquery
        ((collect_matching_iff hover).mpr ⟨hundisturbed selector hquery, hm'⟩)⟩

/-- They are the same exactly if, besides, those that are found again still make them up. -/
theorem resolves_iff (hover : api.Overwrites s s') (h : api.Resolves s ns spec m) :
    api.Resolves s' ns spec m ↔
      ∀ selector, ControlPlane.manifestsQuery spec = .ok (some selector) →
        api.Undisturbed s s' ns selector ∧
          Pass.collectManifests (namedSecrets (api.foundAgain s s' ns selector)) = .ok m := by
  have hinstall := installable_of_overwrites hover h.installable
  cases h with
  | defaults _ hquery =>
    refine ⟨fun _ selector hselector => ?_, fun _ => .defaults hinstall hquery⟩
    rw [hquery] at hselector
    cases hselector
  | @selected selector m _ hquery hcollect =>
    rw [resolves_selected_iff hquery, and_iff_right hinstall, collect_matching_iff hover]
    constructor
    · intro h' selector' hselector
      rw [hquery] at hselector
      cases hselector
      exact h'
    · exact fun hall => hall selector hquery

end Resolving

end ControlPlane
