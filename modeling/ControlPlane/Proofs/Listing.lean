/-
Which secrets the store lists.

What a store holds is the work of its history: secrets that were added, each in place of one of its
name, and secrets that were removed.  Changes of different secrets do not meet, so the last change
of a key decides on it (`get?_after`), and the order between keys is of no account (`after_congr`).
A secret stands under its own name, which is what sorts a listing by name; the rest of the law of
`list` is the law of the selector.
-/
import ControlPlane.InMemory.SecretStore
import ControlPlane.Proofs.Selectors
import Mathlib.Data.List.Induction

namespace ControlPlane

namespace InMemory.SecretStore

/-- A change of what a store holds. -/
inductive Change where
  | add (ns : String) (secret : NamedSecret)
  | remove (ns name : String)
deriving DecidableEq

/-- The key of the secret that changes. -/
def Change.key : Change → ObjectKey
  | .add ns secret => ⟨ns, secret.name⟩
  | .remove ns name => ⟨ns, name⟩

/-- The store after a change. -/
def apply (s : SecretStore) : Change → SecretStore
  | .add ns secret => s.add ns secret
  | .remove ns name => s.remove ns name

/-- The store after some changes, one after the other. -/
def after (s : SecretStore) (changes : List Change) : SecretStore := changes.foldl apply s

/-- The changes of one secret. -/
def changesOf (key : ObjectKey) (changes : List Change) : List Change :=
  changes.filter fun c => c.key = key

/-- The last change of a secret was that it was added as it is. -/
def Held (changes : List Change) (ns : String) (secret : NamedSecret) : Prop :=
  (changesOf ⟨ns, secret.name⟩ changes).getLast? = some (.add ns secret)

instance {changes : List Change} {ns : String} {secret : NamedSecret} :
    Decidable (Held changes ns secret) :=
  inferInstanceAs (Decidable (_ = _))

variable {s : SecretStore} {changes changes' : List Change} {c : Change} {key : ObjectKey}
  {ns name : String} {secret : NamedSecret} {q : Selector}

/-! ### What a store holds -/

theorem held_concat_of_eq (h : c.key = ⟨ns, secret.name⟩) :
    Held (changes ++ [c]) ns secret ↔ c = .add ns secret := by
  simp [Held, changesOf, h]

theorem held_concat_of_ne (h : c.key ≠ ⟨ns, secret.name⟩) :
    Held (changes ++ [c]) ns secret ↔ Held changes ns secret := by
  simp [Held, changesOf, h]

/-- A change sets its own key, to the secret that was added or to none. -/
theorem get?_apply_of_eq (h : c.key = key) : (s.apply c).secrets.get? key = some secret ↔
    c = .add key.ns secret := by
  subst h
  cases c with
  | add ns added => simp [apply, add, Change.key, Table.get?_insert]
  | remove ns name => simp [apply, remove, Change.key, Table.get?_erase]

theorem get?_apply_of_ne (h : c.key ≠ key) :
    (s.apply c).secrets.get? key = s.secrets.get? key := by
  cases c with
  | add ns added => exact (Table.get?_insert ..).trans (if_neg (Ne.symm h))
  | remove ns name => exact (Table.get?_erase ..).trans (if_neg (Ne.symm h))

/-- The last change of a key decides on it, and a secret stands under its own name. -/
theorem get?_after : (empty.after changes).secrets.get? ⟨ns, name⟩ = some secret ↔
    secret.name = name ∧ Held changes ns secret := by
  induction changes using List.reverseRecOn with
  | nil => simp [after, empty, Held, changesOf]
  | append_singleton changes c ih =>
    have hlast : empty.after (changes ++ [c]) = (empty.after changes).apply c := by simp [after]
    rw [hlast]
    by_cases hkey : c.key = ⟨ns, name⟩
    · rw [get?_apply_of_eq hkey]
      constructor
      · rintro rfl
        obtain rfl : secret.name = name := by simpa [Change.key] using hkey
        exact ⟨rfl, (held_concat_of_eq rfl).mpr rfl⟩
      · rintro ⟨rfl, hheld⟩
        exact (held_concat_of_eq hkey).mp hheld
    · rw [get?_apply_of_ne hkey, ih]
      refine and_congr_right ?_
      rintro rfl
      exact (held_concat_of_ne hkey).symm

/-- Changes of different secrets may come in any order. -/
theorem after_congr (h : ∀ key, changesOf key changes' = changesOf key changes) :
    (empty.after changes').secrets = (empty.after changes).secrets := by
  refine Table.ext ?_
  rintro ⟨ns, name⟩
  refine Option.ext fun secret => ?_
  simp only [get?_after, Held, h]

/-- So may all changes, if no two are of one secret. -/
theorem changesOf_eq_of_perm (hperm : changes'.Perm changes)
    (hkeys : (changes.map Change.key).Nodup) (key : ObjectKey) :
    changesOf key changes' = changesOf key changes := by
  have hsame : (changesOf key changes).map Change.key =
      List.replicate (changesOf key changes).length key := by
    refine List.eq_replicate_iff.mpr ⟨by simp, ?_⟩
    intro k hk
    obtain ⟨c, hc, rfl⟩ := List.mem_map.mp hk
    simpa using (List.mem_filter.mp hc).2
  have hone : (changesOf key changes).length ≤ 1 := by
    rw [← List.nodup_replicate (a := key), ← hsame]
    exact hkeys.sublist (List.filter_sublist.map _)
  have hfiltered : (changesOf key changes').Perm (changesOf key changes) := hperm.filter _
  cases hof : changesOf key changes with
  | nil =>
    rw [hof] at hfiltered
    exact hfiltered.eq_nil
  | cons c rest =>
    rw [hof, List.length_cons] at hone
    obtain rfl : rest = [] := List.length_eq_zero_iff.mp (by omega)
    rw [hof] at hfiltered
    exact List.perm_singleton.mp hfiltered

/-! ### What is listed -/

/-- The secrets of a namespace that a selector accepts. -/
def accepted (s : SecretStore) (ns : String) (q : Selector) : List NamedSecret :=
  (s.secrets.entries.filter fun e => e.1.ns = ns && q.holds e.2.labels).map (·.2)

theorem list_eq (h : s.unavailable = false) : s.list ns q = .ok (s.accepted ns q) := by
  simp [list, guarded, h, accepted]

theorem mem_accepted : secret ∈ s.accepted ns q ↔
    (∃ name, s.secrets.get? ⟨ns, name⟩ = some secret) ∧ q.holds secret.labels = true := by
  simp only [accepted, List.mem_map, List.mem_filter, Bool.and_eq_true, decide_eq_true_eq,
    Table.get?_eq_some_iff]
  constructor
  · rintro ⟨⟨⟨ns, name⟩, secret⟩, ⟨hmem, rfl, hholds⟩, rfl⟩
    exact ⟨⟨name, hmem⟩, hholds⟩
  · rintro ⟨⟨name, hmem⟩, hholds⟩
    exact ⟨(⟨ns, name⟩, secret), ⟨hmem, rfl, hholds⟩, rfl⟩

/-- Secrets that stand under their own names are listed in the order of these. -/
theorem pairwise_accepted
    (hnamed : ∀ name secret, s.secrets.get? ⟨ns, name⟩ = some secret → secret.name = name) :
    (s.accepted ns q).Pairwise fun a b => a.name < b.name := by
  have hname : ∀ e ∈ s.secrets.entries, e.1.ns = ns → e.2.name = e.1.name := by
    rintro ⟨⟨ns, name⟩, secret⟩ hmem rfl
    exact hnamed name secret (Table.get?_eq_some_iff.mpr hmem)
  rw [accepted, List.pairwise_map]
  refine (List.Pairwise.and_mem.mp (s.secrets.sorted.filter _)).imp ?_
  rintro a b ⟨ha, hb, hlt⟩
  simp only [List.mem_filter, Bool.and_eq_true, decide_eq_true_eq] at ha hb
  rw [hname a ha.1 ha.2.1, hname b hb.1 hb.2.1]
  rcases ObjectKey.lt_iff.mp hlt with hspace | ⟨-, hnames⟩
  · rw [ha.2.1, hb.2.1] at hspace
    exact absurd hspace (KeyOrder.irrefl ns)
  · exact hnames

/-- **The secrets that are listed are those that are asked for.**  A selector that can be read
makes no query exactly if it has neither labels nor requirements.  The query of any other lists,
of a store that can be reached and whatever was added to it and removed from it, each secret of
the namespace that is held and that the selector accepts: as it was last added, once, and in the
order of the names.  The order in which different secrets were changed makes no difference. -/
theorem selected_secrets_listed {s : Spec} {w : LabelSelector} {q : Selector}
    (hset : s.manifestsSelector = some w) (hread : w.selector = .ok q) :
    (manifestsQuery s = .ok none ↔ w.pairs = [] ∧ w.requirements = []) ∧
    (¬ (w.pairs = [] ∧ w.requirements = []) → manifestsQuery s = .ok (some q)) ∧
    ∀ (store : SecretStore) (changes : List Change) (ns : String), store.unavailable = false →
      store.secrets = (empty.after changes).secrets →
      ∃ found, store.list ns q = .ok found ∧
        (∀ secret, secret ∈ found ↔ Held changes ns secret ∧ w.Accepts secret.labels) ∧
        (found.Pairwise fun a b => a.name < b.name) ∧
        ∀ (store' : SecretStore) (changes' : List Change), store'.unavailable = false →
          store'.secrets = (empty.after changes').secrets →
          (∀ key, changesOf key changes' = changesOf key changes) → store'.list ns q = .ok found := by
  rw [manifestsQuery_of_read hset hread, ← LabelSelector.selectsAll_iff hread]
  refine ⟨by simp, by simp +contextual, fun store changes ns havailable hholds => ?_⟩
  refine ⟨store.accepted ns q, list_eq havailable, fun secret => ?_, ?_, ?_⟩
  · rw [mem_accepted, LabelSelector.holds_iff hread, hholds]
    simp [get?_after]
  · refine pairwise_accepted fun name secret hget => ?_
    rw [hholds] at hget
    exact (get?_after.mp hget).1
  · intro store' changes' havailable' hholds' hsame
    rw [list_eq havailable', accepted, accepted, hholds', hholds, after_congr hsame]

/-- Of a store with a secret that is asked for, one without the label and one of another
namespace, the first is listed, and the order in which they came does not matter. -/
theorem selected_secrets_listed_reversed :
    let w : LabelSelector :=
      ⟨some (.ofList [("app", "demo")]), some [⟨"tier", "NotIn", some ["old"]⟩]⟩
    let q : Selector := ⟨[.equal "app" "demo", .notIn "tier" ["old"]]⟩
    let manifests : NamedSecret :=
      ⟨"demo-manifests", .ofList [("app", "demo")], .ofList [("manifests/a.yaml", [1])]⟩
    let bare : NamedSecret := ⟨"demo-install", .empty, .ofList [(installConfigKey, [1])]⟩
    let changes : List Change :=
      [.add "clusters" manifests, .add "clusters" bare, .add "default" manifests]
    manifestsQuery { (Demo.resource none).spec with manifestsSelector := some w } = .ok (some q) ∧
      ∃ found, (empty.after changes).list "clusters" q = .ok found ∧ manifests ∈ found ∧
        bare ∉ found ∧ (empty.after changes.reverse).list "clusters" q = .ok found := by
  intro w q manifests bare changes
  have hread : w.selector = .ok q := by decide +kernel
  obtain ⟨-, hquery, hlisted⟩ := selected_secrets_listed
    (s := { (Demo.resource none).spec with manifestsSelector := some w }) rfl hread
  obtain ⟨found, hfound, hmem, -, horder⟩ :=
    hlisted (empty.after changes) changes "clusters" rfl rfl
  have haccepts : ∀ labels, w.Accepts labels ↔ q.holds labels = true :=
    fun labels => (LabelSelector.holds_iff hread).symm
  refine ⟨hquery (by decide), found, hfound, ?_, ?_, ?_⟩
  · exact (hmem manifests).mpr ⟨by decide, (haccepts _).mpr (by decide)⟩
  · intro hbare
    exact absurd ((haccepts _).mp ((hmem bare).mp hbare).2) (by decide)
  · exact horder _ changes.reverse rfl rfl
      (changesOf_eq_of_perm changes.reverse_perm (by decide))

end InMemory.SecretStore

end ControlPlane
