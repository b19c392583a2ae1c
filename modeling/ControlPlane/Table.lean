/-
Finite maps in key order.

A table holds its entries strictly sorted by key, so a key occurs once and two tables
with the same entries are the same value.  Labels, the data of a secret, the conditions
of a status and the stores of the collaborators are all tables: what they print is in
key order, and equality of what they hold is plain equality.

The view of a table is `get?`.  `get?_insert`, `get?_erase`, `get?_map` and `get?_insertMany`
say what each operation does to it, and `ext` says that nothing else can be seen.
-/

namespace ControlPlane

/-- Keys under a strict total order. -/
class KeyOrder (κ : Type) [LT κ] : Prop where
  /-- No key lies before itself. -/
  irrefl : ∀ a : κ, ¬ a < a
  trans : ∀ {a b c : κ}, a < b → b < c → a < c
  /-- Of two different keys one lies before the other. -/
  connected : ∀ {a b : κ}, ¬ a < b → ¬ b < a → a = b

instance : KeyOrder String where
  irrefl := String.lt_irrefl
  trans := String.lt_trans
  connected h h' := String.le_antisymm h' h

/-- A map from keys to values, as its entries in rising order of their keys. -/
structure Table (κ α : Type) [LT κ] where
  entries : List (κ × α)
  sorted : entries.Pairwise (fun a b => a.1 < b.1)

namespace Table

variable {κ α β : Type} [LT κ]

/-- The table without entries. -/
def empty : Table κ α := ⟨[], .nil⟩

instance : EmptyCollection (Table κ α) := ⟨empty⟩

instance : Inhabited (Table κ α) := ⟨empty⟩

instance [DecidableEq κ] [DecidableEq α] : DecidableEq (Table κ α) := fun t u =>
  decidable_of_iff (t.entries = u.entries)
    ⟨fun h => by cases t; cases u; cases h; rfl, fun h => h ▸ rfl⟩

def isEmpty (t : Table κ α) : Bool := t.entries.isEmpty

def size (t : Table κ α) : Nat := t.entries.length

def keys (t : Table κ α) : List κ := t.entries.map (·.1)

/-! ### Sorted entries

The operations work on the list of entries; these are their bodies and the reasons why
they keep the order. -/

section Entries

variable [DecidableEq κ]

/-- The value of a key. -/
def lookup (k : κ) : List (κ × α) → Option α
  | [] => none
  | e :: rest => if k = e.1 then some e.2 else lookup k rest

/-- The entries with one key set, where an entry of that key is replaced. -/
def put [DecidableLT κ] (k : κ) (v : α) : List (κ × α) → List (κ × α)
  | [] => [(k, v)]
  | e :: rest =>
    if k < e.1 then (k, v) :: e :: rest
    else if k = e.1 then (k, v) :: rest
    else e :: put k v rest

theorem mem_put [DecidableLT κ] {k : κ} {v : α} {e : κ × α} {l : List (κ × α)}
    (h : e ∈ put k v l) : e = (k, v) ∨ e ∈ l := by
  induction l with
  | nil => simpa [put] using h
  | cons d rest ih =>
    simp only [put] at h
    split at h
    · simpa using h
    · split at h
      · rcases List.mem_cons.1 h with h | h
        · exact .inl h
        · exact .inr (List.mem_cons_of_mem _ h)
      · rcases List.mem_cons.1 h with h | h
        · exact .inr (h ▸ List.mem_cons_self)
        · exact (ih h).imp id (List.mem_cons_of_mem _)

theorem sorted_put [DecidableLT κ] [KeyOrder κ] {k : κ} {v : α} {l : List (κ × α)}
    (h : l.Pairwise (fun a b => a.1 < b.1)) :
    (put k v l).Pairwise (fun a b => a.1 < b.1) := by
  induction l with
  | nil => simp [put]
  | cons d rest ih =>
    obtain ⟨head, tail⟩ := List.pairwise_cons.1 h
    simp only [put]
    split
    · rename_i lt
      refine List.pairwise_cons.2 ⟨fun e he => ?_, h⟩
      rcases List.mem_cons.1 he with rfl | he
      · exact lt
      · exact KeyOrder.trans lt (head e he)
    · split
      · rename_i eq
        exact List.pairwise_cons.2 ⟨fun e he => by simpa [eq] using head e he, tail⟩
      · rename_i nlt ne
        have gt : d.1 < k := Decidable.byContradiction fun h' => ne (KeyOrder.connected nlt h')
        refine List.pairwise_cons.2 ⟨fun e he => ?_, ih tail⟩
        rcases mem_put he with rfl | he
        · exact gt
        · exact head e he

theorem lookup_put [DecidableLT κ] (k k' : κ) (v : α) (l : List (κ × α)) :
    lookup k' (put k v l) = if k' = k then some v else lookup k' l := by
  induction l with
  | nil => simp [put, lookup]
  | cons d rest ih =>
    simp only [put]
    split
    · simp [lookup]
    · split
      · rename_i eq
        by_cases h : k' = k <;> simp [lookup, h, ← eq]
      · rename_i ne
        by_cases h : k' = k
        · subst h; simp [lookup, ne, ih]
        · simp [lookup, ih, h]

omit [LT κ] in
theorem lookup_eq_none_iff {k : κ} {l : List (κ × α)} :
    lookup k l = none ↔ ∀ e ∈ l, k ≠ e.1 := by
  induction l with
  | nil => simp [lookup]
  | cons d rest ih => by_cases h : k = d.1 <;> simp [lookup, h, ih]

omit [LT κ] in
theorem mem_of_lookup {k : κ} {v : α} {l : List (κ × α)} (h : lookup k l = some v) :
    (k, v) ∈ l := by
  induction l with
  | nil => simp [lookup] at h
  | cons d rest ih =>
    simp only [lookup] at h
    split at h
    · rename_i eq
      obtain ⟨a, b⟩ := d
      simp only at eq h
      simp_all
    · exact List.mem_cons_of_mem _ (ih h)

theorem lookup_eq_some_iff [KeyOrder κ] {k : κ} {v : α} {l : List (κ × α)}
    (sorted : l.Pairwise (fun a b => a.1 < b.1)) : lookup k l = some v ↔ (k, v) ∈ l := by
  refine ⟨mem_of_lookup, fun h => ?_⟩
  induction l with
  | nil => simp at h
  | cons d rest ih =>
    obtain ⟨head, tail⟩ := List.pairwise_cons.1 sorted
    rcases List.mem_cons.1 h with rfl | h
    · simp [lookup]
    · have ne : k ≠ d.1 := fun eq => KeyOrder.irrefl d.1 (eq ▸ head _ h)
      simp [lookup, ne, ih tail h]

omit [LT κ] in
theorem lookup_filter (p : κ → Bool) (k : κ) (l : List (κ × α)) :
    lookup k (l.filter (fun e => p e.1)) = if p k then lookup k l else none := by
  induction l with
  | nil => simp [lookup]
  | cons d rest ih =>
    by_cases hp : p d.1 <;> by_cases hk : k = d.1
    · subst hk; simp [hp, lookup]
    · simp [hp, hk, lookup, ih]
    · subst hk; simp [hp, ih]
    · simp [hp, hk, lookup, ih]

omit [LT κ] in
theorem lookup_map (f : κ → α → β) (k : κ) (l : List (κ × α)) :
    lookup k (l.map (fun e => (e.1, f e.1 e.2))) = (lookup k l).map (f k) := by
  induction l with
  | nil => simp [lookup]
  | cons d rest ih =>
    by_cases hk : k = d.1
    · subst hk; simp [lookup]
    · simp [lookup, hk, ih]

/-- Two sorted lists with the same look-ups are one list. -/
theorem entries_ext [KeyOrder κ] {l m : List (κ × α)}
    (hl : l.Pairwise (fun a b => a.1 < b.1)) (hm : m.Pairwise (fun a b => a.1 < b.1))
    (h : ∀ k, lookup k l = lookup k m) : l = m := by
  induction l generalizing m with
  | nil =>
    cases m with
    | nil => rfl
    | cons d rest => simpa [lookup] using h d.1
  | cons d rest ih =>
    cases m with
    | nil => simpa [lookup] using h d.1
    | cons e tail =>
      obtain ⟨hd, hrest⟩ := List.pairwise_cons.1 hl
      obtain ⟨he, htail⟩ := List.pairwise_cons.1 hm
      have same : d = e := by
        have left : d ∈ e :: tail := (lookup_eq_some_iff hm).1 (by rw [← h]; simp [lookup])
        have right : e ∈ d :: rest := (lookup_eq_some_iff hl).1 (by rw [h]; simp [lookup])
        rcases List.mem_cons.1 left with eq | left
        · exact eq
        · rcases List.mem_cons.1 right with eq | right
          · exact eq.symm
          · exact absurd (KeyOrder.trans (hd e right) (he d left)) (KeyOrder.irrefl _)
      subst same
      refine congrArg (d :: ·) (ih hrest htail fun k => ?_)
      by_cases hk : k = d.1
      · subst hk
        rw [lookup_eq_none_iff.2 fun e' h' eq => KeyOrder.irrefl _ (eq ▸ hd e' h'),
          lookup_eq_none_iff.2 fun e' h' eq => KeyOrder.irrefl _ (eq ▸ he e' h')]
      · simpa [lookup, hk] using h k

end Entries

/-! ### The operations -/

section Operations

variable [DecidableEq κ]

/-- The value of a key, if the table has it. -/
def get? (t : Table κ α) (k : κ) : Option α := lookup k t.entries

def getD (t : Table κ α) (k : κ) (fallback : α) : α := (t.get? k).getD fallback

def contains (t : Table κ α) (k : κ) : Bool := (t.get? k).isSome

/-- Sets a key, whether or not the table has it. -/
def insert [DecidableLT κ] [KeyOrder κ] (t : Table κ α) (k : κ) (v : α) : Table κ α :=
  ⟨put k v t.entries, sorted_put t.sorted⟩

/-- Keeps the entries whose key passes a test. -/
def filterKeys (t : Table κ α) (p : κ → Bool) : Table κ α :=
  ⟨t.entries.filter (fun e => p e.1), t.sorted.filter _⟩

/-- Removes a key, whether or not the table has it. -/
def erase (t : Table κ α) (k : κ) : Table κ α := t.filterKeys (· ≠ k)

/-- Changes every value. -/
def map (t : Table κ α) (f : κ → α → β) : Table κ β :=
  ⟨t.entries.map (fun e => (e.1, f e.1 e.2)), List.pairwise_map.2 t.sorted⟩

/-- Sets the keys of a list one after the other, so that the last entry of a key stays. -/
def insertMany [DecidableLT κ] [KeyOrder κ] (t : Table κ α) (l : List (κ × α)) : Table κ α :=
  l.foldl (fun t e => t.insert e.1 e.2) t

/-- The table of a list, where the last entry of a key stays. -/
def ofList [DecidableLT κ] [KeyOrder κ] (l : List (κ × α)) : Table κ α := empty.insertMany l

/-- Both tables in one; the second one decides on a key that both have. -/
def merge [DecidableLT κ] [KeyOrder κ] (t u : Table κ α) : Table κ α := t.insertMany u.entries

@[simp] theorem get?_empty (k : κ) : (empty : Table κ α).get? k = none := rfl

theorem get?_eq_some_iff [KeyOrder κ] {t : Table κ α} {k : κ} {v : α} :
    t.get? k = some v ↔ (k, v) ∈ t.entries :=
  lookup_eq_some_iff t.sorted

/-- Nothing but the look-ups tells two tables apart. -/
theorem ext [KeyOrder κ] {t u : Table κ α} (h : ∀ k, t.get? k = u.get? k) : t = u := by
  obtain ⟨l, hl⟩ := t
  obtain ⟨m, hm⟩ := u
  simp only [get?] at h
  cases entries_ext hl hm h
  rfl

theorem get?_insert [DecidableLT κ] [KeyOrder κ] (t : Table κ α) (k k' : κ) (v : α) :
    (t.insert k v).get? k' = if k' = k then some v else t.get? k' :=
  lookup_put k k' v t.entries

theorem get?_filterKeys (t : Table κ α) (p : κ → Bool) (k : κ) :
    (t.filterKeys p).get? k = if p k then t.get? k else none :=
  lookup_filter p k t.entries

theorem get?_erase (t : Table κ α) (k k' : κ) :
    (t.erase k).get? k' = if k' = k then none else t.get? k' := by
  by_cases h : k' = k <;> simp [erase, get?_filterKeys, h]

theorem get?_map (t : Table κ α) (f : κ → α → β) (k : κ) :
    (t.map f).get? k = (t.get? k).map (f k) :=
  lookup_map f k t.entries

/-- The last entry of a key decides; a key that the list lacks keeps its value. -/
theorem get?_insertMany [DecidableLT κ] [KeyOrder κ] (t : Table κ α) (l : List (κ × α)) (k : κ) :
    (t.insertMany l).get? k = (lookup k l.reverse).or (t.get? k) := by
  have append : ∀ (m : List (κ × α)) (e : κ × α),
      lookup k (m ++ [e]) = (lookup k m).or (if k = e.1 then some e.2 else none) := by
    intro m e
    induction m with
    | nil => simp [lookup]
    | cons d rest ih => by_cases h : k = d.1 <;> simp [lookup, h, ih]
  induction l generalizing t with
  | nil => simp [insertMany, lookup]
  | cons d rest ih =>
    have step : (t.insertMany (d :: rest)).get? k = ((t.insert d.1 d.2).insertMany rest).get? k :=
      rfl
    rw [step, ih, List.reverse_cons, append, get?_insert]
    cases lookup k rest.reverse <;> by_cases h : k = d.1 <;> simp [h]

end Operations

end Table

end ControlPlane
