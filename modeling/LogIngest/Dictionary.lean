/-!
Finite maps from texts, kept as pairs in increasing order of their keys. Main statement: after an
insertion the new value is found under its key and every other key is as it was.
-/

namespace LogIngest

variable {α β : Type}

/-- Puts a value under a key into pairs that stand in increasing order of their keys. A value already
there is replaced. -/
def insertPair (key : String) (value : α) : List (String × α) → List (String × α)
  | [] => [(key, value)]
  | (k, v) :: rest =>
    if key < k then (key, value) :: (k, v) :: rest
    else if k < key then (k, v) :: insertPair key value rest
    else (key, value) :: rest

/-- Puts pairs into order; of several values under one key the last stays. -/
def sortPairs (pairs : List (String × α)) : List (String × α) :=
  pairs.foldl (fun sorted pair => insertPair pair.1 pair.2 sorted) []

/-- Keys stand in strictly increasing order. -/
def Ascending (pairs : List (String × α)) : Prop :=
  pairs.Pairwise fun a b => a.1 < b.1

instance (pairs : List (String × α)) : Decidable (Ascending pairs) :=
  inferInstanceAs (Decidable (pairs.Pairwise fun a b => a.1 < b.1))

/-- Two texts of which neither comes before the other are equal. -/
theorem eq_of_not_lt {a b : String} (h₁ : ¬a < b) (h₂ : ¬b < a) : a = b :=
  String.le_antisymm (String.not_lt.mp h₂) (String.not_lt.mp h₁)

/-- What `insertPair` holds is the new pair and pairs that were there. -/
theorem mem_insertPair {key : String} {value : α} {pairs : List (String × α)} {p : String × α}
    (h : p ∈ insertPair key value pairs) : p = (key, value) ∨ p ∈ pairs := by
  induction pairs with
  | nil => simpa [insertPair] using h
  | cons q rest ih =>
    obtain ⟨k, v⟩ := q
    simp only [insertPair] at h
    split at h
    · simpa using h
    · split at h
      · rcases List.mem_cons.mp h with h | h
        · simp [h]
        · rcases ih h with h | h <;> simp [h]
      · rcases List.mem_cons.mp h with h | h <;> simp [h]

theorem ascending_insertPair (key : String) (value : α) {pairs : List (String × α)}
    (h : Ascending pairs) : Ascending (insertPair key value pairs) := by
  induction pairs with
  | nil => simp [insertPair, Ascending]
  | cons q rest ih =>
    obtain ⟨k, v⟩ := q
    have ⟨hk, hrest⟩ := List.pairwise_cons.mp h
    simp only [insertPair]
    split
    · next hlt =>
      refine List.pairwise_cons.mpr ⟨fun p hp => ?_, h⟩
      rcases List.mem_cons.mp hp with rfl | hp
      · exact hlt
      · exact String.lt_trans hlt (hk p hp)
    · split
      · next hlt =>
        refine List.pairwise_cons.mpr ⟨fun p hp => ?_, ih hrest⟩
        rcases mem_insertPair hp with rfl | hp
        · exact hlt
        · exact hk p hp
      · next h₁ h₂ =>
        have : key = k := eq_of_not_lt h₁ h₂
        exact List.pairwise_cons.mpr ⟨fun p hp => this ▸ hk p hp, hrest⟩

theorem ascending_sortPairs (pairs : List (String × α)) : Ascending (sortPairs pairs) := by
  suffices ∀ sorted : List (String × α), Ascending sorted →
      Ascending (pairs.foldl (fun sorted pair => insertPair pair.1 pair.2 sorted) sorted) from
    this [] List.Pairwise.nil
  induction pairs with
  | nil => exact fun _ h => h
  | cons p rest ih => exact fun sorted h => ih _ (ascending_insertPair p.1 p.2 h)

theorem lookup_insertPair (key : String) (value : α) {pairs : List (String × α)}
    (h : Ascending pairs) (k : String) :
    (insertPair key value pairs).lookup k = if k = key then some value else pairs.lookup k := by
  induction pairs with
  | nil =>
    by_cases hk : k = key
    · simp [insertPair, hk]
    · simp [insertPair, List.lookup_cons, hk, beq_false_of_ne hk]
  | cons q rest ih =>
    obtain ⟨k', v⟩ := q
    have ⟨_, hrest⟩ := List.pairwise_cons.mp h
    by_cases hk : k = key
    · subst hk
      simp only [insertPair]
      split
      · simp
      · split
        · next hlt =>
          have hb : (k == k') = false := beq_false_of_ne fun e => String.lt_irrefl k' (e ▸ hlt)
          simp [List.lookup_cons, ih hrest, hb]
        · simp
    · have hb : (k == key) = false := beq_false_of_ne hk
      simp only [insertPair]
      split
      · simp [List.lookup_cons, hb]
      · split
        · simp [List.lookup_cons, hk, ih hrest]
        · next h₁ h₂ =>
          simp [List.lookup_cons, hb, ← eq_of_not_lt h₁ h₂]

/-- A finite map from texts. -/
structure Dictionary (α : Type) where
  entries : List (String × α)
  ascending : Ascending entries
deriving DecidableEq

namespace Dictionary

/-- The map without entries. -/
def empty : Dictionary α where
  entries := []
  ascending := List.Pairwise.nil

instance : EmptyCollection (Dictionary α) := ⟨empty⟩
instance : Inhabited (Dictionary α) := ⟨empty⟩

def isEmpty (d : Dictionary α) : Bool :=
  d.entries.isEmpty

/-- The value under a key. -/
def get? (d : Dictionary α) (key : String) : Option α :=
  d.entries.lookup key

/-- Puts a value under a key, in place of the one already there. -/
def insert (d : Dictionary α) (key : String) (value : α) : Dictionary α where
  entries := insertPair key value d.entries
  ascending := ascending_insertPair key value d.ascending

/-- Puts under a key what a function makes of the value there. -/
def alter (d : Dictionary α) (key : String) (f : Option α → α) : Dictionary α :=
  d.insert key (f (d.get? key))

/-- The map of some pairs; of several values under one key the last stays. -/
def ofList (pairs : List (String × α)) : Dictionary α where
  entries := sortPairs pairs
  ascending := ascending_sortPairs pairs

def keys (d : Dictionary α) : List String :=
  d.entries.map (·.1)

def values (d : Dictionary α) : List α :=
  d.entries.map (·.2)

/-- Changes every value and keeps the keys. -/
def map (f : α → β) (d : Dictionary α) : Dictionary β where
  entries := d.entries.map fun p => (p.1, f p.2)
  ascending := by
    have h := d.ascending
    unfold Ascending at h ⊢
    rw [List.pairwise_map]
    exact h

@[simp] theorem get?_empty (key : String) : (empty : Dictionary α).get? key = none := rfl

theorem get?_insert (d : Dictionary α) (key k : String) (value : α) :
    (d.insert key value).get? k = if k = key then some value else d.get? k :=
  lookup_insertPair key value d.ascending k

theorem get?_alter (d : Dictionary α) (key k : String) (f : Option α → α) :
    (d.alter key f).get? k = if k = key then some (f (d.get? key)) else d.get? k :=
  get?_insert d key k _

end Dictionary
end LogIngest
