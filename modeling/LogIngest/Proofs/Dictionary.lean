import Mathlib.Data.List.Sort
import LogIngest.Dictionary

/-!
What is in a dictionary decides which dictionary it is. Main statements: two dictionaries that answer
every question alike are equal, putting pairs into order that stand in order leaves them as they are, and
taking a key out leaves all the others.
-/

namespace LogIngest

variable {α : Type}

theorem Ascending.nodup {pairs : List (String × α)} (h : Ascending pairs) : pairs.Nodup := by
  refine List.Pairwise.imp (fun {a b} hlt heq => ?_) h
  rw [heq] at hlt
  exact String.lt_irrefl b.1 hlt

/-- A question to ordered pairs has an answer exactly when the pair stands among them. -/
theorem Ascending.lookup_eq_some_iff {pairs : List (String × α)} (h : Ascending pairs)
    (key : String) (value : α) :
    pairs.lookup key = some value ↔ (key, value) ∈ pairs := by
  induction pairs with
  | nil => simp
  | cons pair rest ih =>
      obtain ⟨k, v⟩ := pair
      obtain ⟨hFirst, hRest⟩ := List.pairwise_cons.mp h
      rw [List.lookup_cons]
      by_cases hk : key = k
      · subst hk
        have hAbsent : (key, value) ∉ rest := fun hm => String.lt_irrefl key (hFirst _ hm)
        simp [hAbsent, eq_comm]
      · simp [beq_false_of_ne hk, hk, ih hRest]

/-- Ordered pairs are determined by their answers. -/
theorem Ascending.eq_of_lookup_eq {pairs others : List (String × α)} (h : Ascending pairs)
    (hOthers : Ascending others) (hLookup : ∀ key, pairs.lookup key = others.lookup key) :
    pairs = others := by
  have hMem : ∀ pair, pair ∈ pairs ↔ pair ∈ others := by
    rintro ⟨key, value⟩
    rw [← h.lookup_eq_some_iff, ← hOthers.lookup_eq_some_iff, hLookup]
  have hPerm : pairs.Perm others :=
    (List.perm_ext_iff_of_nodup h.nodup hOthers.nodup).mpr hMem
  refine hPerm.eq_of_pairwise (fun a b _ _ hab hba => ?_) h hOthers
  exact (String.lt_irrefl a.1 (String.lt_trans hab hba)).elim

theorem insertPair_eq_append {sorted : List (String × α)} (key : String) (value : α)
    (h : ∀ pair ∈ sorted, pair.1 < key) :
    insertPair key value sorted = sorted ++ [(key, value)] := by
  induction sorted with
  | nil => rfl
  | cons pair rest ih =>
      obtain ⟨k, v⟩ := pair
      have hk : k < key := h (k, v) List.mem_cons_self
      have hNot : ¬key < k := fun hlt => String.lt_irrefl k (String.lt_trans hk hlt)
      rw [insertPair, if_neg hNot, if_pos hk, ih fun p hp => h p (List.mem_cons_of_mem _ hp)]
      rfl

/-- Pairs that stand in order are put into the order in which they stand. -/
theorem sortPairs_of_ascending {pairs : List (String × α)} (h : Ascending pairs) :
    sortPairs pairs = pairs := by
  suffices ∀ sorted : List (String × α), Ascending (sorted ++ pairs) →
      pairs.foldl (fun sorted pair => insertPair pair.1 pair.2 sorted) sorted = sorted ++ pairs from
    this [] h
  induction pairs with
  | nil => simp
  | cons pair rest ih =>
      intro sorted hAll
      have hBefore : ∀ p ∈ sorted, p.1 < pair.1 := fun p hp =>
        (List.pairwise_append.mp hAll).2.2 p hp pair List.mem_cons_self
      rw [List.foldl_cons, insertPair_eq_append pair.1 pair.2 hBefore,
        ih (List.pairwise_cons.mp h).2 _ (by simpa using hAll)]
      simp

/-- Nothing is in order that was not there before. -/
theorem mem_of_mem_sortPairs {pairs : List (String × α)} {pair : String × α} (h : pair ∈ sortPairs pairs) :
    pair ∈ pairs := by
  suffices ∀ sorted : List (String × α),
      pair ∈ pairs.foldl (fun sorted pair => insertPair pair.1 pair.2 sorted) sorted →
        pair ∈ sorted ∨ pair ∈ pairs from
    (this [] h).resolve_left List.not_mem_nil
  clear h
  induction pairs with
  | nil => exact fun _ h => .inl h
  | cons first rest ih =>
      intro sorted h
      rcases ih _ h with hSorted | hRest
      · rcases mem_insertPair hSorted with rfl | hBefore
        · exact .inr List.mem_cons_self
        · exact .inl hBefore
      · exact .inr (List.mem_cons_of_mem first hRest)

namespace Dictionary

theorem eq_empty_of_isEmpty {d : Dictionary α} (h : d.isEmpty = true) : d = ∅ := by
  obtain ⟨entries, hAscending⟩ := d
  obtain rfl : entries = [] := List.isEmpty_iff.mp h
  rfl

/-- Two dictionaries that answer every question alike are equal. -/
theorem ext_get? {d e : Dictionary α} (h : ∀ key, d.get? key = e.get? key) : d = e := by
  cases d
  cases e
  congr
  exact Ascending.eq_of_lookup_eq ‹_› ‹_› h

@[simp] theorem ofList_entries (d : Dictionary α) : ofList d.entries = d := by
  cases d
  simp only [ofList, sortPairs_of_ascending ‹_›]

/-- Takes a key out, with the value under it. -/
def erase (d : Dictionary α) (key : String) : Dictionary α where
  entries := d.entries.filter fun pair => pair.1 != key
  ascending := d.ascending.filter _

theorem get?_erase (d : Dictionary α) (key k : String) :
    (d.erase key).get? k = if k = key then none else d.get? k := by
  show (d.entries.filter fun pair => pair.1 != key).lookup k =
    if k = key then none else d.entries.lookup k
  induction d.entries with
  | nil => simp
  | cons pair rest ih =>
      obtain ⟨other, value⟩ := pair
      rw [List.filter_cons, List.lookup_cons]
      by_cases hOther : other = key
      · subst hOther
        rw [if_neg (by simp), ih]
        by_cases hk : k = other
        · rw [if_pos hk, if_pos hk]
        · simp [hk, beq_false_of_ne hk]
      · rw [if_pos (by simpa using hOther), List.lookup_cons, ih]
        by_cases hk : k = other
        · simp [hk, hOther]
        · simp [beq_false_of_ne hk]

end Dictionary
end LogIngest
