import LogIngest.Text.CharSet
import Mathlib.Data.List.Forall2
import Mathlib.Data.List.Pairwise

/-!
Membership in sets of characters. Main statement: where the edges of a set are in order, halving finds how many
of them are at or below a code point. So the set of a small letter and its capital has those two members.
-/

namespace LogIngest.CharSet

/-- The edges are in increasing order. -/
def Ordered (set : CharSet) : Prop :=
  set.edges.toList.Pairwise (· ≤ ·)

theorem Ordered.le {set : CharSet} (h : set.Ordered) {i j : Nat} (hij : i ≤ j)
    (hj : j < set.edges.size) : set.edges.getD i 0 ≤ set.edges.getD j 0 := by
  obtain rfl | hij := Nat.eq_or_lt_of_le hij
  · exact Nat.le_refl _
  · have hi : i < set.edges.size := Nat.lt_trans hij hj
    rw [Array.getD_eq_getD_getElem?, Array.getD_eq_getD_getElem?, Array.getElem?_eq_getElem hi,
      Array.getElem?_eq_getElem hj]
    exact List.pairwise_iff_getElem.mp h i j hi hj hij

/-- The edges at or below a point are the first ones, so many of them. -/
structure Divides (set : CharSet) (point count : Nat) : Prop where
  le_size : count ≤ set.edges.size
  lt_iff : ∀ i < set.edges.size, i < count ↔ set.edges.getD i 0 ≤ point

/-- Halving keeps edges at or below the point before the range, and the others behind it. -/
theorem divides_search {set : CharSet} {point low high : Nat} (hOrdered : set.Ordered)
    (hRange : low ≤ high) (hHigh : high ≤ set.edges.size)
    (hBelow : ∀ i < low, set.edges.getD i 0 ≤ point)
    (hAbove : ∀ i, high ≤ i → i < set.edges.size → point < set.edges.getD i 0) :
    set.Divides point (rank.search set point low high) := by
  fun_induction rank.search set point low high with
  | case1 low high hSome middle hMiddle ih =>
      apply ih (by omega) hHigh _ hAbove
      intro i hi
      exact Nat.le_trans (hOrdered.le (by omega) (by omega)) hMiddle
  | case2 low high hSome middle hMiddle ih =>
      apply ih (by omega) (by omega) hBelow
      intro i hi hSize
      exact Nat.lt_of_lt_of_le (Nat.lt_of_not_le hMiddle) (hOrdered.le hi hSize)
  | case3 low high hNone =>
      constructor
      · omega
      · intro i hi
        constructor
        · exact hBelow i
        · intro hEdge
          by_contra hBehind
          exact Nat.not_le_of_lt (hAbove i (by omega) hi) hEdge

theorem divides_rank {set : CharSet} (hOrdered : set.Ordered) (point : Nat) :
    set.Divides point (set.rank point) := by
  apply divides_search hOrdered (Nat.zero_le _) (Nat.le_refl _)
  · exact nofun
  · intro i hLow hHigh
    omega

/-! ### Letters -/

/-- A small letter and its capital. -/
def letter (small : Char) : CharSet where
  edges := #[small.toNat - 32, small.toNat - 31, small.toNat, small.toNat + 1]

theorem ordered_letter (small : Char) : (letter small).Ordered := by
  unfold Ordered letter
  apply List.isChain_iff_pairwise.mp
  simp only [List.isChain_cons_cons, List.IsChain.singleton, and_true]
  omega

theorem isLower_iff {c : Char} : c.isLower = true ↔ 97 ≤ c.toNat ∧ c.toNat ≤ 122 := by
  change (decide (c.val ≥ 'a'.val) && decide (c.val ≤ 'z'.val)) = true ↔ _
  simp [UInt32.le_iff_toNat_le]

theorem toNat_toLower (c : Char) :
    c.toLower.toNat = if 65 ≤ c.toNat ∧ c.toNat ≤ 90 then c.toNat + 32 else c.toNat := by
  have hCapital : c.val ≥ 'A'.val ∧ c.val ≤ 'Z'.val ↔ 65 ≤ c.toNat ∧ c.toNat ≤ 90 := by
    simp [UInt32.le_iff_toNat_le]
  unfold Char.toLower
  by_cases h : 65 ≤ c.toNat ∧ c.toNat ≤ 90
  · rw [dif_pos (hCapital.mpr h), if_pos h]
    have hDistance : ('a'.val - 'A'.val).toNat = 32 := rfl
    change (c.val + ('a'.val - 'A'.val)).toNat = c.toNat + 32
    rw [UInt32.toNat_add, hDistance]
    exact Nat.mod_eq_of_lt (by have := h.2; rw [Char.toNat] at this; omega)
  · rw [dif_neg (mt hCapital.mp h), if_neg h]

theorem toLower_eq_self {c : Char} (h : c.isLower = true) : c.toLower = c := by
  have hSmall := isLower_iff.mp h
  rw [← Char.toNat_inj, toNat_toLower]
  split <;> omega

theorem contains_letter {small : Char} (h : small.isLower = true) (c : Char) :
    (letter small).contains c = true ↔ c.toLower = small := by
  have hSmall := isLower_iff.mp h
  have hRank : ∀ i < 4, i < (letter small).rank c.toNat ↔ (letter small).edges.getD i 0 ≤ c.toNat :=
    (divides_rank (ordered_letter small) c.toNat).lt_iff
  have hSize : (letter small).rank c.toNat ≤ 4 := (divides_rank (ordered_letter small) c.toNat).le_size
  have hEdges : (letter small).contains c = true ↔
      c.toNat = small.toNat ∨ c.toNat + 32 = small.toNat := by
    have hFirst : 0 < (letter small).rank c.toNat ↔ small.toNat - 32 ≤ c.toNat := hRank 0 (by omega)
    have hSecond : 1 < (letter small).rank c.toNat ↔ small.toNat - 31 ≤ c.toNat := hRank 1 (by omega)
    have hThird : 2 < (letter small).rank c.toNat ↔ small.toNat ≤ c.toNat := hRank 2 (by omega)
    have hFourth : 3 < (letter small).rank c.toNat ↔ small.toNat + 1 ≤ c.toNat := hRank 3 (by omega)
    rw [contains, beq_iff_eq]
    omega
  rw [hEdges, ← Char.toNat_inj, toNat_toLower]
  split <;> omega

end LogIngest.CharSet
