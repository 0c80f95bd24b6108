import LogIngest.Proofs.Text.CharSets
import LogIngest.Text.Lowercase

/-!
Lower-case forms and the case of ASCII letters. Main statement: texts that differ only in the case of ASCII
letters have one lower-case form, whatever is around these letters; and no text but the empty one has an empty
form.
-/

namespace LogIngest.Text

theorem lowerChar_ne_nil (c : Char) : lowerChar c ≠ [] := by
  unfold lowerChar
  dsimp only
  split
  · simp
  · split
    · simp
    · split <;> simp

theorem lowerFrom_eq_nil_iff {before text : List Char} : lowerFrom before text = [] ↔ text = [] := by
  cases text with
  | nil => simp [lowerFrom]
  | cons c rest =>
      have hForm := lowerChar_ne_nil c
      simp only [lowerFrom, List.append_eq_nil_iff, reduceCtorEq, iff_false, not_and]
      intro hNone
      split at hNone
      · split at hNone <;> cases hNone
      · exact absurd hNone hForm

theorem lower_eq_nil_iff {text : List Char} : lower text = [] ↔ text = [] :=
  lowerFrom_eq_nil_iff

/-! ### The case of ASCII letters -/

/-- What capital letters and their small forms have in common, all characters and theirs have. -/
theorem apply_toLower {α : Type} {f : Char → α}
    (h : ∀ n < 26, f (Char.ofNat (65 + n)).toLower = f (Char.ofNat (65 + n))) (c : Char) :
    f c.toLower = f c := by
  by_cases hCapital : 65 ≤ c.toNat ∧ c.toNat ≤ 90
  · have hLetter := h (c.toNat - 65) (by omega)
    rwa [Nat.add_sub_cancel' hCapital.1, Char.ofNat_toNat] at hLetter
  · have hSame : c.toLower = c := by
      rw [← Char.toNat_inj, CharSet.toNat_toLower, if_neg hCapital]
    rw [hSame]

theorem lowerChar_toLower (c : Char) : lowerChar c.toLower = lowerChar c :=
  apply_toLower (by decide) c

theorem toLower_beq_sigma (c : Char) : (c.toLower == 'Σ') = (c == 'Σ') :=
  apply_toLower (f := (· == 'Σ')) (by decide) c

theorem dropWhile_map_toLower {p : Char → Bool} (h : ∀ c : Char, p c.toLower = p c) (text : List Char) :
    (text.map Char.toLower).dropWhile p = (text.dropWhile p).map Char.toLower := by
  have hSame : p ∘ Char.toLower = p := funext h
  rw [List.dropWhile_map, hSame]

/-- Letters have case as small ones and as capitals, and so they are passed over as neither. -/
theorem meetsCased_map_toLower (text : List Char) : meetsCased (text.map Char.toLower) = meetsCased text := by
  have hIgnorable (c : Char) : CharSet.caseIgnorable.contains c.toLower = CharSet.caseIgnorable.contains c :=
    apply_toLower (by decide +kernel) c
  have hCased (c : Char) : CharSet.cased.contains c.toLower = CharSet.cased.contains c :=
    apply_toLower (by decide +kernel) c
  unfold meetsCased
  rw [dropWhile_map_toLower hIgnorable]
  cases text.dropWhile CharSet.caseIgnorable.contains with
  | nil => rfl
  | cons c rest => exact hCased c

theorem lowerFrom_map_toLower (before text : List Char) :
    lowerFrom (before.map Char.toLower) (text.map Char.toLower) = lowerFrom before text := by
  induction text generalizing before with
  | nil => rfl
  | cons c rest ih =>
      have hRest := ih (c :: before)
      rw [List.map_cons] at hRest
      simp only [List.map_cons, lowerFrom, toLower_beq_sigma, meetsCased_map_toLower, lowerChar_toLower, hRest]

/-- The lower-case form of a text does not depend on the case of the ASCII letters in it. -/
theorem lower_eq_of_sameIgnoringAsciiCase {text other : List Char}
    (h : sameIgnoringAsciiCase text other = true) : lower text = lower other := by
  have hSame : text.map Char.toLower = other.map Char.toLower := beq_iff_eq.mp h
  rw [lower, lower, ← lowerFrom_map_toLower [] text, hSame, lowerFrom_map_toLower]

end LogIngest.Text
