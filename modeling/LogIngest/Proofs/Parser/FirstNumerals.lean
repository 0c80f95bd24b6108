import Mathlib.Data.List.TakeWhile
import LogIngest.Parser.Document
import LogIngest.Proofs.Decimal.Numeral
import LogIngest.Proofs.Text.Bytes
import LogIngest.Proofs.Text.Trimming

/-!
The first whole number in a text. Main statement: it is cut out of every text that has a digit, from the first
digit or the hyphen before it to the end of the digits, and no cut goes through a character.
-/

namespace LogIngest

open Text (byteSize cut part places)

/-- A text that is cut at its first run of digits. -/
structure FirstRun (text before digits after : List Char) : Prop where
  text_eq : text = before ++ (digits ++ after)
  before : ∀ c ∈ before, c.isDigit = false
  ne_nil : digits ≠ []
  digits : ∀ c ∈ digits, c.isDigit = true
  after : ∀ c ∈ after.head?, c.isDigit = false

/-- The first run of digits of a text, together with a hyphen directly before it. -/
inductive FirstNumeral (text : List Char) : (numeral : List Char) → Prop where
  | unsigned {before digits after : List Char} (run : FirstRun text before digits after)
      (hHyphen : before.getLast? ≠ some '-') : FirstNumeral text digits
  | negative {before digits after : List Char} (run : FirstRun text before digits after)
      (hHyphen : before.getLast? = some '-') : FirstNumeral text ('-' :: digits)

variable {text before digits after : List Char}

theorem exists_firstRun (h : ∃ c ∈ text, c.isDigit = true) :
    ∃ before digits after, FirstRun text before digits after := by
  obtain ⟨digit, hMem, hDigit⟩ := h
  have hSome : text.dropWhile (fun c => !c.isDigit) ≠ [] := by
    intro hNone
    simpa [hDigit] using List.dropWhile_eq_nil_iff.mp hNone digit hMem
  obtain ⟨first, rest, hBehind⟩ := List.exists_cons_of_ne_nil hSome
  have hFirst : first.isDigit = true := by
    simpa using Text.head?_dropWhile (congrArg List.head? hBehind)
  refine ⟨text.takeWhile fun c => !c.isDigit, (first :: rest).takeWhile Char.isDigit,
    (first :: rest).dropWhile Char.isDigit, ?_, ?_, ?_, ?_, ?_⟩
  · rw [List.takeWhile_append_dropWhile, ← hBehind, List.takeWhile_append_dropWhile]
  · intro c hc
    simpa using List.mem_takeWhile_imp hc
  · simp [hFirst]
  · exact fun c hc => List.mem_takeWhile_imp hc
  · exact fun c hc => Text.head?_dropWhile hc

/-! ### Cutting it out -/

/-- From the first character of a number on, the next one that is no digit is the one behind the number. -/
theorem find?_behind {c : Char} {more : List Char} (hMore : ∀ d ∈ more, d.isDigit = true)
    (hAfter : ∀ d ∈ after.head?, d.isDigit = false) :
    ((places (c :: more ++ after)).drop 1).find? (!·.2.isDigit) =
      after.head?.map fun d => (byteSize (c :: more), d) := by
  have hSkipped : ∀ d ∈ more, (!d.isDigit) = false := by simpa using hMore
  cases after with
  | nil => simpa [places, Text.placesFrom] using Text.find?_placesFrom_eq_none hSkipped c.utf8Size
  | cons d tail =>
      have hStop : (!d.isDigit) = true := by simp [hAfter d rfl]
      simpa [places, Text.placesFrom] using Text.find?_placesFrom hSkipped hStop c.utf8Size tail

/-- The first character of a number need not be a digit. -/
theorem cutNumeralAt_eq {c : Char} {more : List Char} (lead : List Char) (hMore : ∀ d ∈ more, d.isDigit = true)
    (hAfter : ∀ d ∈ after.head?, d.isDigit = false) :
    cutNumeralAt (byteSize lead) (lead ++ (c :: more) ++ after) = .ok (c :: more) := by
  have hCut : cut (byteSize lead) (lead ++ (c :: more) ++ after) = .ok (lead, c :: more ++ after) := by
    rw [List.append_assoc, Text.cut_byteSize]
  refine bind_eq_ok_iff.mpr ⟨_, hCut, ?_⟩
  have hPart := Text.part_eq_ok lead (c :: more) after
  simp only [find?_behind hMore hAfter]
  cases after with
  | nil =>
      have hLength : byteSize (lead ++ (c :: more) ++ []) - byteSize lead = byteSize (c :: more) := by simp
      simpa only [List.head?_nil, Option.map_none, hLength] using hPart
  | cons d tail => exact hPart

theorem FirstRun.cutNumeral_eq (run : FirstRun text before digits after) :
    cutNumeral text = .ok (some (if before.getLast? = some '-' then '-' :: digits else digits)) := by
  obtain ⟨first, rest, hDigits⟩ := List.exists_cons_of_ne_nil run.ne_nil
  have hFirst := run.digits first (hDigits ▸ List.mem_cons_self)
  have hFound : (places text).find? (·.2.isDigit) = some (byteSize before, first) := by
    have hPlace := Text.find?_placesFrom run.before hFirst 0 (rest ++ after)
    rwa [Nat.zero_add, ← List.cons_append, ← hDigits, ← run.text_eq] at hPlace
  have hBefore : cut (byteSize before) text = .ok (before, digits ++ after) :=
    Text.cut_eq_ok_iff.mpr ⟨run.text_eq, rfl⟩
  rw [cutNumeral, hFound]
  refine bind_eq_ok_iff.mpr ⟨_, hBefore, bind_eq_ok_iff.mpr ⟨_, ?_, rfl⟩⟩
  by_cases hHyphen : before.getLast? = some '-'
  · obtain ⟨lead, rfl⟩ := List.getLast?_eq_some_iff.mp hHyphen
    have hStart : byteSize (lead ++ ['-']) - 1 = byteSize lead := by
      have hOne : '-'.utf8Size = 1 := by decide
      simp [hOne]
    have hText : text = lead ++ ('-' :: digits) ++ after := by simp [run.text_eq]
    rw [if_pos (beq_iff_eq.mpr hHyphen), if_pos hHyphen, hStart, hText]
    exact cutNumeralAt_eq lead run.digits run.after
  · have hMore := (List.forall_mem_cons.mp (hDigits ▸ run.digits)).2
    have hText : text = before ++ (first :: rest) ++ after := by simp [run.text_eq, hDigits]
    rw [if_neg (mt beq_iff_eq.mp hHyphen), if_neg hHyphen, hDigits, hText]
    exact cutNumeralAt_eq before hMore run.after

theorem cutNumeral_eq_none (h : ∀ c ∈ text, c.isDigit = false) : cutNumeral text = .ok none := by
  rw [cutNumeral, places, Text.find?_placesFrom_eq_none h]

/-- No cut for the number fails. -/
theorem exists_cutNumeral (text : List Char) : ∃ found, cutNumeral text = .ok found := by
  by_cases hDigit : ∃ c ∈ text, c.isDigit = true
  · obtain ⟨before, digits, after, run⟩ := exists_firstRun hDigit
    exact ⟨_, run.cutNumeral_eq⟩
  · exact ⟨none, cutNumeral_eq_none (by simpa using hDigit)⟩

theorem cutNumeral_eq_none_iff : cutNumeral text = .ok none ↔ ∀ c ∈ text, c.isDigit = false := by
  constructor
  · intro h
    by_contra hAll
    have hDigit : ∃ c ∈ text, c.isDigit = true := by simpa using hAll
    obtain ⟨before, digits, after, run⟩ := exists_firstRun hDigit
    cases h.symm.trans run.cutNumeral_eq
  · exact cutNumeral_eq_none

theorem cutNumeral_eq_some_iff {numeral : List Char} :
    cutNumeral text = .ok (some numeral) ↔ FirstNumeral text numeral := by
  constructor
  · intro h
    have hDigit : ∃ c ∈ text, c.isDigit = true := by
      by_contra hNone
      cases h.symm.trans (cutNumeral_eq_none (by simpa using hNone))
    obtain ⟨before, digits, after, run⟩ := exists_firstRun hDigit
    rw [run.cutNumeral_eq] at h
    split at h
    · next hHyphen =>
        cases h
        exact .negative run hHyphen
    · next hHyphen =>
        cases h
        exact .unsigned run hHyphen
  · intro h
    cases h with
    | unsigned run hHyphen => rw [run.cutNumeral_eq, if_neg hHyphen]
    | negative run hHyphen => rw [run.cutNumeral_eq, if_pos hHyphen]

theorem firstNumeral?_eq_some_iff {numeral : List Char} :
    firstNumeral? text = some numeral ↔ FirstNumeral text numeral := by
  rw [← cutNumeral_eq_some_iff, firstNumeral?]
  cases cutNumeral text with
  | error fault => simp [Except.toOption]
  | ok found => simp [Except.toOption]

/-! ### Its form and its place -/

namespace FirstNumeral

variable {numeral : List Char}

theorem exists_digits (h : FirstNumeral text numeral) : ∃ digits, digits ≠ [] ∧ (∀ c ∈ digits, c.isDigit = true) ∧
    (numeral = digits ∨ numeral = '-' :: digits) := by
  cases h with
  | unsigned run => exact ⟨_, run.ne_nil, run.digits, .inl rfl⟩
  | negative run => exact ⟨_, run.ne_nil, run.digits, .inr rfl⟩

/-- A number stands behind characters that are no digits. -/
theorem exists_around (h : FirstNumeral text numeral) :
    ∃ lead after, text = lead ++ numeral ++ after ∧ ∀ c ∈ lead, c.isDigit = false := by
  cases h with
  | @unsigned before _ after run =>
      exact ⟨before, after, by rw [run.text_eq, List.append_assoc], run.before⟩
  | @negative _ digits after run hHyphen =>
      obtain ⟨lead, rfl⟩ := List.getLast?_eq_some_iff.mp hHyphen
      exact ⟨lead, after, by simp [run.text_eq], (List.forall_mem_append.mp run.before).1⟩

end FirstNumeral

/-- Whatever characters a text has, no cut for its first number fails. There is none exactly if the text has no
digit. Otherwise it is the first run of digits, to its end, with a hyphen directly before it: digits with an
optional hyphen for their sign, between two boundaries of characters. -/
theorem cutNumeral_finds (text : String) :
    ∃ found, cutNumeral text.toList = .ok found ∧ firstNumeral? text.toList = found ∧
      (found = none ↔ ∀ c ∈ text.toList, c.isDigit = false) ∧
      (∀ numeral, found = some numeral ↔ FirstNumeral text.toList numeral) ∧
      ∀ numeral, found = some numeral →
        (∃ digits, digits ≠ [] ∧ (∀ c ∈ digits, c.isDigit = true) ∧
          (numeral = digits ∨ numeral = '-' :: digits)) ∧
        ∃ lead after, text.toList = lead ++ numeral ++ after ∧ (∀ c ∈ lead, c.isDigit = false) ∧
          String.Pos.Raw.IsValid text ⟨byteSize lead⟩ ∧
          String.Pos.Raw.IsValid text ⟨byteSize (lead ++ numeral)⟩ := by
  obtain ⟨found, hFound⟩ := exists_cutNumeral text.toList
  have hNone : found = none ↔ ∀ c ∈ text.toList, c.isDigit = false := by
    rw [← cutNumeral_eq_none_iff, hFound, Except.ok.injEq]
  have hSome (numeral : List Char) : found = some numeral ↔ FirstNumeral text.toList numeral := by
    rw [← cutNumeral_eq_some_iff, hFound, Except.ok.injEq]
  refine ⟨found, hFound, ?_, hNone, hSome, fun numeral h => ?_⟩
  · rw [firstNumeral?, hFound]
    rfl
  · have hNumeral := (hSome numeral).mp h
    obtain ⟨lead, after, hText, hLead⟩ := hNumeral.exists_around
    have hStart := Text.isValid_between (hText.trans (List.append_assoc lead numeral after))
    exact ⟨hNumeral.exists_digits, lead, after, hText, hLead, hStart, Text.isValid_between hText⟩

example : ["é-12日", "-5", "x--7y", "- 3", "日"].map (fun s => firstNumeral? s.toList) =
    [some "-12".toList, some "-5".toList, some "-7".toList, some "3".toList, none] := by
  decide

end LogIngest
