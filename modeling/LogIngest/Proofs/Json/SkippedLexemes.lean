import Mathlib.Data.List.DropRight
import LogIngest.Json.Skipping
import LogIngest.Proofs.Decimal.Numeral
import LogIngest.Proofs.Fallible

/-!
Numbers and strings that are passed over. Main statements: a number or a string that can be read is passed over
up to the same place, though neither how large the number is nor which characters the escapes name is looked at;
and whatever is passed over is not empty.
-/

namespace LogIngest.Json

/-! ### Numbers -/

/-- Digits that are added to a number, and those that no longer fit, are passed over together. -/
theorem dropWhile_accumulate (value : Nat) (text : List Char) :
    (accumulate value text).2.2.dropWhile Char.isDigit = text.dropWhile Char.isDigit := by
  induction text generalizing value with
  | nil => rfl
  | cons c rest ih =>
      rw [accumulate]
      split
      · rfl
      · next d hDigit =>
          dsimp only
          split
          · rfl
          · rw [List.dropWhile_cons_of_pos (isDigit_of_digitValue? hDigit)]
            exact ih _

/-- Without a digit nothing is added. -/
theorem accumulate_of_not_digit {text : List Char} (h : startsWithDigit text = false) (value : Nat) :
    accumulate value text = (value, 0, text) := by
  cases text with
  | nil => rfl
  | cons c rest =>
      have hNone : digitValue? c = none := if_neg (by simpa [startsWithDigit] using h)
      rw [accumulate, hNone]

/-- The digits of an exponent are passed over whether or not their value can be held. -/
theorem dropWhile_exponentDigits (value : Nat) (text : List Char) :
    (∀ n rest, exponentDigits value text = .ok (n, rest) → rest = text.dropWhile Char.isDigit) ∧
      ∀ rest, exponentDigits value text = .error rest →
        rest.dropWhile Char.isDigit = text.dropWhile Char.isDigit := by
  induction text generalizing value with
  | nil => exact ⟨by rintro n rest ⟨⟩; rfl, by rintro rest ⟨⟩⟩
  | cons c rest ih =>
      rw [exponentDigits]
      split
      · next hNone =>
          have hOther : ¬c.isDigit = true := fun hDigit => by
            obtain ⟨d, hSome⟩ := exists_digitValue?_of_isDigit hDigit
            cases hNone.symm.trans hSome
          refine ⟨?_, by rintro rest ⟨⟩⟩
          rintro n after ⟨⟩
          rw [List.dropWhile_cons_of_neg hOther]
      · next d hDigit =>
          rw [List.dropWhile_cons_of_pos (isDigit_of_digitValue? hDigit)]
          dsimp only
          split
          · exact ⟨by rintro n rest ⟨⟩, by rintro after ⟨⟩; rfl⟩
          · exact ih _

/-- Making a double of what was read takes nothing more of the text. -/
theorem rest_of_finishDouble {positive : Bool} {significand : Nat} {exponent : Int} {text rest : List Char}
    {n : Number} (h : finishDouble positive significand exponent text = .ok (n, rest)) : rest = text := by
  unfold finishDouble at h
  split at h
  · exact (Prod.mk.inj (Except.ok.inj h)).2.symm
  · cases h

/-- What is behind the sign of an exponent, if it has one. -/
def unsigned (text : List Char) : List Char :=
  match text with
  | '+' :: rest | '-' :: rest => rest
  | _ => text

/-- Reads an exponent from its first digit on. -/
def readUnsigned (positive upward : Bool) (significand : Nat) (base : Int) (digits : List Char) : Step Number :=
  match digits with
  | [] => stopAt .eofValue []
  | c :: _ =>
    if !c.isDigit then stopPast .invalidNumber digits
    else
      match exponentDigits 0 digits with
      | .ok (value, rest) => finishDouble positive significand (if upward then base + value else base - value) rest
      | .error rest =>
        if significand != 0 && upward then stopAt .numberOutOfRange rest
        else .ok (.double (signed positive 0.0), rest.dropWhile Char.isDigit)

/-- The sign of an exponent decides its direction; what is read behind it is the same. -/
theorem readExponent_eq (positive : Bool) (significand : Nat) (base : Int) (text : List Char) :
    ∃ upward, readExponent positive significand base text =
      readUnsigned positive upward significand base (unsigned text) := by
  unfold unsigned
  split
  · exact ⟨true, rfl⟩
  · exact ⟨false, rfl⟩
  · next hPlus hMinus =>
      refine ⟨true, ?_⟩
      unfold readExponent
      split
      next upward digits hSign =>
      split at hSign
      · exact (hPlus _ rfl).elim
      · exact (hMinus _ rfl).elim
      · obtain ⟨rfl, rfl⟩ := Prod.mk.inj hSign
        rfl

/-- Passing over an exponent looks at what follows its sign. -/
theorem skipExponent_eq (text : List Char) :
    skipExponent text =
      match unsigned text with
      | [] => stopAt .invalidNumber []
      | c :: rest =>
        if c.isDigit then .ok (rest.dropWhile Char.isDigit) else stopPast .invalidNumber (c :: rest) := by
  rfl

/-- An exponent that is read is passed over up to the same place. -/
theorem skipExponent_of_readExponent {positive : Bool} {significand : Nat} {base : Int} {text rest : List Char}
    {n : Number} (h : readExponent positive significand base text = .ok (n, rest)) :
    skipExponent text = .ok rest := by
  obtain ⟨upward, hRead⟩ := readExponent_eq positive significand base text
  rw [hRead] at h
  rw [skipExponent_eq]
  cases hText : unsigned text with
  | nil =>
      rw [hText] at h
      cases h
  | cons c digits =>
      rw [hText] at h
      unfold readUnsigned at h
      dsimp only at h ⊢
      split at h
      · cases h
      · next hDigit =>
          have hFirst : c.isDigit = true := by simpa using hDigit
          obtain ⟨hOk, hError⟩ := dropWhile_exponentDigits 0 (c :: digits)
          rw [List.dropWhile_cons_of_pos hFirst] at hOk hError
          rw [if_pos hFirst]
          split at h
          · next value after hDigits => rw [rest_of_finishDouble h, hOk value after hDigits]
          · next after hDigits =>
              split at h
              · cases h
              · rw [← (Prod.mk.inj (Except.ok.inj h)).2, hError after hDigits]

/-- Digits were accumulated only where one stands first. -/
theorem startsWithDigit_of_accumulate {value : Nat} {text : List Char}
    (h : ((accumulate value text).2.1 == 0 && !startsWithDigit (accumulate value text).2.2) = false) :
    startsWithDigit text = true := by
  rw [← Bool.not_eq_false]
  intro hNone
  rw [accumulate_of_not_digit hNone, hNone] at h
  cases h

/-- Passes over the exponent of a number if it has one. -/
def skipExponent? (text : List Char) : Except Fault (List Char) :=
  if startsWithExponent text then skipExponent text.tail else .ok text

/-- Places and what follows them are passed over up to where they are read. -/
theorem skip_of_readPlaces {positive : Bool} {significand : Nat} {base : Int} {text rest : List Char} {n : Number}
    (h : readPlaces positive significand base text = .ok (n, rest)) :
    startsWithDigit text = true ∧ skipExponent? (text.dropWhile Char.isDigit) = .ok rest := by
  unfold readPlaces at h
  dsimp only at h
  split at h
  · split at h <;> cases h
  · next hSome =>
      rw [dropWhile_accumulate] at h
      refine ⟨startsWithDigit_of_accumulate (Bool.eq_false_iff.mpr hSome), ?_⟩
      unfold skipExponent?
      split at h
      · next hExponent =>
          rw [if_pos hExponent]
          exact skipExponent_of_readExponent h
      · next hNone =>
          rw [if_neg hNone, rest_of_finishDouble h]

/-- What does not start with the letter is no exponent. -/
theorem not_startsWithExponent {text : List Char} (hLower : ∀ rest, text ≠ 'e' :: rest)
    (hUpper : ∀ rest, text ≠ 'E' :: rest) : startsWithExponent text = false := by
  unfold startsWithExponent
  split
  · exact (hLower _ rfl).elim
  · exact (hUpper _ rfl).elim
  · rfl

/-- A number that can be read is passed over, however large it is. -/
theorem skipNumber_of_readNumber {positive : Bool} {text rest : List Char} {n : Number}
    (h : readNumber positive text = .ok (n, rest)) : skipNumber text = .ok rest := by
  cases text with
  | nil => cases h
  | cons first afterFirst =>
      unfold readNumber at h
      unfold skipNumber
      dsimp only at h ⊢
      split at h
      · cases h
      · next hDigit =>
          rw [if_neg hDigit]
          split at h
          · cases h
          · next hZero =>
              rw [if_neg hZero]
              simp only [takeDigits, dropWhile_accumulate] at h
              generalize (first :: afterFirst).dropWhile Char.isDigit = behind at h ⊢
              split at h
              · obtain ⟨hPlaces, hSkip⟩ := skip_of_readPlaces h
                exact (if_pos hPlaces).trans hSkip
              · exact skipExponent_of_readExponent h
              · exact skipExponent_of_readExponent h
              · next hPoint hLower hUpper =>
                  have hNone := not_startsWithExponent hLower hUpper
                  have hRest : rest = behind := by
                    split at h
                    · exact rest_of_finishDouble h
                    · split at h
                      · exact (Prod.mk.inj (Except.ok.inj h)).2.symm
                      · split at h <;> exact (Prod.mk.inj (Except.ok.inj h)).2.symm
                  split
                  · exact (hPoint _ rfl).elim
                  · rw [hNone, hRest]
                    rfl

/-! ### Strings -/

/-- A code has four digits. -/
theorem length_of_readHex {text rest : List Char} {code : Nat} (h : readHex text = .ok (code, rest)) :
    text.length = rest.length + 4 := by
  unfold readHex at h
  dsimp only at h
  split at h
  · split at h
    · rw [← (Prod.mk.inj (Except.ok.inj h)).2]
      rfl
    · split at h <;> cases h
  · split at h <;> cases h

/-- The mark between two halves of a character is the one that was asked for. -/
theorem cons_of_readPairMark {mark : Char} {text rest : List Char} (h : readPairMark mark text = .ok rest) :
    text = mark :: rest := by
  cases text with
  | nil => cases h
  | cons c after =>
      rw [readPairMark] at h
      split at h
      · next hMark => rw [beq_iff_eq.mp hMark, Except.ok.inj h]
      · cases h

/-- Two surrogates of one character are passed over one after the other. -/
theorem skipCharacter_of_readCode {text rest : List Char} {c : Char} (h : readCode text = .ok (c, rest)) :
    ∃ code between, readHex text = .ok (code, between) ∧
      (between = rest ∨ skipCharacter between = .ok (some (), rest)) := by
  obtain ⟨⟨code, between⟩, hCode, h⟩ := bind_eq_ok h
  refine ⟨code, between, hCode, ?_⟩
  dsimp only at h
  split at h
  · cases h
  · split at h
    · exact .inl (Prod.mk.inj (Except.ok.inj h)).2
    · obtain ⟨_, hBackslash, h⟩ := bind_eq_ok h
      obtain ⟨_, hMark, h⟩ := bind_eq_ok h
      obtain ⟨⟨second, behind⟩, hSecond, h⟩ := bind_eq_ok h
      dsimp only at h
      split at h
      · cases h
      · rw [← (Prod.mk.inj (Except.ok.inj h)).2, cons_of_readPairMark hBackslash, cons_of_readPairMark hMark,
          skipCharacter, hSecond]
        exact .inr rfl

/-- A character that can be read is passed over in one step or, if it is written by two escapes, in two. -/
theorem skipCharacter_of_readCharacter {text rest : List Char} {c : Option Char}
    (h : readCharacter text = .ok (c, rest)) :
    skipCharacter text = .ok (c.map fun _ => (), rest) ∨
      ∃ between, c.isSome = true ∧ skipCharacter text = .ok (some (), between) ∧
        skipCharacter between = .ok (some (), rest) := by
  unfold readCharacter at h
  split at h
  · cases h
  · obtain ⟨rfl, rfl⟩ := Prod.mk.inj (Except.ok.inj h)
    exact .inl rfl
  · split at h
    · cases h
    · next digits =>
        obtain ⟨⟨read, after⟩, hCode, hRead⟩ := map_eq_ok h
        obtain ⟨rfl, rfl⟩ := Prod.mk.inj hRead
        obtain ⟨code, between, hHex, hBehind⟩ := skipCharacter_of_readCode hCode
        have hSkip : skipCharacter ('\\' :: 'u' :: digits) = .ok (some (), between) := by
          rw [skipCharacter, hHex]
          rfl
        rcases hBehind with rfl | hBehind
        · exact .inl hSkip
        · exact .inr ⟨between, rfl, hSkip, hBehind⟩
    · next letter after hLetter =>
        split at h
        · next hShort =>
            obtain ⟨rfl, rfl⟩ := Prod.mk.inj (Except.ok.inj h)
            refine .inl ?_
            rw [skipCharacter, hShort]
            · rfl
            · exact hLetter
        · cases h
  · next hQuote hBackslash =>
      split at h
      · cases h
      · next hPlain =>
          obtain ⟨rfl, rfl⟩ := Prod.mk.inj (Except.ok.inj h)
          refine .inl ?_
          rw [skipCharacter, if_neg hPlain]
          · rfl
          · exact hQuote
          · exact hBackslash

/-- Something is passed over with every character of a string. -/
theorem length_lt_of_skipCharacter {text rest : List Char} {unit : Option Unit}
    (h : skipCharacter text = .ok (unit, rest)) : rest.length < text.length := by
  unfold skipCharacter at h
  split at h
  · cases h
  · rw [← (Prod.mk.inj (Except.ok.inj h)).2]
    exact Nat.lt_succ_self _
  · split at h
    · cases h
    · obtain ⟨⟨code, after⟩, hHex, hRest⟩ := map_eq_ok h
      rw [← (Prod.mk.inj hRest).2]
      have hLength := length_of_readHex hHex
      simp only [List.length_cons]
      omega
    · split at h
      · rw [← (Prod.mk.inj (Except.ok.inj h)).2]
        simp only [List.length_cons]
        omega
      · cases h
  · split at h
    · cases h
    · rw [← (Prod.mk.inj (Except.ok.inj h)).2]
      exact Nat.lt_succ_self _

/-- A string that can be read is passed over up to its closing quote. -/
theorem collect_skipCharacter {bound more : Nat} {text rest s : List Char} {first : Bool} (again : Bool)
    (h : collect (fun _ => readCharacter) bound first text = .ok (s, rest)) (hBound : text.length < bound)
    (hMore : text.length < more) :
    ∃ units, collect (fun _ => skipCharacter) more again text = .ok (units, rest) ∧ rest.length < text.length := by
  induction bound generalizing more text s first again with
  | zero => cases hBound
  | succ bound ih =>
      obtain ⟨more, rfl⟩ : ∃ fewer, more = fewer + 1 := ⟨more - 1, by omega⟩
      rw [collect] at h
      split at h
      · cases h
      · next after hLast =>
          obtain ⟨-, rfl⟩ := Prod.mk.inj (Except.ok.inj h)
          rcases skipCharacter_of_readCharacter hLast with hSkip | ⟨between, hSome, -⟩
          · refine ⟨[], ?_, length_lt_of_skipCharacter hSkip⟩
            rw [collect, hSkip]
            rfl
          · cases hSome
      · next c after hFirst =>
          split at h
          · cases h
          · next others behind hOthers =>
              obtain ⟨-, rfl⟩ := Prod.mk.inj (Except.ok.inj h)
              rcases skipCharacter_of_readCharacter hFirst with hSkip | ⟨between, -, hSkip, hAgain⟩
              · have hShorter := length_lt_of_skipCharacter hSkip
                obtain ⟨units, hUnits, hLength⟩ := @ih more _ _ _ false hOthers (by omega) (by omega)
                refine ⟨() :: units, ?_, by omega⟩
                rw [collect, hSkip]
                simp only [Option.map_some, hUnits]
              · have hShorter := length_lt_of_skipCharacter hSkip
                have hShortest := length_lt_of_skipCharacter hAgain
                obtain ⟨more, rfl⟩ : ∃ fewer, more = fewer + 1 := ⟨more - 1, by omega⟩
                obtain ⟨units, hUnits, hLength⟩ := @ih more _ _ _ false hOthers (by omega) (by omega)
                refine ⟨() :: () :: units, ?_, by omega⟩
                rw [collect, hSkip]
                simp only [collect, hAgain, hUnits]

/-- A string that is read is passed over up to its closing quote, by induction on the bound of the reader. -/
theorem skipString_of_readString {text rest s : List Char} (h : readString text = .ok (s, rest)) :
    skipString text = .ok rest ∧ rest.length < text.length := by
  obtain ⟨units, hUnits, hLength⟩ :=
    collect_skipCharacter true h (Nat.lt_succ_self _) (Nat.lt_succ_self text.length)
  refine ⟨?_, hLength⟩
  rw [skipString, hUnits]
  rfl

/-! ### What is left of a text -/

/-- White space only makes a text longer. -/
theorem length_skipSpace_le (text : List Char) : (skipSpace text).length ≤ text.length :=
  (List.dropWhile_suffix _).length_le

theorem skipSpace_skipSpace (text : List Char) : skipSpace (skipSpace text) = skipSpace text :=
  List.dropWhile_idempotent _ _

/-- A character behind white space is more than nothing. -/
theorem length_lt_of_skipSpace {text rest : List Char} {c : Char} (h : skipSpace text = c :: rest) :
    rest.length < text.length := by
  have hLength := length_skipSpace_le text
  rw [h, List.length_cons] at hLength
  exact hLength

/-- No reader yields more text than it was given, which is shown for each of them. -/
theorem length_le_of_readWord {letters text rest : List Char} (h : readWord letters text = .ok rest) :
    rest.length ≤ text.length := by
  induction letters generalizing text with
  | nil => rw [Except.ok.inj h]
  | cons letter letters ih =>
      cases text with
      | nil => cases h
      | cons c text =>
          rw [readWord] at h
          split at h
          · exact (ih h).trans (Nat.le_succ _)
          · cases h

theorem length_le_of_readColon {text rest : List Char} (h : readColon text = .ok rest) :
    rest.length ≤ text.length := by
  unfold readColon at h
  split at h
  · cases h
  · next hColon =>
      rw [← Except.ok.inj h]
      exact (length_lt_of_skipSpace hColon).le
  · cases h

theorem length_unsigned_le (text : List Char) : (unsigned text).length ≤ text.length := by
  unfold unsigned
  split
  · exact Nat.le_succ _
  · exact Nat.le_succ _
  · exact le_rfl

theorem length_le_of_skipExponent {text rest : List Char} (h : skipExponent text = .ok rest) :
    rest.length ≤ text.length := by
  rw [skipExponent_eq] at h
  have hUnsigned := length_unsigned_le text
  cases hText : unsigned text with
  | nil =>
      rw [hText] at h
      cases h
  | cons c digits =>
      rw [hText] at h hUnsigned
      dsimp only at h
      split at h
      · rw [← Except.ok.inj h]
        have hDigits : (digits.dropWhile Char.isDigit).length ≤ digits.length :=
          (List.dropWhile_suffix _).length_le
        rw [List.length_cons] at hUnsigned
        omega
      · cases h

theorem length_le_of_skipExponent? {text rest : List Char} (h : skipExponent? text = .ok rest) :
    rest.length ≤ text.length := by
  unfold skipExponent? at h
  split at h
  · have hTail := length_le_of_skipExponent h
    rw [List.length_tail] at hTail
    omega
  · rw [Except.ok.inj h]

/-- A number is more than nothing, so that every value is. -/
theorem length_lt_of_skipNumber {text rest : List Char} (h : skipNumber text = .ok rest) :
    rest.length < text.length := by
  cases text with
  | nil => cases h
  | cons first afterFirst =>
      unfold skipNumber at h
      dsimp only at h
      split at h
      · cases h
      · next hDigit =>
          have hFirst : first.isDigit = true := by simpa using hDigit
          have hBehind : ((first :: afterFirst).dropWhile Char.isDigit).length ≤ afterFirst.length := by
            rw [List.dropWhile_cons_of_pos hFirst]
            exact (List.dropWhile_suffix _).length_le
          split at h
          · cases h
          · rw [List.length_cons]
            split at h
            · next places hPlaces =>
                rw [hPlaces, List.length_cons] at hBehind
                split at h
                · have hLength := length_le_of_skipExponent? h
                  have hDigits : (places.dropWhile Char.isDigit).length ≤ places.length :=
                    (List.dropWhile_suffix _).length_le
                  omega
                · cases h
            · have hLength := length_le_of_skipExponent? h
              omega

end LogIngest.Json
