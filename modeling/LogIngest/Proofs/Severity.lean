import LogIngest.Proofs.Decimal.Numeral
import LogIngest.Proofs.Text.Lowercase
import LogIngest.Severity

/-!
What texts denote severities. Main statement: a severity is denoted by its code and by its name, and the texts
that denote none are those of information.
-/

namespace LogIngest.Severity

/-- The texts of the code of a severity: its digit, behind any number of zeros, with a plus sign or without. -/
inductive IsCode (severity : Severity) : (token : List Char) → Prop where
  | unsigned (zeros : Nat) : severity.IsCode (List.replicate zeros '0' ++ [Nat.digitChar severity.code])
  | signed (zeros : Nat) : severity.IsCode ('+' :: (List.replicate zeros '0' ++ [Nat.digitChar severity.code]))

/-- The texts that denote a severity: its code, and its name in capital or small letters. -/
inductive Denotes (severity : Severity) (token : List Char) : Prop where
  | code (h : severity.IsCode token) : severity.Denotes token
  | name (h : Text.sameIgnoringAsciiCase severity.name.toList token = true) : severity.Denotes token

/-- A severity is stated if the text is there and, without white space around it, denotes it. -/
def IsStatedBy (severity : Severity) (text : Option String) : Prop :=
  ∃ s, text = some s ∧ severity.Denotes (Text.trim s.toList)

variable {severity : Severity} {token : List Char}

theorem mem_all (severity : Severity) : severity ∈ all := by
  cases severity <;> decide

theorem code_lt (severity : Severity) : severity.code < 8 := by
  cases severity <;> decide

theorem ofCode?_eq_some_iff {code : Nat} : ofCode? code = some severity ↔ code = severity.code := by
  constructor
  · intro h
    obtain ⟨hLess, rfl⟩ := List.getElem?_eq_some_iff.mp h
    have hCodes : ∀ (n : Nat) (h : n < all.length), n = all[n].code := by decide
    exact hCodes code hLess
  · rintro rfl
    exact ofCode?_code severity

/-! ### Names -/

theorem name_injective {other : Severity}
    (h : severity.name.toList.map Char.toLower = other.name.toList.map Char.toLower) : severity = other := by
  have hNames : ∀ a ∈ all, ∀ b ∈ all,
      a.name.toList.map Char.toLower = b.name.toList.map Char.toLower → a = b := by decide
  exact hNames severity severity.mem_all other other.mem_all h

theorem name_of_ofName? (h : ofName? token = some severity) :
    Text.sameIgnoringAsciiCase severity.name.toList token = true :=
  List.find?_some (p := fun severity : Severity => Text.sameIgnoringAsciiCase severity.name.toList token) h

theorem ofName?_eq_some_iff :
    ofName? token = some severity ↔ Text.sameIgnoringAsciiCase severity.name.toList token = true := by
  constructor
  · exact name_of_ofName?
  · intro h
    cases hFound : ofName? token with
    | none => exact absurd h (List.find?_eq_none.mp hFound severity severity.mem_all)
    | some other =>
        have hOther := name_of_ofName? hFound
        rw [Text.sameIgnoringAsciiCase, beq_iff_eq] at h hOther
        rw [name_injective (hOther.trans h.symm)]

/-- No name has a digit in it. -/
theorem not_isNumeral_of_name (h : Text.sameIgnoringAsciiCase severity.name.toList token = true) (n : Int) :
    ¬IsNumeral token n := by
  have hKept : Char.isDigit ∘ Char.toLower = Char.isDigit := funext (Text.apply_toLower (by decide))
  have hSame (text : List Char) : (text.map Char.toLower).any Char.isDigit = text.any Char.isDigit := by
    rw [List.any_map, hKept]
  have hName : severity.name.toList.any Char.isDigit = false := by cases severity <;> decide
  rw [Text.sameIgnoringAsciiCase, beq_iff_eq] at h
  rw [← hSame, h, hSame] at hName
  exact fun hNumeral => Bool.noConfusion (hName.symm.trans hNumeral.any_isDigit)

/-! ### Codes -/

theorem read_byte_iff {n : Int} : Bounds.byte.read token = .ok n ↔
    IsNumeral token n ∧ token.head? ≠ some '-' ∧ Bounds.byte.admits n = true := by
  have hNoSign : ¬Bounds.byte.least < 0 := by decide
  have hLeast : Bounds.byte.least ≤ 0 := by decide
  have hGreatest : 0 ≤ Bounds.byte.greatest := by decide
  rw [Bounds.read_eq_ok_iff_signed hLeast hGreatest, imp_iff_not hNoSign]

/-- The texts of a code are read as that number, and no other texts are. -/
theorem read_code_iff : Bounds.byte.read token = .ok (severity.code : Int) ↔ severity.IsCode token := by
  have hLess := severity.code_lt
  have hDigit : severity.code < 10 := by omega
  have hAdmits : Bounds.byte.admits severity.code = true := by
    rw [Bounds.admits_iff]
    simp only [Bounds.byte]
    omega
  rw [read_byte_iff]
  constructor
  · rintro ⟨hNumeral, hSign, -⟩
    generalize hCode : (severity.code : Int) = n at hNumeral
    cases hNumeral with
    | unsigned hSome hDigits =>
        have hValue := (Int.ofNat_inj.mp hCode).symm
        obtain ⟨zeros, rfl⟩ := (digitsValue_eq_digit_iff hDigit).mp ⟨hSome, hDigits, hValue⟩
        exact .unsigned zeros
    | positive hSome hDigits =>
        have hValue := (Int.ofNat_inj.mp hCode).symm
        obtain ⟨zeros, rfl⟩ := (digitsValue_eq_digit_iff hDigit).mp ⟨hSome, hDigits, hValue⟩
        exact .signed zeros
    | negative hSome hDigits => exact absurd rfl hSign
  · intro h
    cases h with
    | unsigned zeros =>
        obtain ⟨hSome, hDigits, hValue⟩ := (digitsValue_eq_digit_iff hDigit).mpr ⟨zeros, rfl⟩
        have hNumeral := IsNumeral.unsigned hSome hDigits
        rw [hValue] at hNumeral
        refine ⟨hNumeral, fun hHead => ?_, hAdmits⟩
        cases hDigits '-' (List.mem_of_mem_head? hHead)
    | signed zeros =>
        obtain ⟨hSome, hDigits, hValue⟩ := (digitsValue_eq_digit_iff hDigit).mpr ⟨zeros, rfl⟩
        have hNumeral := IsNumeral.positive hSome hDigits
        rw [hValue] at hNumeral
        exact ⟨hNumeral, by simp, hAdmits⟩

/-! ### What a text denotes -/

/-- The severity that a text denotes, if there is one. -/
def denoted? (token : List Char) : Option Severity :=
  match Bounds.byte.read token with
  | .ok code => ofCode? code.toNat
  | .error _ => ofName? token

theorem ofToken_eq (token : List Char) : ofToken token = (denoted? token).getD information := by
  unfold ofToken denoted?
  cases Bounds.byte.read token <;> rfl

/-- A text is a code, if it is a number, and otherwise a name: a numeral that is too long for a number of eight
bits is looked up as a name and found to be none. -/
theorem denoted?_eq_some_iff : denoted? token = some severity ↔ severity.Denotes token := by
  unfold denoted?
  cases hRead : Bounds.byte.read token with
  | ok n =>
      have hNonneg : 0 ≤ n := (Bounds.admits_iff.mp (read_byte_iff.mp hRead).2.2).1
      have hCode : n.toNat = severity.code ↔ Bounds.byte.read token = .ok (severity.code : Int) := by
        rw [hRead, Except.ok.injEq]
        omega
      rw [ofCode?_eq_some_iff, hCode, read_code_iff]
      constructor
      · exact .code
      · intro h
        cases h with
        | code hCode => exact hCode
        | name hName => exact absurd (read_byte_iff.mp hRead).1 (not_isNumeral_of_name hName n)
  | error fault =>
      rw [ofName?_eq_some_iff]
      constructor
      · exact .name
      · intro h
        cases h with
        | code hCode => cases hRead.symm.trans (read_code_iff.mpr hCode)
        | name hName => exact hName

/-- The severity of a text is the one that it denotes, and information if it denotes none. -/
theorem ofText_eq_getD (text : Option String) :
    ofText text = (text.bind fun s => denoted? (Text.trim s.toList)).getD information := by
  cases text with
  | none => rfl
  | some s =>
      simp only [ofText, Option.map_some, Option.bind_some]
      cases hTrim : Text.trim s.toList with
      | nil => rfl
      | cons c rest => exact ofToken_eq (c :: rest)

theorem isStatedBy_iff {text : Option String} :
    severity.IsStatedBy text ↔ (text.bind fun s => denoted? (Text.trim s.toList)) = some severity := by
  simp only [IsStatedBy, Option.bind_eq_some_iff, denoted?_eq_some_iff]

/-- A text is read as the severity that it states: the digit of its code behind any number of zeros, with a plus
sign or without one, or its name. No text states two of them. What states none is read as information: a missing
or blank text, a larger or a negative number, any other word. -/
theorem ofText_eq_iff {text : Option String} :
    ofText text = severity ↔
      severity.IsStatedBy text ∨ severity = information ∧ ∀ other : Severity, ¬other.IsStatedBy text := by
  simp only [ofText_eq_getD, isStatedBy_iff]
  cases text.bind fun s => denoted? (Text.trim s.toList) with
  | none => simp [eq_comm]
  | some stated => simp

example : [" +0005\n", "cRITICAL", "+", "-0", "0256", "8"].map (fun s => ofText (some s)) =
    [notice, critical, information, information, information, information] := by
  decide

end LogIngest.Severity
