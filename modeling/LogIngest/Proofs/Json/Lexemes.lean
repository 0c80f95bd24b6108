import LogIngest.Json.Lexeme
import LogIngest.Proofs.Decimal.Numeral

/-!
Strings and numbers are read back from the texts in which they are written. Main statements: a string of
any characters is read up to its closing quote, and a whole number of 64 bits is read up to the end of
its digits.
-/

namespace LogIngest.Json

/-- Where a value may end: at the end of the text, or before a comma or a closing bracket or brace. -/
inductive Closed : List Char → Prop where
  | done : Closed []
  | comma (rest : List Char) : Closed (',' :: rest)
  | bracket (rest : List Char) : Closed (']' :: rest)
  | brace (rest : List Char) : Closed ('}' :: rest)

namespace Closed

variable {rest : List Char}

theorem startsWithDigit_eq (h : Closed rest) : startsWithDigit rest = false := by
  cases h <;> rfl

theorem takeDigits_eq (h : Closed rest) : takeDigits rest = ([], rest) := by
  cases h <;> rfl

end Closed

/-! ### Strings -/

/-- The code of a control character names it. -/
theorem readCode_control {c : Char} (h : c.toNat < 0x20) (rest : List Char) :
    readCode ('0' :: '0' :: Nat.digitChar (c.toNat / 16) :: Nat.digitChar (c.toNat % 16) :: rest) =
      .ok (c, rest) := by
  have hHigh := hexValue?_digitChar (c.toNat / 16) (by omega)
  have hLow := hexValue?_digitChar (c.toNat % 16) (by omega)
  have hZero : hexValue? '0' = some 0 := rfl
  have hCode : ((0 * 16 + 0) * 16 + c.toNat / 16) * 16 + c.toNat % 16 = c.toNat := by omega
  have hHex : readHex ('0' :: '0' :: Nat.digitChar (c.toNat / 16) ::
      Nat.digitChar (c.toNat % 16) :: rest) = .ok (c.toNat, rest) := by
    simp only [readHex, hZero, hHigh, hLow, hCode]
  have hLone : (0xDC00 ≤ c.toNat && c.toNat ≤ 0xDFFF) = false := by
    rw [decide_eq_false (by omega), Bool.false_and]
  have hPlain : (decide (c.toNat < 0xD800) || decide (0xDBFF < c.toNat)) = true := by
    rw [decide_eq_true (by omega), Bool.true_or]
  unfold readCode
  simp only [hHex, bind, Except.bind, hLone, hPlain, if_true, Bool.false_eq_true, if_false,
    Char.ofNat_toNat]
  rfl

/-- A character is read back from its form inside a string. -/
theorem readCharacter_escaped (c : Char) (rest : List Char) :
    readCharacter (escaped c ++ rest) = .ok (some c, rest) := by
  unfold escaped
  iterate 7
    split
    · next h => rw [eq_of_beq h]; rfl
  split
  · next h =>
      have hCode := readCode_control h rest
      simp only [List.cons_append, List.nil_append, readCharacter, hCode]
      rfl
  · next hQuote hSlash _ _ _ _ _ hControl =>
      rw [List.singleton_append]
      unfold readCharacter
      split
      · next h => cases h
      · next h => simp [(List.cons.inj h).1] at hQuote
      · next h => simp [(List.cons.inj h).1] at hSlash
      · next h =>
          obtain ⟨rfl, rfl⟩ := List.cons.inj h
          rw [if_neg hControl]

theorem collect_escaped (s rest : List Char) {bound : Nat} (hBound : s.length < bound)
    (first : Bool) :
    collect (fun _ => readCharacter) bound first (s.flatMap escaped ++ '"' :: rest) =
      .ok (s, rest) := by
  induction s generalizing bound first with
  | nil =>
      cases bound with
      | zero => cases hBound
      | succ bound => rfl
  | cons c s ih =>
      cases bound with
      | zero => cases hBound
      | succ bound =>
          have hRest := ih (Nat.lt_of_succ_lt_succ hBound) false
          rw [List.flatMap_cons, List.append_assoc]
          simp only [collect, readCharacter_escaped, hRest]

theorem length_le_length_escaped (s : List Char) : s.length ≤ (s.flatMap escaped).length := by
  induction s with
  | nil => exact Nat.le_refl 0
  | cons c s ih =>
      have hOne : 1 ≤ (escaped c).length := by
        unfold escaped
        repeat' split
        all_goals simp
      rw [List.flatMap_cons, List.length_append, List.length_cons]
      omega

/-- A string is read back up to its closing quote. -/
theorem readString_escaped (s rest : List Char) :
    readString (s.flatMap escaped ++ '"' :: rest) = .ok (s, rest) := by
  have hBound : s.length < (s.flatMap escaped ++ '"' :: rest).length + 1 := by
    have hLength := length_le_length_escaped s
    rw [List.length_append]
    omega
  exact collect_escaped s rest hBound true

/-! ### Whole numbers -/

/-- Digits whose value fits 64 bits are all taken. -/
theorem accumulate_append {digits rest : List Char} (hDigits : ∀ c ∈ digits, c.isDigit = true)
    (hRest : startsWithDigit rest = false) {value : Nat}
    (hFits : digitsValueFrom value digits < Nat.pow 2 64) :
    accumulate value (digits ++ rest) = (digitsValueFrom value digits, digits.length, rest) := by
  induction digits generalizing value with
  | nil =>
      cases rest with
      | nil => rfl
      | cons c rest =>
          have hc : digitValue? c = none := if_neg (by simpa [startsWithDigit] using hRest)
          simp only [List.nil_append, accumulate, hc]
          rfl
  | cons c digits ih =>
      have hc : digitValue? c = some (c.toNat - '0'.toNat) :=
        if_pos (hDigits c List.mem_cons_self)
      rw [digitsValueFrom_cons value hc] at hFits ⊢
      have hNext : ¬Nat.pow 2 64 ≤ 10 * value + (c.toNat - '0'.toNat) :=
        Nat.not_le.mpr (Nat.lt_of_le_of_lt (le_digitsValueFrom _ digits) hFits)
      have hTail := ih (fun d hd => hDigits d (List.mem_cons_of_mem c hd)) hFits
      rw [List.cons_append, accumulate]
      simp only [hc, if_neg hNext, hTail, List.length_cons]

/-- The digits of a number of 64 bits are read as that number, or as its negation where that has 64
bits too. -/
theorem readNumber_natText (positive : Bool) {n : Nat} (hn : n < Nat.pow 2 64) {rest : List Char}
    (hRest : Closed rest) :
    readNumber positive (natText n ++ rest) =
      if positive then .ok (.integer n, rest)
      else if n == 0 || Nat.pow 2 63 < n then .ok (.double (-(Float.ofNat n)), rest)
      else .ok (.integer (-n), rest) := by
  have hDigits : ∀ c ∈ natText n, c.isDigit = true := fun c => isDigit_of_mem_natText
  have hTaken : accumulate 0 (natText n ++ rest) = (n, (natText n).length, rest) := by
    have hValue : digitsValueFrom 0 (natText n) = n := digitsValue_natText n
    have hAll := accumulate_append hDigits hRest.startsWithDigit_eq (hValue.symm ▸ hn)
    rwa [hValue] at hAll
  obtain ⟨c, digits, hText⟩ := List.exists_cons_of_ne_nil (natText_ne_nil n)
  have hFirst : c.isDigit = true := hDigits c (by simp [hText])
  have hZero : (c == '0' && startsWithDigit (digits ++ rest)) = false := by
    rcases Nat.eq_zero_or_pos n with rfl | hPos
    · obtain ⟨rfl, rfl⟩ := List.cons.inj ((natText_of_lt (by decide)).symm.trans hText)
      exact hRest.startsWithDigit_eq
    · simp [natText_head hPos hText]
  rw [hText, List.cons_append] at hTaken ⊢
  simp only [readNumber, hFirst, hZero, hTaken, hRest.takeDigits_eq]
  cases hRest <;> rfl

theorem readNumber_of_nonneg {n : Int} (hn : 0 ≤ n) (hFits : n ≤ Bounds.word64.greatest) {rest : List Char}
    (hRest : Closed rest) :
    readNumber true (natText n.natAbs ++ rest) = .ok (.integer n, rest) := by
  have hAbs : (n.natAbs : Int) = n := Int.natAbs_of_nonneg hn
  have hNat : n.natAbs < Nat.pow 2 64 := by
    simp only [Bounds.word64] at hFits
    simp only [Nat.pow_eq]
    omega
  rw [readNumber_natText true hNat hRest, if_pos rfl, hAbs]

theorem readNumber_of_neg {n : Int} (hn : n < 0) (hFits : Bounds.int64.least ≤ n) {rest : List Char}
    (hRest : Closed rest) :
    readNumber false (natText n.natAbs ++ rest) = .ok (.integer n, rest) := by
  have hAbs : -(n.natAbs : Int) = n := by omega
  have hBounds : n.natAbs ≠ 0 ∧ n.natAbs ≤ Nat.pow 2 63 := by
    simp only [Bounds.int64] at hFits
    simp only [Nat.pow_eq]
    omega
  have hNat : n.natAbs < Nat.pow 2 64 := Nat.lt_of_le_of_lt hBounds.2 (by decide)
  have hWhole : (n.natAbs == 0 || Nat.pow 2 63 < n.natAbs) = false := by
    rw [beq_false_of_ne hBounds.1, decide_eq_false (Nat.not_lt.mpr hBounds.2)]
    rfl
  rw [readNumber_natText false hNat hRest, hWhole, hAbs]
  rfl

end LogIngest.Json
