import Mathlib.Algebra.Group.Nat.Defs
import Mathlib.Data.List.Basic
import Mathlib.Data.List.Induction
import LogIngest.Decimal.Numeral

/-!
Decimal numerals. Main statements: the numerals of the numbers within bounds, and no other texts, are read as
numbers; the digits with which a number is written have the value of the number, with zeros before them or
without, and the first of them is a zero only when the number is; and digits are told by their value, if it is
known how many they are or that no zero leads them.
-/

namespace LogIngest

/-- The character of a decimal digit has its value. -/
theorem digitValue?_digitChar : ∀ d < 10, digitValue? (Nat.digitChar d) = some d := by
  decide

/-- The character of a hexadecimal digit, in lower case, has its value. -/
theorem hexValue?_digitChar : ∀ d < 16, hexValue? (Nat.digitChar d) = some d := by
  decide

theorem exists_digitValue?_of_isDigit {c : Char} (h : c.isDigit = true) : ∃ d, digitValue? c = some d :=
  ⟨_, if_pos h⟩

/-- The codes of the digits stand next to each other. -/
theorem toNat_of_isDigit {c : Char} (h : c.isDigit = true) : 48 ≤ c.toNat ∧ c.toNat ≤ 57 := by
  simp only [Char.isDigit, Bool.and_eq_true, decide_eq_true_eq, ge_iff_le, UInt32.le_iff_toNat_le] at h
  exact h

/-- Only digits have a value. -/
theorem isDigit_of_digitValue? {c : Char} {d : Nat} (h : digitValue? c = some d) : c.isDigit = true := by
  unfold digitValue? at h
  split at h
  · next hDigit => exact hDigit
  · cases h

/-- Digits are taken up to the first character that is none. -/
theorem takeWhile_digits {digits rest : List Char} (hDigits : ∀ c ∈ digits, c.isDigit = true)
    (hRest : ∀ c ∈ rest.head?, c.isDigit = false) :
    (digits ++ rest).takeWhile Char.isDigit = digits := by
  have hStop : rest.takeWhile Char.isDigit = [] := by
    cases rest with
    | nil => rfl
    | cons c rest => simp [hRest c rfl]
  rw [List.takeWhile_append_of_pos hDigits, hStop, List.append_nil]

/-- The test of bounds is a comparison with both of them. -/
theorem Bounds.admits_iff {bounds : Bounds} {n : Int} :
    bounds.admits n = true ↔ bounds.least ≤ n ∧ n ≤ bounds.greatest := by
  rw [admits, Bool.and_eq_true, decide_eq_true_iff, decide_eq_true_iff]

/-- The value that a run of digits gives to a number when they are written behind it. -/
def digitsValueFrom (value : Nat) (digits : List Char) : Nat :=
  digits.foldl (fun value c => 10 * value + (digitValue? c).getD 0) value

/-- A digit in front multiplies what was read before by ten. -/
theorem digitsValueFrom_cons (value : Nat) {c : Char} {d : Nat} (h : digitValue? c = some d)
    (digits : List Char) :
    digitsValueFrom value (c :: digits) = digitsValueFrom (10 * value + d) digits := by
  simp [digitsValueFrom, h]

/-- Further digits never make a number smaller. -/
theorem le_digitsValueFrom (value : Nat) (digits : List Char) :
    value ≤ digitsValueFrom value digits := by
  induction digits generalizing value with
  | nil => exact Nat.le_refl value
  | cons c rest ih =>
      have hRest := ih (10 * value + (digitValue? c).getD 0)
      simp only [digitsValueFrom, List.foldl_cons] at hRest ⊢
      omega

/-- A digit behind the others is the last one of the value. -/
theorem digitsValue_concat (digits : List Char) (c : Char) :
    digitsValue (digits ++ [c]) = 10 * digitsValue digits + (digitValue? c).getD 0 := by
  simp [digitsValue]

/-- The texts that are numerals of a number: digits, with a sign before them or without. -/
inductive IsNumeral : (text : List Char) → Int → Prop where
  | unsigned {digits : List Char} (hSome : digits ≠ []) (hDigits : ∀ c ∈ digits, c.isDigit = true) :
      IsNumeral digits (digitsValue digits)
  | positive {digits : List Char} (hSome : digits ≠ []) (hDigits : ∀ c ∈ digits, c.isDigit = true) :
      IsNumeral ('+' :: digits) (digitsValue digits)
  | negative {digits : List Char} (hSome : digits ≠ []) (hDigits : ∀ c ∈ digits, c.isDigit = true) :
      IsNumeral ('-' :: digits) (-digitsValue digits)

section

variable {digits : List Char} {n : Int}

/-- A numeral is never a sign alone. -/
theorem IsNumeral.any_isDigit {text : List Char} (h : IsNumeral text n) : text.any Char.isDigit = true := by
  cases h with
  | unsigned hSome hDigits | positive hSome hDigits | negative hSome hDigits =>
      obtain ⟨first, rest, rfl⟩ := List.exists_cons_of_ne_nil hSome
      simp [hDigits first List.mem_cons_self]

/-- Digits without a sign stand for their value. -/
theorem IsNumeral.eq_of_digits (h : IsNumeral digits n) (hDigits : ∀ c ∈ digits, c.isDigit = true) :
    n = digitsValue digits := by
  cases h with
  | unsigned => rfl
  | positive => cases hDigits '+' List.mem_cons_self
  | negative => cases hDigits '-' List.mem_cons_self

theorem IsNumeral.eq_of_plus (h : IsNumeral ('+' :: digits) n) : n = digitsValue digits := by
  cases h with
  | unsigned _ hDigits => cases hDigits '+' List.mem_cons_self
  | positive => rfl

theorem IsNumeral.eq_of_minus (h : IsNumeral ('-' :: digits) n) : n = -digitsValue digits := by
  cases h with
  | unsigned _ hDigits => cases hDigits '-' List.mem_cons_self
  | negative => rfl

end

/-! ## Reading within bounds -/

namespace Bounds

variable {bounds : Bounds} {digits : List Char}

/-- Digits are read as their value, unless it is too large. -/
theorem readUp_digits (hDigits : ∀ c ∈ digits, c.isDigit = true) {value : Nat}
    (hValue : value ≤ bounds.greatest) :
    bounds.readUp value digits =
      if digitsValueFrom value digits ≤ bounds.greatest then .ok (digitsValueFrom value digits : Int)
      else .error .tooLarge := by
  induction digits generalizing value with
  | nil => exact (if_pos hValue).symm
  | cons c rest ih =>
      obtain ⟨hFirst, hRest⟩ := List.forall_mem_cons.mp hDigits
      obtain ⟨d, hDigit⟩ := exists_digitValue?_of_isDigit hFirst
      rw [digitsValueFrom_cons value hDigit]
      simp only [readUp, hDigit]
      have hNext : 10 * (value : Int) + d = (10 * value + d : Nat) := by omega
      rw [hNext]
      split
      · next hLarge =>
          have hGrows := le_digitsValueFrom (10 * value + d) rest
          rw [if_neg (by omega)]
      · next hFits => exact ih hRest (by omega)

/-- What is read is made of digits: any other character stops it. -/
theorem isDigit_of_readUp {value n : Int} (h : bounds.readUp value digits = .ok n) :
    ∀ c ∈ digits, c.isDigit = true := by
  induction digits generalizing value with
  | nil => exact fun c hc => absurd hc List.not_mem_nil
  | cons c rest ih =>
      cases hDigit : digitValue? c with
      | none => simp [readUp, hDigit] at h
      | some d =>
          simp only [readUp, hDigit] at h
          split at h
          · cases h
          · exact List.forall_mem_cons.mpr ⟨isDigit_of_digitValue? hDigit, ih h⟩

/-- The bounds of the negatives of the numbers within some bounds. -/
def mirrored (bounds : Bounds) : Bounds where
  least := -bounds.greatest
  greatest := -bounds.least

/-- What is read of a number, from what is read of its negative. -/
def mirroredRead : Except NumeralFault Int → Except NumeralFault Int
  | .ok n => .ok (-n)
  | .error .tooLarge => .error .tooSmall
  | .error fault => .error fault

/-- Reading down is reading up on the other side of zero, so nothing has to be proved of it by itself. -/
theorem readDown_eq_mirroredRead (value : Int) (digits : List Char) :
    bounds.readDown value digits = mirroredRead (bounds.mirrored.readUp (-value) digits) := by
  induction digits generalizing value with
  | nil => rw [readDown, readUp, mirroredRead, Int.neg_neg]
  | cons c rest ih =>
      cases hDigit : digitValue? c with
      | none => simp only [readDown, readUp, hDigit, mirroredRead]
      | some d =>
          have hNext : 10 * -value + d = -(10 * value - d) := by omega
          have hBeyond : -bounds.least < -(10 * value - d) ↔ 10 * value - d < bounds.least := by omega
          simp only [readDown, readUp, hDigit, mirrored, hNext, hBeyond]
          split
          · rfl
          · exact ih _

/-- Behind a minus sign they are read as its negative, unless that is too small. -/
theorem readDown_digits (hDigits : ∀ c ∈ digits, c.isDigit = true) {value : Nat}
    (hValue : bounds.least ≤ -value) :
    bounds.readDown (-value) digits =
      if bounds.least ≤ -digitsValueFrom value digits then .ok (-digitsValueFrom value digits : Int)
      else .error .tooSmall := by
  have hMirrored : (value : Int) ≤ bounds.mirrored.greatest := by
    simp only [mirrored]
    omega
  have hBound : (digitsValueFrom value digits : Int) ≤ bounds.mirrored.greatest ↔
      bounds.least ≤ -digitsValueFrom value digits := by
    simp only [mirrored]
    omega
  rw [readDown_eq_mirroredRead, Int.neg_neg, readUp_digits hDigits hMirrored]
  simp only [hBound]
  split <;> rfl

/-- This carries over from reading up. -/
theorem isDigit_of_readDown {value n : Int} (h : bounds.readDown value digits = .ok n) :
    ∀ c ∈ digits, c.isDigit = true := by
  rw [readDown_eq_mirroredRead] at h
  cases hUp : bounds.mirrored.readUp (-value) digits with
  | ok m => exact isDigit_of_readUp hUp
  | error fault =>
      rw [hUp] at h
      cases fault <;> cases h

/-- A text without a sign is read up from its first character. -/
theorem read_unsigned {first : Char} {rest : List Char} (hPlus : first ≠ '+') (hMinus : first ≠ '-') :
    bounds.read (first :: rest) = bounds.readUp 0 (first :: rest) := by
  unfold read
  split
  · next h => cases h
  · next h => exact absurd (List.cons.inj h).1 hPlus
  · next h => exact absurd (List.cons.inj h).1 hMinus
  · next h => exact absurd (List.cons.inj h).1 hPlus
  · next h => exact absurd (List.cons.inj h).1 hMinus
  · rfl

theorem read_plus (hSome : digits ≠ []) : bounds.read ('+' :: digits) = bounds.readUp 0 digits := by
  obtain ⟨first, rest, rfl⟩ := List.exists_cons_of_ne_nil hSome
  rfl

theorem read_minus (hSome : digits ≠ []) (hLeast : bounds.least < 0) :
    bounds.read ('-' :: digits) = bounds.readDown 0 digits := by
  obtain ⟨first, rest, rfl⟩ := List.exists_cons_of_ne_nil hSome
  simp [read, hLeast]

/-- A text of digits is read as its value within the upper bound. -/
theorem read_digits (hSome : digits ≠ []) (hDigits : ∀ c ∈ digits, c.isDigit = true)
    (hGreatest : 0 ≤ bounds.greatest) :
    bounds.read digits =
      if digitsValue digits ≤ bounds.greatest then .ok (digitsValue digits : Int)
      else .error .tooLarge := by
  obtain ⟨first, rest, rfl⟩ := List.exists_cons_of_ne_nil hSome
  have hFirst := hDigits first List.mem_cons_self
  have hPlus : first ≠ '+' := by rintro rfl; cases hFirst
  have hMinus : first ≠ '-' := by rintro rfl; cases hFirst
  rw [read_unsigned hPlus hMinus]
  exact readUp_digits hDigits hGreatest

/-- A plus sign in front of digits makes no difference. -/
theorem read_plus_digits (hSome : digits ≠ []) (hDigits : ∀ c ∈ digits, c.isDigit = true)
    (hGreatest : 0 ≤ bounds.greatest) :
    bounds.read ('+' :: digits) =
      if digitsValue digits ≤ bounds.greatest then .ok (digitsValue digits : Int)
      else .error .tooLarge := by
  rw [read_plus hSome]
  exact readUp_digits hDigits hGreatest

/-- A minus sign in front of digits asks for the lower bound instead, if there are negative numbers at all. -/
theorem read_minus_digits (hSome : digits ≠ []) (hDigits : ∀ c ∈ digits, c.isDigit = true)
    (hLeast : bounds.least < 0) :
    bounds.read ('-' :: digits) =
      if bounds.least ≤ -digitsValue digits then .ok (-digitsValue digits : Int)
      else .error .tooSmall := by
  have hZero : bounds.least ≤ -(0 : Nat) := Int.le_of_lt hLeast
  rw [read_minus hSome hLeast]
  exact readDown_digits hDigits hZero

/-- A minus sign is a sign only where negative numbers are admitted. -/
theorem least_neg_of_read_minus {n : Int} (h : bounds.read ('-' :: digits) = .ok n) : bounds.least < 0 := by
  cases digits with
  | nil => cases h
  | cons first rest =>
      by_contra hLeast
      simp [read, hLeast] at h

/-- What is read as a number is written as one. -/
theorem isNumeral_of_read {text : List Char} {n : Int} (hGreatest : 0 ≤ bounds.greatest)
    (h : bounds.read text = .ok n) : IsNumeral text n := by
  cases text with
  | nil => cases h
  | cons first rest =>
      by_cases hSign : first = '+' ∨ first = '-'
      · have hSome : rest ≠ [] := by
          rintro rfl
          rcases hSign with rfl | rfl <;> cases h
        rcases hSign with rfl | rfl
        · have hDigits := isDigit_of_readUp (read_plus hSome ▸ h)
          rw [read_plus_digits hSome hDigits hGreatest] at h
          split at h
          · exact Except.ok.inj h ▸ .positive hSome hDigits
          · cases h
        · have hLeast := least_neg_of_read_minus h
          have hDigits := isDigit_of_readDown (read_minus hSome hLeast ▸ h)
          rw [read_minus_digits hSome hDigits hLeast] at h
          split at h
          · exact Except.ok.inj h ▸ .negative hSome hDigits
          · cases h
      · obtain ⟨hPlus, hMinus⟩ := not_or.mp hSign
        have hDigits := isDigit_of_readUp (read_unsigned hPlus hMinus ▸ h)
        rw [read_digits (List.cons_ne_nil first rest) hDigits hGreatest] at h
        split at h
        · exact Except.ok.inj h ▸ .unsigned (List.cons_ne_nil first rest) hDigits
        · cases h

/-- Only the bounds can keep a numeral from being read, if its minus sign is taken for one. -/
theorem read_of_isNumeral {text : List Char} {n : Int} (hLeast : bounds.least ≤ 0)
    (hGreatest : 0 ≤ bounds.greatest) (hSign : text.head? = some '-' → bounds.least < 0) (h : IsNumeral text n) :
    bounds.read text = .ok n ↔ bounds.admits n = true := by
  rw [admits_iff]
  cases h with
  | unsigned hSome hDigits =>
      rw [read_digits hSome hDigits hGreatest]
      split <;> simp <;> omega
  | positive hSome hDigits =>
      rw [read_plus_digits hSome hDigits hGreatest]
      split <;> simp <;> omega
  | negative hSome hDigits =>
      rw [read_minus_digits hSome hDigits (hSign rfl)]
      split <;> simp <;> omega

/-- The numerals of the numbers within the bounds are read, and no other texts. Where negative numbers are not
admitted, not even zero has a minus sign. -/
theorem read_eq_ok_iff_signed {text : List Char} {n : Int} (hLeast : bounds.least ≤ 0)
    (hGreatest : 0 ≤ bounds.greatest) :
    bounds.read text = .ok n ↔
      IsNumeral text n ∧ (text.head? = some '-' → bounds.least < 0) ∧ bounds.admits n = true := by
  constructor
  · intro h
    have hNumeral := isNumeral_of_read hGreatest h
    have hSign : text.head? = some '-' → bounds.least < 0 := by
      intro hHead
      obtain ⟨digits, rfl⟩ := List.head?_eq_some_iff.mp hHead
      exact least_neg_of_read_minus h
    exact ⟨hNumeral, hSign, (read_of_isNumeral hLeast hGreatest hSign hNumeral).mp h⟩
  · rintro ⟨hNumeral, hSign, hAdmits⟩
    exact (read_of_isNumeral hLeast hGreatest hSign hNumeral).mpr hAdmits

/-- Where negative numbers are admitted, the numerals of the numbers within the bounds are read, and no
other texts. -/
theorem read_eq_ok_iff {text : List Char} {n : Int} (hLeast : bounds.least < 0)
    (hGreatest : 0 ≤ bounds.greatest) :
    bounds.read text = .ok n ↔ IsNumeral text n ∧ bounds.admits n = true := by
  rw [read_eq_ok_iff_signed (Int.le_of_lt hLeast) hGreatest]
  simp [hLeast]

end Bounds

/-! ## Writing -/

/-- A number of one digit is written with it. -/
theorem natText_of_lt {n : Nat} (h : n < 10) : natText n = [Nat.digitChar n] :=
  Nat.toDigits_of_lt_base h

/-- The last digit of a longer number is its remainder by ten, and the others are the quotient. Proofs about
written digits go by these two cases. -/
theorem natText_of_le {n : Nat} (h : 10 ≤ n) :
    natText n = natText (n / 10) ++ [Nat.digitChar (n % 10)] :=
  Nat.toDigits_of_base_le (by decide) h

/-- A number is written with digits only. -/
theorem isDigit_of_mem_natText {n : Nat} {c : Char} (h : c ∈ natText n) : c.isDigit = true :=
  Nat.isDigit_of_mem_toDigits (by decide) (by decide) h

theorem natText_ne_nil (n : Nat) : natText n ≠ [] :=
  Nat.toDigits_ne_nil

/-- The digits of a number have its value. -/
theorem digitsValue_natText (n : Nat) : digitsValue (natText n) = n := by
  induction n using Nat.strongRecOn with
  | ind n ih =>
      rcases Nat.lt_or_ge n 10 with hn | hn
      · rw [natText_of_lt hn]
        simp [digitsValue, digitValue?_digitChar n hn]
      · have hHigh : digitsValue (natText (n / 10)) = n / 10 := ih (n / 10) (by omega)
        have hLow : digitValue? (Nat.digitChar (n % 10)) = some (n % 10) :=
          digitValue?_digitChar _ (Nat.mod_lt n (by decide))
        rw [natText_of_le hn, digitsValue_concat, hHigh, hLow, Option.getD_some]
        omega

/-- No number but zero is written with a leading zero. -/
theorem natText_head {n : Nat} (h : 0 < n) {c : Char} {digits : List Char}
    (hText : natText n = c :: digits) : c ≠ '0' := by
  induction n using Nat.strongRecOn generalizing digits with
  | ind n ih =>
      rcases Nat.lt_or_ge n 10 with hn | hn
      · rw [natText_of_lt hn] at hText
        obtain ⟨rfl, -⟩ := List.cons.inj hText
        have hAll : ∀ d < 10, 0 < d → Nat.digitChar d ≠ '0' := by decide
        exact hAll n hn h
      · rw [natText_of_le hn] at hText
        obtain ⟨first, rest, hHigh⟩ := List.exists_cons_of_ne_nil (natText_ne_nil (n / 10))
        rw [hHigh, List.cons_append] at hText
        obtain ⟨rfl, -⟩ := List.cons.inj hText
        exact ih (n / 10) (by omega) (by omega) hHigh

/-- A number below a power of ten has no more digits than the exponent says. -/
theorem length_natText_le {width n : Nat} (hWidth : 0 < width) (h : n < 10 ^ width) :
    (natText n).length ≤ width := by
  induction width generalizing n with
  | zero => exact absurd hWidth (Nat.lt_irrefl 0)
  | succ width ih =>
      rcases Nat.lt_or_ge n 10 with hn | hn
      · simp [natText_of_lt hn]
      · have hPos : 0 < width := by
          rcases Nat.eq_zero_or_pos width with rfl | hPos
          · omega
          · exact hPos
        have hHigh : n / 10 < 10 ^ width := by
          rw [Nat.pow_succ] at h
          omega
        simpa [natText_of_le hn] using ih hPos hHigh

/-- Padding fills up to the width exactly if the number fits. -/
theorem length_paddedText {width n : Nat} (hWidth : 0 < width) (h : n < 10 ^ width) :
    (paddedText width n).length = width := by
  have hLength := length_natText_le hWidth h
  simp only [paddedText, List.length_append, List.length_replicate]
  omega

theorem paddedText_ne_nil (width n : Nat) : paddedText width n ≠ [] := by
  simp [paddedText, natText_ne_nil]

/-- The padding is made of digits too. -/
theorem isDigit_of_mem_paddedText {width n : Nat} {c : Char} (h : c ∈ paddedText width n) :
    c.isDigit = true := by
  rcases List.mem_append.mp h with hZero | hDigit
  · rw [(List.mem_replicate.mp hZero).2]
    rfl
  · exact isDigit_of_mem_natText hDigit

/-- Zeros before a number count nothing. -/
theorem digitsValue_paddedText (width n : Nat) : digitsValue (paddedText width n) = n := by
  have hZeros : ∀ count, digitsValue (List.replicate count '0') = 0 := by
    intro count
    induction count with
    | zero => rfl
    | succ count ih =>
        rw [List.replicate_succ', digitsValue_concat, ih]
        rfl
  rw [paddedText, digitsValue, List.foldl_append]
  exact (congrArg (digitsValueFrom · (natText n)) (hZeros _)).trans (digitsValue_natText n)

/-! ## The digits of a value -/

/-- A digit is the character of its value. -/
theorem lt_and_eq_of_digitValue? {c : Char} {d : Nat} (h : digitValue? c = some d) :
    d < 10 ∧ c = Nat.digitChar d := by
  have hDigit := isDigit_of_digitValue? h
  obtain rfl : c.toNat - '0'.toNat = d := Option.some.inj ((if_pos hDigit).symm.trans h)
  have hAll : ∀ n < 58, 48 ≤ n → n - '0'.toNat < 10 ∧ Char.ofNat n = Nat.digitChar (n - '0'.toNat) := by
    decide
  obtain ⟨hLeast, hMost⟩ := toNat_of_isDigit hDigit
  have hCode := hAll c.toNat (by omega) hLeast
  rwa [Char.ofNat_toNat] at hCode

/-- A last digit is told by the value of all digits, and so is the value of those before it. -/
theorem exists_digitsValue_concat {digits : List Char} {c : Char} (hDigit : c.isDigit = true) :
    ∃ d < 10, c = Nat.digitChar d ∧ digitsValue (digits ++ [c]) = 10 * digitsValue digits + d := by
  obtain ⟨d, hd⟩ := exists_digitValue?_of_isDigit hDigit
  obtain ⟨hLess, hChar⟩ := lt_and_eq_of_digitValue? hd
  exact ⟨d, hLess, hChar, by rw [digitsValue_concat, hd, Option.getD_some]⟩

/-- So many digits stay below that power of ten. -/
theorem digitsValue_lt {digits : List Char} (hDigits : ∀ c ∈ digits, c.isDigit = true) :
    digitsValue digits < 10 ^ digits.length := by
  induction digits using List.reverseRecOn with
  | nil => decide
  | append_singleton digits c ih =>
      obtain ⟨hBefore, hLast⟩ := List.forall_mem_append.mp hDigits
      obtain ⟨d, hLess, -, hValue⟩ := exists_digitsValue_concat (hLast c List.mem_cons_self)
      have hRest := ih hBefore
      rw [hValue, List.length_append, List.length_singleton, Nat.pow_succ]
      omega

/-- As many digits with the same value are the same digits. -/
theorem eq_of_digitsValue_eq {digits others : List Char} (hDigits : ∀ c ∈ digits, c.isDigit = true)
    (hOthers : ∀ c ∈ others, c.isDigit = true) (hLength : digits.length = others.length)
    (hValue : digitsValue digits = digitsValue others) : digits = others := by
  induction digits using List.reverseRecOn generalizing others with
  | nil => exact (List.length_eq_zero_iff.mp hLength.symm).symm
  | append_singleton digits c ih =>
      rcases List.eq_nil_or_concat others with rfl | ⟨before, last, rfl⟩
      · simp at hLength
      · rw [List.concat_eq_append] at hOthers hLength hValue ⊢
        obtain ⟨hBefore, hLast⟩ := List.forall_mem_append.mp hDigits
        obtain ⟨hOtherBefore, hOtherLast⟩ := List.forall_mem_append.mp hOthers
        obtain ⟨d, hLess, rfl, hFirst⟩ := exists_digitsValue_concat (hLast c List.mem_cons_self)
        obtain ⟨e, hOtherLess, rfl, hSecond⟩ :=
          exists_digitsValue_concat (hOtherLast last List.mem_cons_self)
        rw [hFirst, hSecond] at hValue
        obtain rfl : d = e := by omega
        rw [ih hBefore hOtherBefore (by simpa using hLength) (by omega)]

/-- Digits without a leading zero are the text of their value. -/
theorem natText_digitsValue {digits : List Char} (hSome : digits ≠ [])
    (hDigits : ∀ c ∈ digits, c.isDigit = true) (hHead : digits.head? ≠ some '0') :
    0 < digitsValue digits ∧ natText (digitsValue digits) = digits := by
  induction digits using List.reverseRecOn with
  | nil => exact absurd rfl hSome
  | append_singleton digits c ih =>
      obtain ⟨hBefore, hLast⟩ := List.forall_mem_append.mp hDigits
      obtain ⟨d, hLess, rfl, hValue⟩ := exists_digitsValue_concat (hLast c List.mem_cons_self)
      rw [hValue]
      by_cases hNone : digits = []
      · subst hNone
        have hPositive : 0 < d := by
          rcases Nat.eq_zero_or_pos d with rfl | hPositive
          · exact absurd rfl hHead
          · exact hPositive
        have hZero : 10 * digitsValue [] + d = d := Nat.zero_add d
        rw [hZero, natText_of_lt hLess]
        exact ⟨hPositive, rfl⟩
      · obtain ⟨hPositive, hText⟩ := ih hNone hBefore (by rwa [List.head?_append_of_ne_nil _ hNone] at hHead)
        have hHigh : (10 * digitsValue digits + d) / 10 = digitsValue digits := by omega
        have hLow : (10 * digitsValue digits + d) % 10 = d := by omega
        rw [natText_of_le (by omega), hHigh, hLow, hText]
        exact ⟨by omega, rfl⟩

theorem paddedText_succ_of_lt {d : Nat} (h : d < 10) (zeros : Nat) :
    paddedText (zeros + 1) d = List.replicate zeros '0' ++ [Nat.digitChar d] := by
  simp [paddedText, natText_of_lt h]

/-- A number of one digit is written as that digit with zeros before it, and in no other way. -/
theorem digitsValue_eq_digit_iff {digits : List Char} {d : Nat} (h : d < 10) :
    (digits ≠ [] ∧ (∀ c ∈ digits, c.isDigit = true) ∧ digitsValue digits = d) ↔
      ∃ zeros, digits = List.replicate zeros '0' ++ [Nat.digitChar d] := by
  simp only [← paddedText_succ_of_lt h]
  constructor
  · rintro ⟨hSome, hDigits, rfl⟩
    obtain ⟨zeros, hLength⟩ := Nat.exists_eq_add_one_of_ne_zero (mt List.length_eq_zero_iff.mp hSome)
    have hLess : digitsValue digits < 10 ^ (zeros + 1) := hLength ▸ digitsValue_lt hDigits
    refine ⟨zeros, eq_of_digitsValue_eq hDigits (fun _ => isDigit_of_mem_paddedText) ?_ ?_⟩
    · rw [hLength, length_paddedText (Nat.succ_pos zeros) hLess]
    · exact (digitsValue_paddedText _ _).symm
  · rintro ⟨zeros, rfl⟩
    exact ⟨paddedText_ne_nil _ _, fun _ => isDigit_of_mem_paddedText, digitsValue_paddedText _ _⟩

/-- A number that is as wide already is not padded. -/
theorem paddedText_of_le {width n : Nat} (h : width ≤ (natText n).length) : paddedText width n = natText n := by
  simp [paddedText, Nat.sub_eq_zero_of_le h]

/-- Digits that fill a width, without a leading zero beyond it, are the padded text of their value. -/
theorem paddedText_of_digits {width : Nat} {digits : List Char} (hWidth : 0 < width)
    (hDigits : ∀ c ∈ digits, c.isDigit = true) (hLength : width ≤ digits.length)
    (hHead : width < digits.length → digits.head? ≠ some '0') :
    paddedText width (digitsValue digits) = digits := by
  rcases Nat.eq_or_lt_of_le hLength with rfl | hLonger
  · exact eq_of_digitsValue_eq (fun _ => isDigit_of_mem_paddedText) hDigits
      (length_paddedText hWidth (digitsValue_lt hDigits)) (digitsValue_paddedText _ _)
  · have hSome : digits ≠ [] := List.ne_nil_of_length_pos (Nat.lt_of_lt_of_le hWidth hLength)
    obtain ⟨-, hText⟩ := natText_digitsValue hSome hDigits (hHead hLonger)
    rw [paddedText_of_le (by rwa [hText]), hText]

/-- Nothing is shorter than the width to which it is padded. -/
theorem le_length_paddedText (width n : Nat) : width ≤ (paddedText width n).length := by
  simp only [paddedText, List.length_append, List.length_replicate]
  omega

/-- Beyond the width there is no leading zero. -/
theorem head?_paddedText {width n : Nat} (hPositive : 0 < n) (hLonger : width < (paddedText width n).length) :
    (paddedText width n).head? ≠ some '0' := by
  have hText : paddedText width n = natText n := by
    apply paddedText_of_le
    simp only [paddedText, List.length_append, List.length_replicate] at hLonger
    omega
  obtain ⟨c, digits, hFirst⟩ := List.exists_cons_of_ne_nil (natText_ne_nil n)
  rw [hText, hFirst]
  exact fun hZero => natText_head hPositive hFirst (Option.some.inj hZero)

end LogIngest
