import LogIngest.Proofs.Decimal.Numeral
import LogIngest.Proofs.Number.Patterns

/-!
Numbers at the start of a text. Main statement: a number is taken to the end of its digits, grouped or not,
and is a whole number when nothing that follows could belong to it.
-/

namespace LogIngest.NumberFormat

/-- A text that goes on with what would belong to a number before it: a digit, a point, a comma where digits
are grouped, or an exponent. -/
inductive Extends (grouping : Bool) : List Char → Prop where
  | digit {c : Char} {rest : List Char} (h : c.isDigit = true) : Extends grouping (c :: rest)
  | point {rest : List Char} : Extends grouping ('.' :: rest)
  | comma {rest : List Char} (h : grouping = true) : Extends grouping (',' :: rest)
  | exponent {c : Char} {rest : List Char} (h : c.isDigit = true) :
      Extends grouping ('E' :: c :: rest)
  | signedExponent {sign c : Char} {rest : List Char} (hSign : sign = '-' ∨ sign = '+')
      (h : c.isDigit = true) : Extends grouping ('E' :: sign :: c :: rest)

/-- The ways to write a run of digits: one after another and, where digits are grouped, with commas anywhere
behind the first. -/
structure Writes (grouping : Bool) (digits written : List Char) : Prop where
  isDigit : ∀ c ∈ digits, c.isDigit = true
  digit_first : ∃ c rest, c.isDigit = true ∧ written = c :: rest
  without_commas : written.filter (· != ',') = digits
  plain : grouping = false → written = digits

namespace Writes

variable {grouping : Bool} {digits written : List Char}

theorem refl (hSome : digits ≠ []) (hDigits : ∀ c ∈ digits, c.isDigit = true) :
    Writes grouping digits digits where
  isDigit := hDigits
  digit_first := by
    obtain ⟨c, rest, rfl⟩ := List.exists_cons_of_ne_nil hSome
    exact ⟨c, rest, hDigits c List.mem_cons_self, rfl⟩
  without_commas := by
    apply List.filter_eq_self.mpr
    intro c hc
    have hComma : c ≠ ',' := by rintro rfl; cases hDigits _ hc
    simpa using hComma
  plain _ := rfl

theorem chars (h : Writes grouping digits written) :
    ∀ c ∈ written, c.isDigit = true ∨ c = ',' ∧ grouping = true := by
  intro c hc
  by_cases hComma : c = ','
  · cases hGrouping : grouping with
    | true => exact Or.inr ⟨hComma, rfl⟩
    | false => exact Or.inl (h.isDigit c (h.plain hGrouping ▸ hc))
  · refine Or.inl (h.isDigit c (h.without_commas ▸ ?_))
    simpa [hComma] using hc

end Writes

section

variable {grouping : Bool} {rest : List Char}

theorem takeGrouped_stop (hStop : ¬Extends grouping rest) :
    takeGrouped grouping true rest = ([], rest) := by
  cases rest with
  | nil => rfl
  | cons c rest =>
      have hDigit : ¬c.isDigit = true := fun h => hStop (.digit h)
      have hComma : ¬(c = ',' ∧ grouping = true) := by
        rintro ⟨rfl, h⟩
        exact hStop (.comma h)
      simp [takeGrouped, hDigit, hComma]

theorem takeGrouped_started {written : List Char}
    (hWritten : ∀ c ∈ written, c.isDigit = true ∨ c = ',' ∧ grouping = true)
    (hStop : ¬Extends grouping rest) :
    takeGrouped grouping true (written ++ rest) = (written.filter (· != ','), rest) := by
  induction written with
  | nil => exact takeGrouped_stop hStop
  | cons c written ih =>
      have hRest := ih (List.forall_mem_cons.mp hWritten).2
      rcases hWritten c List.mem_cons_self with hDigit | ⟨rfl, hGrouping⟩
      · have hComma : c ≠ ',' := by rintro rfl; cases hDigit
        simp [takeGrouped, hDigit, hRest, hComma]
      · simpa [takeGrouped, hGrouping] using hRest

theorem takeDigits_stop (hStop : ∀ c more, rest = c :: more → c.isDigit = false) :
    takeDigits rest = ([], rest) := by
  cases rest with
  | nil => rfl
  | cons c rest => simp [takeDigits, hStop c rest rfl]

/-- A mark without digits behind it is no exponent. -/
theorem takeExponent_stop (hStop : ¬Extends grouping rest) : takeExponent rest = (none, rest) := by
  unfold takeExponent
  split
  · next more =>
      have hDigits : takeDigits more = ([], more) := by
        apply takeDigits_stop
        rintro c tail rfl
        exact Bool.eq_false_iff.mpr fun hDigit => hStop (.exponent hDigit)
      have hSigned : ∀ sign tail, sign = '-' ∨ sign = '+' → more = sign :: tail →
          takeDigits tail = ([], tail) := by
        rintro sign tail hSign rfl
        apply takeDigits_stop
        rintro c tail rfl
        exact Bool.eq_false_iff.mpr fun hDigit => hStop (.signedExponent hSign hDigit)
      split
      next negative digits hMore =>
        have hNone : takeDigits digits = ([], digits) := by
          split at hMore
          · next tail =>
              obtain ⟨-, rfl⟩ := Prod.mk.inj hMore
              exact hSigned '-' _ (.inl rfl) rfl
          · next tail =>
              obtain ⟨-, rfl⟩ := Prod.mk.inj hMore
              exact hSigned '+' _ (.inr rfl) rfl
          · obtain ⟨-, rfl⟩ := Prod.mk.inj hMore
            exact hDigits
        rw [hNone]
  · rfl

/-- Digits are taken to their end, and there is neither a point nor an exponent. -/
theorem takeNumeral_written {digits written : List Char} (hWrites : Writes grouping digits written)
    (hStop : ¬Extends grouping rest) :
    takeNumeral grouping (written ++ rest) = some (⟨digits, none, none⟩, rest) := by
  obtain ⟨first, more, hFirst, rfl⟩ := hWrites.digit_first
  have hMore := takeGrouped_started (List.forall_mem_cons.mp hWrites.chars).2 hStop
  have hWhole : takeGrouped grouping false (first :: more ++ rest) = (digits, rest) := by
    have hComma : first ≠ ',' := by rintro rfl; cases hFirst
    have hDigits := hWrites.without_commas
    rw [List.filter_cons_of_pos (by simpa using hComma)] at hDigits
    simp [takeGrouped, hFirst, hMore, hDigits]
  have hSome : digits.isEmpty = false := by
    rw [← hWrites.without_commas]
    have hComma : first ≠ ',' := by rintro rfl; cases hFirst
    simp [hComma]
  have hPoint : ∀ more, rest ≠ '.' :: more := by
    rintro more rfl
    exact hStop .point
  rw [takeNumeral, hWhole]
  dsimp only
  split
  · next more => exact absurd rfl (hPoint more)
  · simp [hSome, takeExponent_stop hStop]

end

/-- What stands around the numbers of one sign. -/
def affixes (format : NumberFormat) (negative : Bool) : Affixes :=
  if negative then format.negative else format.positive

/-- What is left behind a start that fits. -/
theorem dropStart?_append (start rest : List Char) : dropStart? start (start ++ rest) = some rest := by
  simp [dropStart?]

theorem dropStart?_eq_some {start text rest : List Char} (h : dropStart? start text = some rest) :
    start <+: text ∧ rest.length = text.length - start.length := by
  unfold dropStart? at h
  split at h
  · next hPrefix =>
      rw [← Option.some.inj h]
      exact ⟨List.isPrefixOf_iff_prefix.mp hPrefix, List.length_drop⟩
  · cases h

/-- The sign counts whose text stands at the start, if that of the other sign does not or is shorter. Positive
numbers need not even be that. -/
theorem takeSign_of_starts {format : NumberFormat} {negative : Bool} {text rest : List Char}
    (hText : text = (format.affixes negative).before ++ rest)
    (hOther : (format.affixes !negative).before <+: text →
      if negative then (format.affixes false).before.length < (format.affixes true).before.length
      else (format.affixes true).before.length ≤ (format.affixes false).before.length) :
    format.takeSign text = some (negative, rest) := by
  have hOwn : dropStart? (format.affixes negative).before text = some rest := by
    rw [hText]
    exact dropStart?_append _ rest
  have hLength : rest.length = text.length - (format.affixes negative).before.length := by
    rw [hText, List.length_append]
    omega
  have hShort : (format.affixes negative).before.length ≤ text.length := by
    rw [hText, List.length_append]
    omega
  cases negative with
  | false =>
      have hPositive : dropStart? format.positive.before text = some rest := hOwn
      cases hNegative : dropStart? format.negative.before text with
      | none => simp [takeSign, hPositive, hNegative]
      | some left =>
          obtain ⟨hStarts, hLeft⟩ := dropStart?_eq_some hNegative
          have hLonger : format.negative.before.length ≤ format.positive.before.length :=
            hOther hStarts
          change rest.length = text.length - format.positive.before.length at hLength
          have hNot : ¬left.length < rest.length := by omega
          simp [takeSign, hPositive, hNegative, hNot]
  | true =>
      have hNegative : dropStart? format.negative.before text = some rest := hOwn
      cases hPositive : dropStart? format.positive.before text with
      | none => simp [takeSign, hPositive, hNegative]
      | some left =>
          obtain ⟨hStarts, hLeft⟩ := dropStart?_eq_some hPositive
          have hLonger : format.positive.before.length < format.negative.before.length :=
            hOther hStarts
          change rest.length = text.length - format.negative.before.length at hLength
          change format.negative.before.length ≤ text.length at hShort
          have hLess : rest.length < left.length := by omega
          simp [takeSign, hPositive, hNegative, hLess]

/-- A start with one character more in front does not fit a text behind which another character follows. -/
theorem not_cons_start {c d : Char} (hNe : d ≠ c) (start rest : List Char) :
    ¬(c :: start) <+: (start ++ d :: rest) := by
  induction start generalizing c with
  | nil =>
      intro h
      exact hNe (List.cons_prefix_cons.mp h).1.symm
  | cons b start ih =>
      intro h
      obtain ⟨rfl, h⟩ := List.cons_prefix_cons.mp h
      exact ih hNe h

/-- A number behind the text of a sign counts if the text of the same sign stands behind it. -/
theorem read?_of_taken {format : NumberFormat} {negative : Bool} {text body rest : List Char} {numeral : Numeral}
    (hSign : format.takeSign text = some (negative, body))
    (hTaken : takeNumeral format.grouping body = some (numeral, rest)) :
    format.read? text = if (format.affixes negative).behind.isPrefixOf rest then
      some (numeral.toAmount negative format.divisor) else none := by
  have hBehind : (if negative then format.negative.behind else format.positive.behind) =
      (format.affixes negative).behind := by
    cases negative <;> rfl
  simp [read?, hSign, hTaken, hBehind]

theorem read?_digits {format : NumberFormat} {negative : Bool} {text digits written rest : List Char}
    (hWrites : Writes format.grouping digits written)
    (hSign : format.takeSign text = some (negative, written ++ rest))
    (hStop : ¬Extends format.grouping rest) :
    format.read? text = if (format.affixes negative).behind.isPrefixOf rest then
      some (Numeral.toAmount ⟨digits, none, none⟩ negative format.divisor) else none :=
  read?_of_taken hSign (takeNumeral_written hWrites hStop)

theorem read?_written {format : NumberFormat} {negative : Bool} {text digits written after : List Char}
    (hWrites : Writes format.grouping digits written)
    (hSign : format.takeSign text =
      some (negative, written ++ ((format.affixes negative).behind ++ after)))
    (hStop : ¬Extends format.grouping ((format.affixes negative).behind ++ after)) :
    format.read? text = some (Numeral.toAmount ⟨digits, none, none⟩ negative format.divisor) := by
  rw [read?_digits hWrites hSign hStop]
  exact if_pos (List.isPrefixOf_iff_prefix.mpr (List.prefix_append _ after))

/-- Digits that fit 64 bits are a whole number. -/
theorem Numeral.toWhole?_digits {digits : List Char}
    (hFits : digitsValue digits ≤ 9223372036854775807) :
    Numeral.toWhole? ⟨digits, none, none⟩ = some (digitsValue digits : Int) := by
  have hAdmits : Bounds.int64.admits (digitsValue digits) = true := by
    rw [Bounds.admits_iff]
    simp only [Bounds.int64]
    omega
  simp [Numeral.toWhole?, hAdmits]

/-- Without a divisor they stay one. -/
theorem Numeral.toAmount_digits {digits : List Char} (negative : Bool)
    (hFits : digitsValue digits ≤ 9223372036854775807) :
    Numeral.toAmount ⟨digits, none, none⟩ negative 1 =
      .whole (Int64.ofInt (if negative then -digitsValue digits else digitsValue digits)) := by
  simp [Numeral.toAmount, Numeral.toWhole?_digits hFits]

section

variable {before behind : List Char} {grouping : Bool}

/-- A number without a minus sign is positive. -/
theorem takeSign_between {c : Char} (hDigit : c.isDigit = true) (rest : List Char) :
    (between before behind grouping).takeSign (before ++ c :: rest) = some (false, c :: rest) := by
  have hMinus : c ≠ '-' := by rintro rfl; cases hDigit
  exact takeSign_of_starts rfl fun hOther => absurd hOther (not_cons_start hMinus before rest)

/-- A number with a minus sign before all else is negative: even where the text before positive numbers fits
as well, it is the shorter one. -/
theorem takeSign_between_minus (rest : List Char) :
    (between before behind grouping).takeSign ('-' :: (before ++ rest)) = some (true, rest) :=
  takeSign_of_starts rfl fun _ => Nat.lt_succ_self before.length

end

end LogIngest.NumberFormat
