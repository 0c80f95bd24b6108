import LogIngest.Proofs.Number.Conversion
import LogIngest.Proofs.Text.Bytes

/-!
The texts that a number format accepts. Main statement: a text is read exactly if what stands before the numbers
of a sign starts it, a run with a digit follows and what stands behind comes after that run. What is read depends
on the sign, the run and the divisor alone.
-/

namespace LogIngest.NumberFormat

open Text (IsAscii byteChars)

variable {format : NumberFormat} {negative grouping : Bool} {text body run rest : List Char} {numeral : Numeral}

/-! ### Signs -/

/-- A text starts with what stands before the numbers of a sign. What stands before those of the other sign does
not start it, or is shorter; where both are equally long, the positive sign counts. -/
structure HasSign (format : NumberFormat) (negative : Bool) (text body : List Char) : Prop where
  starts : text = (format.affixes negative).before ++ body
  other : (format.affixes !negative).before <+: text →
    if negative then (format.affixes false).before.length < (format.affixes true).before.length
    else (format.affixes true).before.length ≤ (format.affixes false).before.length

/-- A sign is shown where the text before numbers of either sign fits. -/
theorem exists_hasSign (h : ∃ negative, (format.affixes negative).before <+: text) :
    ∃ negative body, HasSign format negative text body := by
  by_cases hNegative : (format.affixes true).before <+: text ∧ ((format.affixes false).before <+: text →
      (format.affixes false).before.length < (format.affixes true).before.length)
  · obtain ⟨⟨body, hText⟩, hLonger⟩ := hNegative
    exact ⟨true, body, hText.symm, hLonger⟩
  · have hPositive : (format.affixes false).before <+: text := by
      by_contra hNot
      obtain ⟨negative, hStarts⟩ := h
      cases negative with
      | false => exact hNot hStarts
      | true => exact hNegative ⟨hStarts, fun hStarts => absurd hStarts hNot⟩
    obtain ⟨body, hText⟩ := hPositive
    refine ⟨false, body, hText.symm, fun hStarts => Nat.not_lt.mp fun hLonger => ?_⟩
    exact hNegative ⟨hStarts, fun _ => hLonger⟩

theorem takeSign_eq_some_iff :
    format.takeSign text = some (negative, body) ↔ HasSign format negative text body := by
  constructor
  · intro h
    by_cases hStarts : ∃ negative, (format.affixes negative).before <+: text
    · obtain ⟨sign, behind, hSign⟩ := exists_hasSign hStarts
      have hSame := (takeSign_of_starts hSign.starts hSign.other).symm.trans h
      obtain ⟨rfl, rfl⟩ := Prod.mk.inj (Option.some.inj hSame)
      exact hSign
    · have hNone (negative : Bool) : dropStart? (format.affixes negative).before text = none :=
        if_neg fun hPrefix => hStarts ⟨negative, List.isPrefixOf_iff_prefix.mp hPrefix⟩
      have hPositive : dropStart? format.positive.before text = none := hNone false
      have hNegative : dropStart? format.negative.before text = none := hNone true
      simp [takeSign, hPositive, hNegative] at h
  · exact fun h => takeSign_of_starts h.starts h.other

/-! ### Runs -/

theorem IsRun.isAscii (h : IsRun grouping run) : IsAscii run := by
  have hDigit {c : Char} (h : c.isDigit = true) : c.toNat < 0x80 :=
    Nat.lt_of_le_of_lt (toNat_of_isDigit h).2 (by decide)
  have hMantissa {mantissa : List Char} (h : IsMantissa grouping mantissa) : IsAscii mantissa := by
    intro c hc
    rcases h.chars c hc with hIsDigit | rfl | rfl
    · exact hDigit hIsDigit
    · decide
    · decide
  cases h with
  | mantissa h => exact hMantissa h
  | exponent h _ hExponent =>
      intro c hc
      rcases List.mem_append.mp hc with hc | hc
      · exact hMantissa h c hc
      · rcases List.mem_cons.mp hc with rfl | hc
        · decide
        · rcases chars_of_isNumeral hExponent c hc with hIsDigit | rfl | rfl
          · exact hDigit hIsDigit
          · decide
          · decide

/-- The bytes of a text start with the same run. -/
theorem isLongestRun_byteChars_iff :
    IsLongestRun grouping (byteChars body) run ↔ IsLongestRun grouping body run := by
  constructor
  · intro h
    refine ⟨(Text.prefix_byteChars_iff h.isRun.isAscii).mp h.starts, h.isRun, fun other hStarts hOther => ?_⟩
    exact h.longest other ((Text.prefix_byteChars_iff hOther.isAscii).mpr hStarts) hOther
  · intro h
    refine ⟨(Text.prefix_byteChars_iff h.isRun.isAscii).mpr h.starts, h.isRun, fun other hStarts hOther => ?_⟩
    exact h.longest other ((Text.prefix_byteChars_iff hOther.isAscii).mp hStarts) hOther

/-- What is taken as a number is the longest run. -/
theorem exists_run_of_takeNumeral (h : takeNumeral grouping body = some (numeral, rest)) :
    ∃ run, body = run ++ rest ∧ IsLongestRun grouping body run ∧ HasDigit run ∧
      ∀ negative divisor,
        convert? negative divisor (plainText run) = some (numeral.toAmount negative divisor) := by
  obtain ⟨mantissa, exponent, hBody, hDigit, hDigits, hExponent, hLongest⟩ := isLongestRun_of_takeNumeral h
  obtain ⟨c, hc, hcDigit⟩ := hDigit
  exact ⟨mantissa ++ exponent, hBody, hLongest, ⟨c, List.mem_append_left _ hc, hcDigit⟩,
    convert?_plainText hDigits hExponent ⟨c, hc, hcDigit⟩⟩

/-- The longest run is taken as a number if it has a digit. -/
theorem exists_takeNumeral_of_run (hLongest : IsLongestRun grouping (run ++ rest) run) (hDigit : HasDigit run) :
    ∃ numeral, takeNumeral grouping (run ++ rest) = some (numeral, rest) ∧
      ∀ negative divisor,
        convert? negative divisor (plainText run) = some (numeral.toAmount negative divisor) := by
  cases hTaken : takeNumeral grouping (run ++ rest) with
  | none =>
      obtain ⟨other, hOther, hNone⟩ := takeNumeral_eq_none_iff.mp hTaken
      exact absurd (hLongest.unique hOther ▸ hDigit) hNone
  | some taken =>
      obtain ⟨numeral, behind⟩ := taken
      obtain ⟨other, hBody, hOther, -, hConvert⟩ := exists_run_of_takeNumeral hTaken
      obtain rfl := hLongest.unique hOther
      obtain rfl := List.append_cancel_left hBody
      exact ⟨numeral, rfl, hConvert⟩

/-! ### Texts -/

/-- A text is a number in the format, with anything behind it: a sign, the longest run behind it, which has a
digit, and what stands behind the numbers of that sign. -/
structure Accepts (format : NumberFormat) (negative : Bool) (text run rest : List Char) : Prop where
  sign : HasSign format negative text (run ++ rest)
  longest : IsLongestRun format.grouping (run ++ rest) run
  hasDigit : HasDigit run
  behind : (format.affixes negative).behind <+: rest

/-- An accepted text is read, and the number comes from its sign and its run. -/
theorem Accepts.read? (h : Accepts format negative text run rest) : ∃ amount,
    convert? negative format.divisor (plainText run) = some amount ∧ format.read? text = some amount := by
  obtain ⟨numeral, hTaken, hConvert⟩ := exists_takeNumeral_of_run h.longest h.hasDigit
  have hRead := read?_of_taken (takeSign_eq_some_iff.mpr h.sign) hTaken
  rw [if_pos (List.isPrefixOf_iff_prefix.mpr h.behind)] at hRead
  exact ⟨_, hConvert negative format.divisor, hRead⟩

/-- Whatever is read is accepted. -/
theorem exists_accepts {amount : Amount} (h : format.read? text = some amount) :
    ∃ negative run rest, Accepts format negative text run rest := by
  obtain ⟨⟨negative, body⟩, hSign, hBody⟩ := Option.bind_eq_some_iff.mp h
  obtain ⟨⟨numeral, rest⟩, hTaken, -⟩ := Option.bind_eq_some_iff.mp hBody
  obtain ⟨run, rfl, hLongest, hDigit, -⟩ := exists_run_of_takeNumeral hTaken
  rw [read?_of_taken hSign hTaken] at h
  have hBehind := (Option.ite_none_right_eq_some.mp h).1
  exact ⟨negative, run, rest, takeSign_eq_some_iff.mp hSign, hLongest, hDigit,
    List.isPrefixOf_iff_prefix.mp hBehind⟩

/-- A text has one sign, one run and one rest by which it is accepted. -/
theorem Accepts.unique {sign : Bool} {other left : List Char} (h : Accepts format negative text run rest)
    (hOther : Accepts format sign text other left) : sign = negative ∧ other = run ∧ left = rest := by
  have hSign := (takeSign_eq_some_iff.mpr hOther.sign).symm.trans (takeSign_eq_some_iff.mpr h.sign)
  obtain ⟨rfl, hBody⟩ := Prod.mk.inj (Option.some.inj hSign)
  have hLongest := h.longest
  rw [← hBody] at hLongest
  obtain rfl := hOther.longest.unique hLongest
  exact ⟨rfl, rfl, List.append_cancel_left hBody⟩

/-- What a compiled format reads are the texts that it accepts, whatever characters they have. All others are
refused. The number then comes from the sign, the run and the divisor, which is none of zero: its plain text can
always be converted. The run is the longest one at the start of the bytes as well, and behind it a character
starts. -/
theorem read_iff_accepts {pattern : String} (hFormat : ofPattern pattern = .ok format) (text : String) :
    format.divisor ∈ divisors ∧
      ((∃ amount, format.read text = .ok amount) ↔
        ∃ negative run rest, Accepts format negative text.toList run rest) ∧
      ((¬∃ negative run rest, Accepts format negative text.toList run rest) →
        format.read text = .error (.invalidNumber text "number")) ∧
      ∀ negative run rest, Accepts format negative text.toList run rest →
        (∃ amount, convert? negative format.divisor (plainText run) = some amount ∧
          format.read text = .ok amount) ∧
        IsLongestRun format.grouping (byteChars (run ++ rest)) run ∧
        String.Pos.Raw.IsValid (String.ofList (run ++ rest)) ⟨run.length⟩ := by
  have hRead {negative : Bool} {run rest : List Char} (h : Accepts format negative text.toList run rest) :
      ∃ amount, convert? negative format.divisor (plainText run) = some amount ∧
        format.read text = .ok amount := by
    obtain ⟨amount, hConvert, hRead⟩ := h.read?
    exact ⟨amount, hConvert, by rw [read, hRead]⟩
  refine ⟨divisor_of_ofPattern hFormat, ⟨?_, ?_⟩, fun hNone => ?_, fun negative run rest h => ?_⟩
  · rintro ⟨amount, hAmount⟩
    cases hSome : format.read? text.toList with
    | none => simp [read, hSome] at hAmount
    | some found => exact exists_accepts hSome
  · rintro ⟨negative, run, rest, h⟩
    obtain ⟨amount, -, hAmount⟩ := hRead h
    exact ⟨amount, hAmount⟩
  · cases hSome : format.read? text.toList with
    | none => rw [read, hSome]
    | some found => exact absurd (exists_accepts hSome) hNone
  · exact ⟨hRead h, isLongestRun_byteChars_iff.mpr h.longest,
      Text.isValid_behind_ascii h.longest.isRun.isAscii rest⟩

/-- Distances with grouped digits are accepted with the unit behind them, and not with one before them. -/
theorem read_iff_accepts_grouped : ∃ format, ofPattern "#,##0" = .ok format ∧
    (∃ negative run rest, Accepts format negative "1,234 km".toList run rest) ∧
    ¬∃ negative run rest, Accepts format negative "km 1,234".toList run rest := by
  have hFormat : ofPattern "#,##0" = .ok (between [] [] true) := rfl
  obtain ⟨-, hBehind, -⟩ := read_iff_accepts hFormat "1,234 km"
  obtain ⟨-, hBefore, -⟩ := read_iff_accepts hFormat "km 1,234"
  have hTaken : (between [] [] true).read? "1,234 km".toList = some (.whole 1234) := rfl
  have hRead : (between [] [] true).read "1,234 km" = .ok (.whole 1234) := by rw [read, hTaken]
  have hRefused : (between [] [] true).read "km 1,234" = .error (.invalidNumber "km 1,234" "number") := rfl
  refine ⟨_, hFormat, hBehind.mp ⟨_, hRead⟩, fun hAccepted => ?_⟩
  obtain ⟨amount, hAmount⟩ := hBefore.mpr hAccepted
  cases hRefused.symm.trans hAmount

end LogIngest.NumberFormat
