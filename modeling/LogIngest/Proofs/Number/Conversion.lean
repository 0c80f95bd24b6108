import LogIngest.Proofs.Number.Runs
import LogIngest.Proofs.Text.CharSets

/-!
Numbers from the texts that spell them. Main statement: what is taken as a number is also read from the text
that spells it, as a whole number or as a double, and that reading never fails.
-/

namespace LogIngest

/-- A whole number with its sign, divided. -/
def Amount.ofWhole (negative : Bool) (divisor : Nat) (n : Int) : Amount :=
  let n := if negative then -n else n
  if n.tmod divisor == 0 then .whole (Int64.ofInt (n.tdiv divisor))
  else .fractional (Float.ofInt n / Float.ofNat divisor)

/-- A double with its sign, divided. -/
def Amount.ofDouble (negative : Bool) (divisor : Nat) (x : Float) : Amount :=
  let x := (if negative then -x else x) / Float.ofNat divisor
  match (Binary.ofFloat x).whole? with
  | some n => if n.natAbs < Nat.pow 2 53 then .whole (Int64.ofInt n) else .fractional x
  | none => .fractional x

/-! ### Doubles -/

/-- The exponent of a plain numeral, with the letter before it. -/
inductive PlainExponent : Option Int → List Char → Prop where
  | none : PlainExponent none []
  | some {text : List Char} {n : Int} (h : IsNumeral text n) : PlainExponent (some n) ('e' :: text)

section

variable {digits whole exponent rest : List Char} {places : Option (List Char)} {n? : Option Int}

theorem takeDigits_append (hDigits : ∀ c ∈ digits, c.isDigit = true)
    (hRest : ∀ c ∈ rest.head?, c.isDigit = false) : takeDigits (digits ++ rest) = (digits, rest) := by
  have hRun := takeWhile_digits hDigits hRest
  have hSplit := List.takeWhile_append_dropWhile (p := Char.isDigit) (l := digits ++ rest)
  rw [hRun, List.append_cancel_left_eq] at hSplit
  rw [takeDigits, hRun, hSplit]

theorem PlainExponent.readExponent? (h : PlainExponent n? exponent) :
    LogIngest.readExponent? exponent = Option.some (n?.getD 0) := by
  have hMagnitude {digits : List Char} (hSome : digits ≠ []) (hDigits : ∀ c ∈ digits, c.isDigit = true) :
      (!digits.isEmpty && digits.all Char.isDigit) = true := by
    rw [Bool.and_eq_true, Bool.not_eq_true', List.isEmpty_eq_false_iff]
    exact ⟨hSome, List.all_eq_true.mpr hDigits⟩
  cases h with
  | none => rfl
  | some h =>
      cases h with
      | positive hSome hDigits => simp [LogIngest.readExponent?, hMagnitude hSome hDigits]
      | negative hSome hDigits => simp [LogIngest.readExponent?, hMagnitude hSome hDigits]
      | unsigned hSome hDigits =>
          have hAll := hMagnitude hSome hDigits
          obtain ⟨c, more, rfl⟩ := List.exists_cons_of_ne_nil hSome
          have hDigit := hDigits c List.mem_cons_self
          have hMinus : c ≠ '-' := by rintro rfl; cases hDigit
          have hPlus : c ≠ '+' := by rintro rfl; cases hDigit
          simpa [LogIngest.readExponent?, hMinus, hPlus] using hAll

theorem PlainExponent.head (h : PlainExponent n? exponent) :
    (∀ c ∈ exponent.head?, c.isDigit = false) ∧ ∀ more, exponent ≠ '.' :: more := by
  cases h with
  | none => exact ⟨nofun, nofun⟩
  | some h => exact ⟨fun c hc => Option.some.inj hc ▸ rfl, nofun⟩

/-- A plain numeral without a sign is read as a double to its end. -/
theorem readUnsigned?_plain (hWhole : ∀ c ∈ whole, c.isDigit = true)
    (hPlaces : ∀ digits ∈ places, ∀ c ∈ digits, c.isDigit = true)
    (hSome : (whole.isEmpty && (places.getD []).isEmpty) = false) (hExponent : PlainExponent n? exponent) :
    readUnsigned? (whole ++ (NumberFormat.pointText places ++ exponent)) =
      some (nearestDouble (digitsValue (whole ++ places.getD []))
        (n?.getD 0 - (places.getD []).length)) := by
  obtain ⟨hNoDigit, hNoPoint⟩ := hExponent.head
  have hRead := hExponent.readExponent?
  have hNot := Bool.eq_false_iff.mp hSome
  cases places with
  | none =>
      have hTake : takeDigits (whole ++ exponent) = (whole, exponent) := takeDigits_append hWhole hNoDigit
      simp only [NumberFormat.pointText, List.nil_append, readUnsigned?, hTake]
      exact (if_neg hNot).trans (congrArg (Option.map _) hRead)
  | some digits =>
      have hTake : takeDigits (whole ++ '.' :: (digits ++ exponent)) = (whole, '.' :: (digits ++ exponent)) :=
        takeDigits_append hWhole fun c hc => Option.some.inj hc ▸ rfl
      have hTakePlaces := takeDigits_append (hPlaces digits rfl) hNoDigit
      simp only [NumberFormat.pointText, List.cons_append, readUnsigned?, hTake, hTakePlaces]
      exact (if_neg hNot).trans (congrArg (Option.map _) hRead)

/-- A text that starts with a digit or a point is no name. -/
theorem readMagnitude?_unsigned {first : Char} (h : first.isDigit = true ∨ first = '.') (rest : List Char) :
    readMagnitude? (first :: rest) = readUnsigned? (first :: rest) := by
  have hLower : first.toLower.toNat < 'a'.toNat := by
    rw [CharSet.toNat_toLower]
    rcases h with hDigit | rfl
    · have hMost := (toNat_of_isDigit hDigit).2
      rw [if_neg (by omega)]
      exact Nat.lt_of_le_of_lt hMost (by decide)
    · decide
  have hName {c : Char} {name : List Char} (hLetter : 'a'.toNat ≤ c.toNat) :
      ¬((first :: rest).map Char.toLower == c :: name) = true := by
    intro hSame
    have hFirst := (List.cons.inj (beq_iff_eq.mp hSame)).1
    rw [hFirst] at hLower
    omega
  have hInf : ¬((first :: rest).map Char.toLower == "inf".toList ||
      (first :: rest).map Char.toLower == "infinity".toList) = true := by
    rw [Bool.or_eq_true]
    exact not_or.mpr ⟨hName (by decide), hName (by decide)⟩
  have hNan : ¬((first :: rest).map Char.toLower == "nan".toList) = true := hName (by decide)
  rw [readMagnitude?, if_neg hInf, if_neg hNan]

/-- Nor has it a sign. -/
theorem readDouble?_unsigned {first : Char} (h : first.isDigit = true ∨ first = '.') (rest : List Char) :
    readDouble? (first :: rest) = readUnsigned? (first :: rest) := by
  have hSign : first ≠ '+' ∧ first ≠ '-' := by
    constructor <;> rintro rfl <;> rcases h with hDigit | hPoint <;> contradiction
  unfold readDouble?
  split
  · next hText => exact absurd (List.cons.inj hText).1 hSign.1
  · next hText => exact absurd (List.cons.inj hText).1 hSign.2
  · exact readMagnitude?_unsigned h rest

end

namespace NumberFormat

variable {grouping : Bool} {mantissa exponent whole : List Char} {places : Option (List Char)} {n? : Option Int}
  {numeral : Numeral}

/-- A run as a plain numeral: without its commas, and with a small letter before the exponent. -/
def plainText (run : List Char) : List Char :=
  (run.filter (· != ',')).map fun c => if c == 'E' then 'e' else c

/-- Reads a plain numeral as a whole number, if it has neither a point nor an exponent. -/
def readWhole? (text : List Char) : Option Int :=
  if text.contains '.' || text.contains 'e' then none else (Bounds.int64.read text).toOption

/-- Reads a number from a plain numeral: as a whole number that fits 64 bits, and else as a double. -/
def convert? (negative : Bool) (divisor : Nat) (text : List Char) : Option Amount :=
  match readWhole? text with
  | some n => some (.ofWhole negative divisor n)
  | none => (readDouble? text).map (.ofDouble negative divisor)

theorem toAmount_eq (numeral : Numeral) (negative : Bool) (divisor : Nat) :
    numeral.toAmount negative divisor = match numeral.toWhole? with
      | some n => .ofWhole negative divisor n
      | none => .ofDouble negative divisor numeral.toFloat :=
  rfl

theorem plainText_append (first second : List Char) :
    plainText (first ++ second) = plainText first ++ plainText second := by
  simp [plainText]

/-- Without the letter E, only commas are left out. -/
theorem plainText_of_unmarked {text : List Char} (h : 'E' ∉ text) : plainText text = text.filter (· != ',') := by
  have hSame : ∀ c ∈ text.filter (· != ','), (if c == 'E' then 'e' else c) = c := by
    rintro c hc
    refine if_neg fun hMark => h ?_
    rw [← beq_iff_eq.mp hMark]
    exact (List.mem_filter.mp hc).1
  rw [plainText, List.map_congr_left hSame]
  exact List.map_id _

theorem plainText_of_plain {text : List Char} (hMark : 'E' ∉ text) (hComma : ',' ∉ text) :
    plainText text = text := by
  rw [plainText_of_unmarked hMark]
  refine List.filter_eq_self.mpr fun c hc => bne_iff_ne.mpr ?_
  rintro rfl
  exact hComma hc

theorem SpellsDigits.isDigit_whole (h : SpellsDigits grouping mantissa whole places) :
    ∀ c ∈ whole, c.isDigit = true := by
  obtain ⟨written, -, rfl, hChars, -⟩ := h.spelling
  intro c hc
  obtain ⟨hWritten, hComma⟩ := List.mem_filter.mp hc
  exact (hChars c hWritten).resolve_right fun h => bne_iff_ne.mp hComma h.1

theorem SpellsDigits.plainText_eq (h : SpellsDigits grouping mantissa whole places) :
    plainText mantissa = whole ++ pointText places := by
  obtain ⟨written, rfl, rfl, hChars, -⟩ := h.spelling
  have hPoint := (pointText_chars h.places).1
  have hWritten : 'E' ∉ written := by
    intro hMark
    rcases hChars 'E' hMark with hDigit | ⟨hComma, -⟩ <;> contradiction
  rw [plainText_append, plainText_of_unmarked hWritten, plainText_of_plain]
  · exact fun hMark => absurd (hPoint 'E' hMark) (by decide)
  · exact fun hComma => absurd (hPoint ',' hComma) (by decide)

theorem SpellsExponent.plainExponent (h : SpellsExponent n? exponent) :
    PlainExponent n? (plainText exponent) := by
  cases h with
  | none => exact .none
  | @some text n h =>
      have hChars := chars_of_isNumeral h
      have hPlain : plainText text = text := plainText_of_plain
        (fun hMark => absurd (hChars 'E' hMark) (by decide))
        (fun hComma => absurd (hChars ',' hComma) (by decide))
      have hText : plainText ('E' :: text) = 'e' :: plainText text := rfl
      rw [hText, hPlain]
      exact .some h

/-- The plain text of a run is read as the double that its numeral is. -/
theorem readDouble?_plainText (hDigits : SpellsDigits grouping mantissa numeral.whole numeral.places)
    (hExponent : SpellsExponent numeral.exponent exponent) (hDigit : HasDigit mantissa) :
    readDouble? (plainText (mantissa ++ exponent)) = some numeral.toFloat := by
  have hSome := hDigits.hasDigit_iff.mp hDigit
  have hRead : readUnsigned? (numeral.whole ++ (pointText numeral.places ++ plainText exponent)) =
      some numeral.toFloat :=
    readUnsigned?_plain hDigits.isDigit_whole hDigits.places hSome hExponent.plainExponent
  rw [plainText_append, hDigits.plainText_eq, ← hRead, List.append_assoc]
  cases hWhole : numeral.whole with
  | cons first rest =>
      have hFirst := hDigits.isDigit_whole first (hWhole ▸ List.mem_cons_self)
      exact readDouble?_unsigned (.inl hFirst) _
  | nil =>
      cases hPlaces : numeral.places with
      | none =>
          rw [hWhole, hPlaces] at hSome
          cases hSome
      | some digits => exact readDouble?_unsigned (.inr rfl) _

/-- The plain text of a run is read as the whole number that its numeral is. -/
theorem readWhole?_plainText (hDigits : SpellsDigits grouping mantissa numeral.whole numeral.places)
    (hExponent : SpellsExponent numeral.exponent exponent) (hDigit : HasDigit mantissa) :
    readWhole? (plainText (mantissa ++ exponent)) = numeral.toWhole? := by
  have hSome := hDigits.hasDigit_iff.mp hDigit
  have hIsDigit := hDigits.isDigit_whole
  have hPlain := hExponent.plainExponent
  rw [plainText_append, hDigits.plainText_eq]
  obtain ⟨whole, places, n?⟩ := numeral
  dsimp only at *
  generalize plainText exponent = exponent at hPlain ⊢
  cases places with
  | some digits => simp [readWhole?, pointText, Numeral.toWhole?]
  | none =>
      cases hPlain with
      | some => simp [readWhole?, pointText, Numeral.toWhole?]
      | none =>
          have hNe : whole ≠ [] := by simpa using hSome
          have hPoint : '.' ∉ whole := fun hMember => absurd (hIsDigit '.' hMember) (by decide)
          have hLetter : 'e' ∉ whole := fun hMember => absurd (hIsDigit 'e' hMember) (by decide)
          have hRead := @Bounds.read_digits Bounds.int64 whole hNe hIsDigit (by decide)
          have hAdmits : Bounds.int64.admits (digitsValue whole) = true ↔
              (digitsValue whole : Int) ≤ Bounds.int64.greatest := by
            rw [Bounds.admits_iff]
            simp only [Bounds.int64]
            omega
          simp only [readWhole?, Numeral.toWhole?, pointText, List.append_nil, hRead]
          by_cases hFits : (digitsValue whole : Int) ≤ Bounds.int64.greatest
          · simp [hPoint, hLetter, hFits, hAdmits.mpr hFits, Except.toOption]
          · simp [hPoint, hLetter, hFits, mt hAdmits.mp hFits, Except.toOption]

/-- The number of a run is read from its plain text. -/
theorem convert?_plainText (hDigits : SpellsDigits grouping mantissa numeral.whole numeral.places)
    (hExponent : SpellsExponent numeral.exponent exponent) (hDigit : HasDigit mantissa)
    (negative : Bool) (divisor : Nat) :
    convert? negative divisor (plainText (mantissa ++ exponent)) = some (numeral.toAmount negative divisor) := by
  rw [convert?, readWhole?_plainText hDigits hExponent hDigit, readDouble?_plainText hDigits hExponent hDigit,
    toAmount_eq]
  cases numeral.toWhole? <;> rfl

end NumberFormat
end LogIngest
