import LogIngest.Proofs.Number.Scanning

/-!
Patterns for both signs. Main statement: numbers between the texts for positive numbers are read as they are;
numbers between those for negative numbers are read as negative unless the same text stands before the numbers
of both signs. It is the text before a number that tells the sign, and one that fits both signs equally well
tells a positive number, whatever stands behind.
-/

namespace LogIngest.NumberFormat

open Text (Symbol symbols quotedLiteral)

/-- The format of numbers between two texts for each sign. -/
def signed (plus minus : Affixes) (grouping : Bool) : NumberFormat where
  positive := plus
  negative := minus
  divisor := 1
  grouping

/-- Two patterns, each with a number between two quoted texts, are one for each sign. -/
theorem compile_signed (plus minus : Affixes) {body other : List Char} (hBody : IsBody body)
    (hOther : IsBody other) :
    compile (quotedLiteral plus.before ++ (body ++ (quotedLiteral plus.behind ++
        ';' :: (quotedLiteral minus.before ++ (other ++ quotedLiteral minus.behind))))) =
      .ok (signed plus minus (body.contains ',')) := by
  have hNegative := @symbols_between minus.before minus.behind other [] hOther (by simp)
  have hEmpty : symbols [] = [] := rfl
  rw [hEmpty, List.append_nil, List.append_nil] at hNegative
  have hSemicolon (rest : List Char) : symbols (';' :: rest) = .plain ';' :: symbols rest :=
    Text.symbols_plain (List.forall_mem_singleton.mpr (by decide)) rest
  have hSymbols := @symbols_between plus.before plus.behind body
    (';' :: (quotedLiteral minus.before ++ (other ++ quotedLiteral minus.behind))) hBody (by simp)
  rw [hSemicolon, hNegative] at hSymbols
  have hOne := ne_semicolon_between plus.before plus.behind hBody
  simp only [compile, hSymbols, List.takeWhile_append_of_pos hOne, List.dropWhile_append_of_pos hOne,
    List.takeWhile_cons, List.dropWhile_cons, bne_self_eq_false, Bool.false_eq_true, if_false,
    List.append_nil, Outline.ofSymbols_between _ _ hBody, Outline.ofSymbols_between _ _ hOther, bind,
    Except.bind, pure, Except.pure, Functor.map, Except.map]
  simp [Outline.withBehind, Outline.withNumber, hBody.any_isPlaceholder, signed]

/-- The pattern of whole numbers between two quoted texts for each sign. -/
def patternOfSigns (plus minus : Affixes) : String :=
  String.ofList (quotedLiteral plus.before ++ '0' :: (quotedLiteral plus.behind ++
    ';' :: (quotedLiteral minus.before ++ '0' :: quotedLiteral minus.behind)))

theorem isBody_zero : IsBody ['0'] :=
  ⟨List.all_eq_true.mp (by decide), ⟨'0', List.mem_singleton_self _, by decide⟩, by decide⟩

theorem ofPattern_signed (plus minus : Affixes) :
    ofPattern (patternOfSigns plus minus) = .ok (signed plus minus false) := by
  have hCompile : compile (patternOfSigns plus minus).toList =
      .ok (signed plus minus false) := by
    rw [patternOfSigns, String.toList_ofList]
    exact compile_signed plus minus isBody_zero isBody_zero
  rw [ofPattern, hCompile]
  rfl

/-- A run of digits. -/
structure IsNatural (digits : List Char) : Prop where
  ne_nil : digits ≠ []
  isDigit : ∀ c ∈ digits, c.isDigit = true

end LogIngest.NumberFormat

namespace LogIngest.Affixes

/-- A number with these texts around it. -/
def around (affixes : Affixes) (digits : List Char) : List Char :=
  affixes.before ++ digits ++ affixes.behind

/-- No character of the texts can belong to a number. -/
def AreApart (affixes : Affixes) : Prop :=
  ∀ c ∈ affixes.before ++ affixes.behind, c.isDigit = false ∧ c ≠ '.' ∧ c ≠ ',' ∧ c ≠ 'E'

instance (affixes : Affixes) : Decidable affixes.AreApart :=
  List.decidableBAll _ _

/-- A text starts with digits that have these texts around them. -/
def Fit (affixes : Affixes) (text : List Char) : Prop :=
  ∃ digits after, NumberFormat.IsNatural digits ∧ text = affixes.around digits ++ after

end LogIngest.Affixes

namespace LogIngest.NumberFormat

/-- Texts of one reading only are read with its sign: digits between the texts of a sign are the number with
that sign, unless the texts of the other sign fit as well. -/
def ReadsEachSign (format : NumberFormat) : Prop :=
  ∀ negative digits, IsNatural digits → digitsValue digits ≤ 9223372036854775807 →
    ¬(format.affixes !negative).Fit ((format.affixes negative).around digits) →
      format.read (String.ofList ((format.affixes negative).around digits)) =
        .ok (.whole (Int64.ofInt (if negative then -digitsValue digits else digitsValue digits)))

variable {plus minus : Affixes} {digits : List Char}

theorem not_extends_of_apart {rest : List Char}
    (h : ∀ c ∈ rest, c.isDigit = false ∧ c ≠ '.' ∧ c ≠ ',' ∧ c ≠ 'E') : ¬Extends false rest := by
  intro hExtends
  cases hExtends with
  | digit hDigit => rw [(h _ List.mem_cons_self).1] at hDigit; cases hDigit
  | point => exact (h _ List.mem_cons_self).2.1 rfl
  | comma hGrouping => cases hGrouping
  | exponent hDigit => exact (h _ List.mem_cons_self).2.2.2 rfl
  | signedExponent hSign hDigit => exact (h _ List.mem_cons_self).2.2.2 rfl

/-- A text without digits that stands at the start of a text goes no further than the digits there. -/
theorem prefix_of_digits {start before rest : List Char} (hStart : ∀ c ∈ start, c.isDigit = false)
    (hDigits : IsNatural digits) (h : start <+: before ++ (digits ++ rest)) : start <+: before := by
  rcases Nat.le_total start.length before.length with hLength | hLength
  · exact List.prefix_of_prefix_length_le h (List.prefix_append _ _) hLength
  · obtain ⟨more, rfl⟩ := List.prefix_of_prefix_length_le (List.prefix_append before _) h hLength
    rw [List.prefix_append_right_inj] at h
    cases more with
    | nil => simp
    | cons c more =>
        obtain ⟨first, digits', rfl⟩ := List.exists_cons_of_ne_nil hDigits.ne_nil
        obtain ⟨rfl, -⟩ := List.cons_prefix_cons.mp h
        have hDigit := hDigits.isDigit c List.mem_cons_self
        rw [hStart c (by simp)] at hDigit
        cases hDigit

theorem read_of_takeSign {negative : Bool} {text rest : List Char} (hDigits : IsNatural digits)
    (hFits : digitsValue digits ≤ 9223372036854775807) (hRest : ¬Extends false rest)
    (hSign : (signed plus minus false).takeSign text = some (negative, digits ++ rest)) :
    (signed plus minus false).read (String.ofList text) =
      if ((signed plus minus false).affixes negative).behind.isPrefixOf rest then
        .ok (.whole (Int64.ofInt (if negative then -digitsValue digits else digitsValue digits)))
      else .error (.invalidNumber (String.ofList text) "number") := by
  have hWrites : Writes (signed plus minus false).grouping digits digits :=
    .refl hDigits.ne_nil hDigits.isDigit
  have hAmount : Numeral.toAmount ⟨digits, none, none⟩ negative (signed plus minus false).divisor =
      .whole (Int64.ofInt (if negative then -digitsValue digits else digitsValue digits)) :=
    Numeral.toAmount_digits negative hFits
  rw [read, String.toList_ofList, read?_digits hWrites hSign hRest, hAmount]
  cases ((signed plus minus false).affixes negative).behind.isPrefixOf rest <;> rfl

/-- Numbers between the texts for positive ones are positive: no other text before them that fits is longer. -/
theorem read_plus (hMinus : minus.AreApart) (hPlus : plus.AreApart) (hDigits : IsNatural digits)
    (hFits : digitsValue digits ≤ 9223372036854775807) :
    (signed plus minus false).read (String.ofList (plus.around digits)) =
      .ok (.whole (Int64.ofInt (digitsValue digits))) := by
  have hStart : ∀ c ∈ minus.before, c.isDigit = false := fun c hc =>
    (hMinus c (List.mem_append_left _ hc)).1
  have hSign : (signed plus minus false).takeSign (plus.around digits) =
      some (false, digits ++ plus.behind) :=
    takeSign_of_starts (List.append_assoc ..) fun hOther => by
      rw [Affixes.around, List.append_assoc] at hOther
      exact (prefix_of_digits hStart hDigits hOther).length_le
  have hRest := not_extends_of_apart fun c hc => hPlus c (List.mem_append_right _ hc)
  rw [read_of_takeSign hDigits hFits hRest hSign]
  exact if_pos (List.isPrefixOf_iff_prefix.mpr (List.prefix_refl _))

/-- Numbers between the texts for negative ones are negative if they start otherwise than positive ones. -/
theorem read_minus_of_ne (hMinus : minus.AreApart) (hPlus : plus.AreApart) (hDigits : IsNatural digits)
    (hFits : digitsValue digits ≤ 9223372036854775807) (hStarts : plus.before ≠ minus.before) :
    (signed plus minus false).read (String.ofList (minus.around digits)) =
      .ok (.whole (Int64.ofInt (-digitsValue digits))) := by
  have hStart : ∀ c ∈ plus.before, c.isDigit = false := fun c hc =>
    (hPlus c (List.mem_append_left _ hc)).1
  have hSign : (signed plus minus false).takeSign (minus.around digits) =
      some (true, digits ++ minus.behind) :=
    takeSign_of_starts (List.append_assoc ..) fun hOther => by
      rw [Affixes.around, List.append_assoc] at hOther
      have hShorter : plus.before <+: minus.before := prefix_of_digits hStart hDigits hOther
      exact Nat.lt_of_le_of_ne hShorter.length_le (mt hShorter.eq_of_length hStarts)
  have hRest := not_extends_of_apart fun c hc => hMinus c (List.mem_append_right _ hc)
  rw [read_of_takeSign hDigits hFits hRest hSign]
  exact if_pos (List.isPrefixOf_iff_prefix.mpr (List.prefix_refl _))

/-- If they start alike they are taken for positive ones, and refused if these go on otherwise. -/
theorem read_minus_of_eq (hMinus : minus.AreApart) (hDigits : IsNatural digits)
    (hFits : digitsValue digits ≤ 9223372036854775807) (hStarts : plus.before = minus.before) :
    (signed plus minus false).read (String.ofList (minus.around digits)) =
      if plus.behind.isPrefixOf minus.behind then .ok (.whole (Int64.ofInt (digitsValue digits)))
      else .error (.invalidNumber (String.ofList (minus.around digits)) "number") := by
  have hSign : (signed plus minus false).takeSign (minus.around digits) =
      some (false, digits ++ minus.behind) := by
    apply takeSign_of_starts
    · rw [Affixes.around, ← hStarts, List.append_assoc]
      rfl
    · intro _
      exact (congrArg List.length hStarts).ge
  have hRest := not_extends_of_apart fun c hc => hMinus c (List.mem_append_right _ hc)
  rw [read_of_takeSign hDigits hFits hRest hSign]
  rfl

/-- The texts of positive numbers fit digits between those of negative ones only if they start alike and go on
alike. -/
theorem fit_around_iff (hPlus : plus.AreApart) (hMinus : minus.AreApart) (hDigits : IsNatural digits) :
    plus.Fit (minus.around digits) ↔ plus.before = minus.before ∧ plus.behind <+: minus.behind := by
  constructor
  · rintro ⟨others, after, hOthers, hText⟩
    simp only [Affixes.around, List.append_assoc] at hText
    have hShorter : plus.before <+: minus.before :=
      prefix_of_digits (fun c hc => (hPlus c (List.mem_append_left _ hc)).1) hDigits
        (hText.symm ▸ List.prefix_append _ _)
    have hLonger : minus.before <+: plus.before :=
      prefix_of_digits (fun c hc => (hMinus c (List.mem_append_left _ hc)).1) hOthers
        (hText ▸ List.prefix_append _ _)
    have hStarts : plus.before = minus.before :=
      hShorter.eq_of_length (Nat.le_antisymm hShorter.length_le hLonger.length_le)
    rw [← hStarts] at hText
    have hNumber := List.append_cancel_left hText
    refine ⟨hStarts, ?_⟩
    -- Nothing behind the number keeps other digits from being taken for it.
    cases hBehind : plus.behind with
    | nil => exact List.nil_prefix
    | cons c more =>
        rw [hBehind] at hNumber
        have hOwn : (digits ++ minus.behind).takeWhile Char.isDigit = digits :=
          (takeWhile_digits hDigits.isDigit fun d hd =>
            (hMinus d (List.mem_append_right _ (List.mem_of_head? hd))).1)
        have hOther : (others ++ (c :: more ++ after)).takeWhile Char.isDigit = others := by
          apply takeWhile_digits hOthers.isDigit
          rintro _ ⟨⟩
          exact (hPlus c (by simp [hBehind])).1
        rw [← hNumber, hOwn] at hOther
        subst hOther
        rw [List.append_cancel_left hNumber]
        exact List.prefix_append _ _
  · rintro ⟨hStarts, after, hAfter⟩
    exact ⟨digits, after, hDigits, by simp only [Affixes.around, hStarts, ← hAfter, List.append_assoc]⟩

/-- A pattern with a number between two quoted texts for each sign compiles whatever these texts are. If none
of their characters can belong to a number, digits between the texts for positive numbers are read as the number
that they are, and digits between those for negative numbers as its opposite when the texts before the numbers
differ. When they do not, the number is taken for a positive one, and is refused if it does not go on like
one. -/
theorem read_signed (hPlus : plus.AreApart) (hMinus : minus.AreApart) :
    ∃ format, ofPattern (patternOfSigns plus minus) = .ok format ∧
      ∀ digits, IsNatural digits → digitsValue digits ≤ 9223372036854775807 →
        format.read (String.ofList (plus.around digits)) =
          .ok (.whole (Int64.ofInt (digitsValue digits))) ∧
        (plus.before ≠ minus.before → format.read (String.ofList (minus.around digits)) =
          .ok (.whole (Int64.ofInt (-digitsValue digits)))) ∧
        (plus.before = minus.before →
          (plus.Fit (minus.around digits) → format.read (String.ofList (minus.around digits)) =
            .ok (.whole (Int64.ofInt (digitsValue digits)))) ∧
          (¬plus.Fit (minus.around digits) → format.read (String.ofList (minus.around digits)) =
            .error (.invalidNumber (String.ofList (minus.around digits)) "number"))) := by
  refine ⟨_, ofPattern_signed plus minus, fun digits hDigits hFits => ⟨?_, ?_, ?_⟩⟩
  · exact read_plus hMinus hPlus hDigits hFits
  · exact read_minus_of_ne hMinus hPlus hDigits hFits
  · intro hStarts
    rw [read_minus_of_eq hMinus hDigits hFits hStarts, fit_around_iff hPlus hMinus hDigits,
      ← List.isPrefixOf_iff_prefix]
    exact ⟨fun hFit => if_pos hFit.2, fun hNot => if_neg fun hBehind => hNot ⟨hStarts, hBehind⟩⟩

/-- Amounts with an abbreviation behind them, and debts in brackets with another one. -/
theorem read_signed_brackets : ∃ format,
    ofPattern (patternOfSigns ⟨"USD ".toList, []⟩ ⟨"(USD ".toList, ")".toList⟩) = .ok format ∧
      format.read "USD 1200" = .ok (.whole 1200) ∧ format.read "(USD 1200)" = .ok (.whole (-1200)) := by
  have hPlus : Affixes.AreApart ⟨"USD ".toList, []⟩ := by decide
  have hMinus : Affixes.AreApart ⟨"(USD ".toList, ")".toList⟩ := by decide
  obtain ⟨format, hFormat, hReads⟩ := read_signed hPlus hMinus
  have hDigits : IsNatural "1200".toList := ⟨by decide, List.all_eq_true.mp (by decide)⟩
  obtain ⟨hPositive, hNegative, -⟩ := hReads "1200".toList hDigits (by decide)
  exact ⟨format, hFormat, hPositive, hNegative (by decide)⟩

/-- Where the signs are told apart only by what stands behind the numbers, negative ones are refused. -/
theorem not_readsEachSign_sameStart :
    patternOfSigns ⟨[], ['+']⟩ ⟨[], ['-']⟩ = "0'+';0'-'" ∧
      Affixes.AreApart ⟨[], ['+']⟩ ∧ Affixes.AreApart ⟨[], ['-']⟩ ∧
      (⟨[], ['+']⟩ : Affixes) ≠ ⟨[], ['-']⟩ ∧
      ∃ format, ofPattern (patternOfSigns ⟨[], ['+']⟩ ⟨[], ['-']⟩) = .ok format ∧
        ¬format.ReadsEachSign := by
  have hPlus : Affixes.AreApart ⟨[], ['+']⟩ := by decide
  have hMinus : Affixes.AreApart ⟨[], ['-']⟩ := by decide
  refine ⟨by decide +kernel, hPlus, hMinus, by decide, _, ofPattern_signed _ _, fun hReads => ?_⟩
  have hDigits : IsNatural ['5'] := ⟨by decide, List.all_eq_true.mp (by decide)⟩
  have hOneReading : ¬(Affixes.Fit ⟨[], ['+']⟩ (Affixes.around ⟨[], ['-']⟩ ['5'])) := by
    rw [fit_around_iff hPlus hMinus hDigits]
    decide
  have hNegative := hReads true ['5'] hDigits (by decide) hOneReading
  have hRefused := @read_minus_of_eq ⟨[], ['+']⟩ ⟨[], ['-']⟩ ['5'] hMinus hDigits (by decide) rfl
  have hBehind : ¬['+'].isPrefixOf ['-'] = true := by decide
  rw [if_neg hBehind] at hRefused
  cases hNegative.symm.trans hRefused

end LogIngest.NumberFormat
