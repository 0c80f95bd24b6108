import LogIngest.Json.Writer
import LogIngest.Proofs.Decimal.Numeral

/-!
JSON texts of values as lines. Main statement: the text of a value on one line has no control characters,
whatever characters its strings have, so no line break is among them.
-/

namespace LogIngest

/-- A text without control characters. -/
def Printable (text : List Char) : Prop :=
  ∀ c ∈ text, 0x20 ≤ c.toNat

instance (text : List Char) : Decidable (Printable text) :=
  List.decidableBAll (fun c : Char => 0x20 ≤ c.toNat) text

section

variable {text others : List Char}

@[simp] theorem printable_nil : Printable [] :=
  nofun

@[simp] theorem printable_cons {c : Char} :
    Printable (c :: text) ↔ 0x20 ≤ c.toNat ∧ Printable text :=
  List.forall_mem_cons

@[simp] theorem printable_append : Printable (text ++ others) ↔ Printable text ∧ Printable others :=
  List.forall_mem_append

/-- What is left out of a text makes no difference. -/
theorem Printable.sublist (h : Printable text) (hPart : others.Sublist text) : Printable others :=
  fun c hc => h c (hPart.mem hc)

/-- A text without control characters has no line break. -/
theorem Printable.not_mem (h : Printable text) {c : Char} (hControl : c.toNat < 0x20) : c ∉ text :=
  fun hc => Nat.not_le.mpr hControl (h c hc)

theorem printable_replicate {c : Char} (h : 0x20 ≤ c.toNat) (count : Nat) :
    Printable (List.replicate count c) :=
  fun _ hd => (List.mem_replicate.mp hd).2 ▸ h

/-- Pieces without control characters are joined without any. -/
theorem printable_join {separator : List Char} (h : Printable separator) {pieces : List (List Char)}
    (hPieces : ∀ piece ∈ pieces, Printable piece) : Printable (Text.join separator pieces) := by
  induction pieces with
  | nil => exact printable_nil
  | cons piece pieces ih =>
      obtain ⟨hFirst, hRest⟩ := List.forall_mem_cons.mp hPieces
      cases pieces with
      | nil => exact hFirst
      | cons next pieces => simp [Text.join, h, hFirst, ih hRest]

end

/-! ### Numbers -/

/-- Digits are no control characters. -/
@[simp] theorem printable_natText (n : Nat) : Printable (natText n) :=
  fun _ hc => Nat.le_trans (by decide) (toNat_of_isDigit (isDigit_of_mem_natText hc)).1

/-- A whole number is written with digits and a minus sign. -/
theorem printable_intText (n : Int) : Printable (intText n) := by
  unfold intText
  split <;> simp

namespace FloatLayout

/-- A double in plain notation is written with digits, a point and a minus sign. -/
theorem printable_positionalText (layout : FloatLayout) (d : Decimal) :
    Printable (layout.positionalText d) := by
  have hDigits := printable_natText d.digits
  have hZeros := printable_replicate (c := '0') (by decide)
  unfold positionalText
  dsimp only
  split
  · split <;> simp [hZeros]
  · split
    · simp [hDigits.sublist (List.take_sublist _ _), hDigits.sublist (List.drop_sublist _ _)]
    · simp [hZeros]

/-- A double with an exponent is written with these and the letter of the exponent. -/
theorem printable_exponentText {digits : List Char} (h : Printable digits) (lead : Int) :
    Printable (exponentText digits lead) := by
  unfold exponentText
  split
  · split <;> simp_all
  · split <;> simp [h]

/-- Doubles are written without control characters in every layout. -/
theorem printable_text (layout : FloatLayout) (x : Float) : Printable (layout.text x) := by
  have hDecimal : ∀ d, Printable (layout.decimalText d) := by
    intro d
    unfold decimalText
    dsimp only
    split
    · exact printable_positionalText layout d
    · split
      · exact printable_positionalText layout d
      · exact printable_exponentText (printable_natText d.digits) _
  unfold text
  split
  · decide
  · split <;> decide
  · next negative mantissa exponent _ =>
      have hBody : Printable (if mantissa == 0 then (if layout.pointZero then ['0', '.', '0'] else ['0'])
          else layout.decimalText (Decimal.shortest layout.tie mantissa exponent)) := by
        split
        · split <;> decide
        · exact hDecimal _
      cases negative with
      | false => exact hBody
      | true => exact printable_cons.mpr ⟨by decide, hBody⟩

end FloatLayout

namespace Json

/-- A number is written without control characters, also where it is none and written as null. -/
theorem Number.printable_text (n : Number) : Printable n.text := by
  cases n with
  | integer n => exact printable_intText n
  | double x =>
      rw [Number.text]
      split
      · exact FloatLayout.printable_text .document x
      · decide

/-! ### Strings and values -/

/-- The characters of a string that are control characters are escaped. -/
theorem printable_escaped (c : Char) : Printable (escaped c) := by
  unfold escaped
  iterate 7
    split
    · decide
  split
  · next hControl =>
      have hHex : ∀ d < 16, 0x20 ≤ (Nat.digitChar d).toNat := by decide
      simp [hHex (c.toNat / 16) (by omega), hHex (c.toNat % 16) (by omega)]
  · next hPlain => simpa using hPlain

/-- A string is written without control characters between its quotes. -/
theorem printable_stringText (s : List Char) : Printable (stringText s) := by
  have hInside : Printable (s.flatMap escaped) := by
    intro c hc
    obtain ⟨d, -, hd⟩ := List.mem_flatMap.mp hc
    exact printable_escaped d c hd
  simp [stringText, hInside]

theorem printable_comma : Printable [','] := by
  decide

namespace Value

mutual

/-- The text of a value on one line has no control characters. -/
theorem printable_compact : ∀ v : Value, Printable v.compact
  | null => by decide
  | bool b => by cases b <;> decide
  | number n => n.printable_text
  | string s => printable_stringText s.toList
  | array items => by
      have hItems := printable_join printable_comma (printable_compactItems items)
      simp [compact, hItems]
  | object members => by
      have hMembers := printable_join printable_comma (printable_compactMembers members)
      simp [compact, hMembers]

/-- The texts of elements have no control characters, by induction with those of values. -/
theorem printable_compactItems : ∀ vs : List Value, ∀ text ∈ compactItems vs, Printable text
  | [] => nofun
  | v :: vs => List.forall_mem_cons.mpr ⟨printable_compact v, printable_compactItems vs⟩

/-- Neither have the texts of members. -/
theorem printable_compactMembers : ∀ members : List (String × Value),
    ∀ text ∈ compactMembers members, Printable text
  | [] => nofun
  | (k, v) :: rest => by
      have hFirst : Printable (stringText k.toList ++ ':' :: v.compact) := by
        simp [printable_stringText, printable_compact v]
      exact List.forall_mem_cons.mpr ⟨hFirst, printable_compactMembers rest⟩

end

end Value
end Json
end LogIngest
