/-!
White space, and texts without it at their ends. Main statements: a text is blank exactly when nothing is
left of it without the white space at its ends, and what is left has none there.
-/

namespace LogIngest.Text

/-- The characters with the property White_Space: the ASCII controls from tab to carriage return, the
space, and the separators of other scripts. The zero-width space is not among them. -/
def isBlankChar (c : Char) : Bool :=
  let n := c.toNat
  (0x09 ≤ n && n ≤ 0x0D) || n == 0x20 || n == 0x85 || n == 0xA0 || n == 0x1680 ||
    (0x2000 ≤ n && n ≤ 0x200A) || n == 0x2028 || n == 0x2029 || n == 0x202F || n == 0x205F ||
    n == 0x3000

/-- A text of nothing but white space, the empty text among them. -/
def isBlank (text : List Char) : Bool :=
  text.all isBlankChar

/-- The text from its first character that is not white space. -/
def trimStart (text : List Char) : List Char :=
  text.dropWhile isBlankChar

/-- The text up to its last character that is not white space. -/
def trimEnd (text : List Char) : List Char :=
  (text.reverse.dropWhile isBlankChar).reverse

/-- The text without white space at its ends. -/
def trim (text : List Char) : List Char :=
  trimEnd (trimStart text)

theorem trimStart_eq_nil_iff {text : List Char} : trimStart text = [] ↔ isBlank text = true := by
  induction text with
  | nil => exact ⟨fun _ => rfl, fun _ => rfl⟩
  | cons c rest ih =>
    unfold trimStart isBlank at *
    rw [List.dropWhile_cons, List.all_cons]
    cases isBlankChar c with
    | true => exact ih
    | false => simp

theorem isBlank_trimStart (text : List Char) : isBlank (trimStart text) = isBlank text := by
  induction text with
  | nil => rfl
  | cons c rest ih =>
    unfold trimStart isBlank at *
    rw [List.dropWhile_cons]
    cases hc : isBlankChar c with
    | true => simpa [hc] using ih
    | false => simp [hc]

theorem trimEnd_eq_nil_iff {text : List Char} : trimEnd text = [] ↔ isBlank text = true := by
  have hReverse : isBlank text.reverse = isBlank text := List.all_reverse
  unfold trimEnd
  rw [List.reverse_eq_nil_iff, ← hReverse]
  exact trimStart_eq_nil_iff

theorem trim_eq_nil_iff {text : List Char} : trim text = [] ↔ isBlank text = true := by
  rw [trim, trimEnd_eq_nil_iff, isBlank_trimStart]

theorem trimStart_cons {c : Char} (h : isBlankChar c = false) (rest : List Char) :
    trimStart (c :: rest) = c :: rest := by
  simp [trimStart, h]

theorem trimStart_trimStart (text : List Char) : trimStart (trimStart text) = trimStart text := by
  induction text with
  | nil => rfl
  | cons c rest ih =>
    cases hc : isBlankChar c with
    | true => simpa [trimStart, hc] using ih
    | false => simp [trimStart, hc]

theorem trimEnd_cons {c : Char} (h : isBlankChar c = false) (rest : List Char) :
    trimEnd (c :: rest) = c :: trimEnd rest := by
  simp only [trimEnd, List.reverse_cons, List.dropWhile_append]
  cases hRest : rest.reverse.dropWhile isBlankChar <;> simp [h]

theorem trimEnd_concat {c : Char} (h : isBlankChar c = false) (before : List Char) :
    trimEnd (before ++ [c]) = before ++ [c] := by
  simp [trimEnd, h]

theorem trimEnd_trimEnd (text : List Char) : trimEnd (trimEnd text) = trimEnd text := by
  rw [trimEnd, trimEnd, List.reverse_reverse]
  exact congrArg List.reverse (trimStart_trimStart text.reverse)

/-- A text with no white space at its ends is left as it is. -/
theorem trim_of_ends {text : List Char} (hFirst : ∀ c ∈ text.head?, isBlankChar c = false)
    (hLast : ∀ c ∈ text.getLast?, isBlankChar c = false) : trim text = text := by
  have hStart : trimStart text = text := by
    cases text with
    | nil => rfl
    | cons c rest => exact trimStart_cons (hFirst c rfl) rest
  rw [trim, hStart]
  rcases List.eq_nil_or_concat text with rfl | ⟨before, last, rfl⟩
  · rfl
  · rw [List.concat_eq_append] at hLast ⊢
    exact trimEnd_concat (hLast last (by simp)) before

theorem trim_trim (text : List Char) : trim (trim text) = trim text := by
  induction text with
  | nil => rfl
  | cons c rest ih =>
    cases hc : isBlankChar c with
    | true =>
      have hSkip : trim (c :: rest) = trim rest := by simp [trim, trimStart, hc]
      rw [hSkip, ih]
    | false =>
      rw [trim, trim, trimStart_cons hc, trimEnd_cons hc, trimStart_cons hc, trimEnd_cons hc,
        trimEnd_trimEnd]

end LogIngest.Text

namespace LogIngest

/-- The text without white space at its ends. -/
def trimmed (s : String) : String :=
  String.ofList (Text.trim s.toList)

/-- Whether a text is empty or nothing but white space. -/
def blank (s : String) : Bool :=
  Text.isBlank s.toList

theorem trimmed_eq_empty_iff {s : String} : trimmed s = "" ↔ blank s = true := by
  rw [trimmed, String.ofList_eq_empty_iff, Text.trim_eq_nil_iff, blank]

@[simp] theorem trimmed_trimmed (s : String) : trimmed (trimmed s) = trimmed s := by
  rw [trimmed, trimmed, String.toList_ofList, Text.trim_trim]

end LogIngest
