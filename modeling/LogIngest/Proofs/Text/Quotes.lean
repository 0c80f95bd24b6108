import LogIngest.Text.Quotes

/-!
Literal texts in patterns. Main statement: a text that is quoted stands for its own characters, all of them
literal, whatever they are and whatever stands behind the quotes.
-/

namespace LogIngest.Text

/-- A text with every apostrophe in it doubled. -/
def doubled : List Char → List Char
  | [] => []
  | c :: rest => if c == '\'' then '\'' :: '\'' :: doubled rest else c :: doubled rest

/-- A text as the literal of a pattern. Apostrophes at its start are doubled; the rest, if there is any,
stands between apostrophes, with those in it doubled. -/
def quotedLiteral : List Char → List Char
  | [] => []
  | c :: rest =>
    if c == '\'' then '\'' :: '\'' :: quotedLiteral rest else '\'' :: c :: (doubled rest ++ ['\''])

/-- A quote that no other quote follows closes the quotes. -/
theorem symbolsFrom_closing {rest : List Char} (h : rest.head? ≠ some '\'') :
    symbolsFrom .closing rest = symbolsFrom .outside rest := by
  cases rest with
  | nil => rfl
  | cons c rest =>
      have hc : c ≠ '\'' := by simpa using h
      simp [symbolsFrom, hc]

theorem symbolsFrom_inside_doubled (text rest : List Char) :
    symbolsFrom .inside (doubled text ++ '\'' :: rest) =
      text.map .literal ++ symbolsFrom .closing rest := by
  induction text with
  | nil => rfl
  | cons c text ih =>
      by_cases hc : c = '\''
      · subst hc
        simpa [doubled, symbolsFrom] using ih
      · simpa [doubled, symbolsFrom, hc] using ih

/-- The quotes of a literal come off. No quote may follow it, which would belong to its last one. -/
theorem symbols_quotedLiteral (text : List Char) {rest : List Char} (h : rest.head? ≠ some '\'') :
    symbols (quotedLiteral text ++ rest) = text.map .literal ++ symbols rest := by
  unfold symbols
  induction text with
  | nil => rfl
  | cons c text ih =>
      by_cases hc : c = '\''
      · subst hc
        simpa [quotedLiteral, symbolsFrom] using ih
      · have hInside := symbolsFrom_inside_doubled text rest
        rw [symbolsFrom_closing h] at hInside
        simpa [quotedLiteral, symbolsFrom, hc] using hInside

/-- Without quotes every character stands for itself and may have a special meaning. -/
theorem symbols_plain {text : List Char} (hText : ∀ c ∈ text, c ≠ '\'') (rest : List Char) :
    symbols (text ++ rest) = text.map .plain ++ symbols rest := by
  unfold symbols
  induction text with
  | nil => rfl
  | cons c text ih =>
      obtain ⟨hc, hText⟩ := List.forall_mem_cons.mp hText
      simpa [symbolsFrom, hc] using ih hText

end LogIngest.Text
