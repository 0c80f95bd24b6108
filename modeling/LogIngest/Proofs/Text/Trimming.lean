import Mathlib.Data.List.TakeWhile
import LogIngest.Text.Blank

/-!
White space at the ends of texts. Main statements: a text is what is left of it without this white space, with
the white space put back; how much of it there is makes no difference to what is left.
-/

namespace LogIngest.Text

/-- What is dropped from the start of a text ends where the condition does. -/
theorem head?_dropWhile {p : Char → Bool} {text : List Char} {c : Char}
    (h : (text.dropWhile p).head? = some c) : p c = false := by
  have hStop := List.head?_dropWhile_not p text
  rwa [h] at hStop

variable {before after : List Char}

theorem trimEnd_append_blank (hAfter : isBlank after = true) (text : List Char) :
    trimEnd (text ++ after) = trimEnd text := by
  have hReverse : isBlank after.reverse = true := by rwa [isBlank, List.all_reverse]
  unfold trimEnd
  rw [List.reverse_append, List.dropWhile_append_of_pos (List.all_eq_true.mp hReverse)]

/-- White space around a text is not left. -/
theorem trim_around (hBefore : isBlank before = true) (hAfter : isBlank after = true) (text : List Char) :
    trim (before ++ text ++ after) = trim text := by
  cases hText : isBlank text with
  | true =>
      rw [trim_eq_nil_iff.mpr hText, trim_eq_nil_iff, isBlank, List.all_append, List.all_append,
        Bool.and_eq_true, Bool.and_eq_true]
      exact ⟨⟨hBefore, hText⟩, hAfter⟩
  | false =>
      have hSome : (trimStart text).isEmpty = false := by
        rw [List.isEmpty_eq_false_iff, ne_eq, trimStart_eq_nil_iff, hText]
        exact Bool.false_ne_true
      have hStart : trimStart (before ++ text ++ after) = trimStart text ++ after := by
        rw [List.append_assoc, trimStart, List.dropWhile_append_of_pos (List.all_eq_true.mp hBefore),
          List.dropWhile_append]
        simp only [trimStart] at hSome
        rw [hSome]
        rfl
      rw [trim, hStart, trimEnd_append_blank hAfter, trim]

/-- A text is made of white space, what is left without it, and white space again. -/
theorem exists_trim (text : List Char) : ∃ before after, isBlank before = true ∧ isBlank after = true ∧
    text = before ++ trim text ++ after := by
  refine ⟨text.takeWhile isBlankChar, ((trimStart text).reverse.takeWhile isBlankChar).reverse, ?_, ?_, ?_⟩
  · exact List.all_eq_true.mpr fun c hc => List.mem_takeWhile_imp hc
  · exact List.all_eq_true.mpr fun c hc => List.mem_takeWhile_imp (List.mem_reverse.mp hc)
  · have hEnd : trim text ++ ((trimStart text).reverse.takeWhile isBlankChar).reverse = trimStart text := by
      rw [trim, trimEnd, ← List.reverse_append, List.takeWhile_append_dropWhile, List.reverse_reverse]
    rw [List.append_assoc, hEnd, trimStart, List.takeWhile_append_dropWhile]

/-- What is left does not start with white space. -/
theorem isBlankChar_of_head?_trim {text : List Char} {c : Char} (h : (trim text).head? = some c) :
    isBlankChar c = false := by
  have hPrefix : trim text <+: trimStart text := by
    rw [trim, trimEnd, ← List.reverse_suffix, List.reverse_reverse]
    exact List.dropWhile_suffix isBlankChar
  obtain ⟨rest, hRest⟩ := hPrefix
  have hStart : (text.dropWhile isBlankChar).head? = some c := by
    rw [← trimStart, ← hRest, List.head?_append, h]
    rfl
  exact head?_dropWhile hStart

end LogIngest.Text
