import Mathlib.Data.List.TakeWhile
import LogIngest.Number.Format
import LogIngest.Proofs.Fallible
import LogIngest.Proofs.Text.Quotes

/-!
Compilation of number formats. Main statement: a pattern that puts placeholders between two quoted texts
compiles to the format that has just these texts around its numbers, whatever characters they are made of.
-/

namespace LogIngest.NumberFormat

open Text (Symbol symbols quotedLiteral symbols_quotedLiteral symbols_plain)

/-- What stands for the digits of a number in a pattern: placeholders and digits, at least one of them, with
commas anywhere and at most one point. -/
structure IsBody (body : List Char) : Prop where
  chars : ∀ c ∈ body, isNumberChar c = true
  placeholder : ∃ c ∈ body, c = '#' ∨ c.isDigit = true
  point : body.count '.' ≤ 1

/-- The format of numbers between two texts, with a minus sign before them when they are negative. -/
def between (before behind : List Char) (grouping : Bool) : NumberFormat where
  positive := ⟨before, behind⟩
  negative := ⟨'-' :: before, behind⟩
  divisor := 1
  grouping

/-- Characters of numbers are neither quotes nor separators. -/
theorem ne_of_isNumberChar {c : Char} (h : isNumberChar c = true) : c ≠ '\'' ∧ c ≠ ';' := by
  constructor
  all_goals
    rintro rfl
    exact absurd h (by decide)

/-- A character that stands for a digit. -/
def isPlaceholder (c : Char) : Bool :=
  c != ',' && c != '.'

namespace Outline

/-- What the characters of a number make of an outline. -/
def withNumber (outline : Outline) (body : List Char) : Outline :=
  { outline with
    part := if body.isEmpty then outline.part else .number
    grouping := outline.grouping || body.contains ','
    placeholder := outline.placeholder || body.any isPlaceholder
    point := outline.point || body.contains '.' }

/-- One character of a number, which may be a point only as long as none has been seen. -/
theorem add_numberChar {outline : Outline} {c : Char}
    (hPart : outline.part = .before ∨ outline.part = .number) (hChar : isNumberChar c = true)
    (hPoint : c = '.' → outline.point = false) :
    outline.add (.plain c) = .ok (outline.withNumber [c]) := by
  have hPlain : outline.add (.plain c) = outline.addNumberChar c := by
    rcases hPart with hPart | hPart <;> simp [add, addPlain, hPart, hChar]
  rw [hPlain]
  by_cases hComma : c = ','
  · subst hComma
    simp [addNumberChar, withNumber, isPlaceholder]
  · by_cases hDot : c = '.'
    · subst hDot
      simp [addNumberChar, withNumber, isPlaceholder, hPoint rfl]
    · have hComma' : ',' ≠ c := Ne.symm hComma
      have hDot' : '.' ≠ c := Ne.symm hDot
      simp [addNumberChar, withNumber, isPlaceholder, hComma, hDot, hComma', hDot']

theorem withNumber_nil (outline : Outline) : outline.withNumber [] = outline := by
  simp [withNumber]

/-- Characters of a number are added one by one. -/
theorem withNumber_cons (outline : Outline) (c : Char) (body : List Char) :
    (outline.withNumber [c]).withNumber body = outline.withNumber (c :: body) := by
  cases body with
  | nil => simp [withNumber]
  | cons d body => simp [withNumber, Bool.or_assoc]

/-- The number of a pattern, with at most one point in all. -/
theorem foldlM_number {outline : Outline} {body : List Char}
    (hPart : outline.part = .before ∨ outline.part = .number)
    (hChars : ∀ c ∈ body, isNumberChar c = true)
    (hPoint : body.count '.' + outline.point.toNat ≤ 1) :
    (body.map Symbol.plain).foldlM add outline = .ok (outline.withNumber body) := by
  induction body generalizing outline with
  | nil =>
      rw [withNumber_nil]
      rfl
  | cons c body ih =>
      obtain ⟨hChar, hChars⟩ := List.forall_mem_cons.mp hChars
      have hFirst : outline.add (.plain c) = .ok (outline.withNumber [c]) := by
        apply add_numberChar hPart hChar
        rintro rfl
        rw [List.count_cons_self] at hPoint
        cases hSeen : outline.point with
        | false => rfl
        | true =>
            simp only [hSeen, Bool.toNat_true] at hPoint
            omega
      have hRest : body.count '.' + (outline.withNumber [c]).point.toNat ≤ 1 := by
        by_cases hDot : c = '.'
        · subst hDot
          rw [List.count_cons_self] at hPoint
          have hSeen : (outline.withNumber ['.']).point.toNat = 1 := by simp [withNumber]
          omega
        · have hDot' : '.' ≠ c := Ne.symm hDot
          rw [List.count_cons_of_ne hDot] at hPoint
          simpa [withNumber, hDot'] using hPoint
      rw [List.map_cons, List.foldlM_cons, hFirst]
      exact (ih (Or.inr rfl) hChars hRest).trans (by rw [withNumber_cons])

/-- Literal characters go where the outline stands, unless zeros of an exponent have to follow. -/
theorem add_literal {outline : Outline} (hPart : outline.part ≠ .exponentMark) (c : Char) :
    outline.add (.literal c) = .ok (outline.push c) := by
  simp [add, hPart]

/-- Literal characters before the number go to the text in front. -/
theorem foldlM_literal_before (text : List Char) {outline : Outline}
    (hPart : outline.part = .before) :
    (text.map Symbol.literal).foldlM add outline =
      .ok { outline with
        affixes := { outline.affixes with before := outline.affixes.before ++ text } } := by
  induction text generalizing outline with
  | nil => simp [pure, Except.pure]
  | cons c text ih =>
      have hNext : (outline.push c).part = .before := by simp [push, hPart]
      rw [List.map_cons, List.foldlM_cons, add_literal (by simp [hPart])]
      exact (ih hNext).trans (by simp [push, hPart])

/-- What literal characters behind the number make of an outline. -/
def withBehind (outline : Outline) (text : List Char) : Outline :=
  { outline with
    part := if text.isEmpty then outline.part else .behind
    affixes := { outline.affixes with behind := outline.affixes.behind ++ text } }

/-- A literal text ends the number without an exponent. -/
theorem part_withBehind {outline : Outline} (hPart : outline.part = .number) (text : List Char) :
    (outline.withBehind text).part ≠ .exponentMark := by
  cases text with
  | nil => simp [withBehind, hPart]
  | cons c text => simp [withBehind]

/-- Literal characters behind the number go to the text behind it. -/
theorem foldlM_literal_behind (text : List Char) {outline : Outline}
    (hPart : outline.part = .number ∨ outline.part = .behind) :
    (text.map Symbol.literal).foldlM add outline = .ok (outline.withBehind text) := by
  induction text generalizing outline with
  | nil => simp [withBehind, pure, Except.pure]
  | cons c text ih =>
      have hPush : outline.push c = outline.withBehind [c] := by
        rcases hPart with hPart | hPart <;> simp [push, withBehind, hPart]
      have hLiteral : outline.add (.literal c) = .ok (outline.push c) := by
        apply add_literal
        rcases hPart with hPart | hPart <;> simp [hPart]
      rw [List.map_cons, List.foldlM_cons, hLiteral, hPush]
      exact (ih (Or.inr rfl)).trans (by simp [withBehind])

end Outline

namespace IsBody

variable {body : List Char}

/-- A body of placeholders is not empty. -/
theorem ne_nil (hBody : IsBody body) : body ≠ [] := by
  obtain ⟨c, hc, -⟩ := hBody.placeholder
  exact List.ne_nil_of_mem hc

theorem any_isPlaceholder (hBody : IsBody body) : body.any isPlaceholder = true := by
  obtain ⟨c, hc, hDigit⟩ := hBody.placeholder
  refine List.any_eq_true.mpr ⟨c, hc, ?_⟩
  rcases hDigit with rfl | hDigit
  · rfl
  · have hComma : c ≠ ',' := by
      rintro rfl
      exact absurd hDigit (by decide)
    have hDot : c ≠ '.' := by
      rintro rfl
      exact absurd hDigit (by decide)
    simp [isPlaceholder, hComma, hDot]

end IsBody

namespace Outline

/-- A number between two literal texts: each is found on its side of the number. -/
theorem ofSymbols_between (before behind : List Char) {body : List Char} (hBody : IsBody body) :
    ofSymbols (before.map .literal ++ (body.map .plain ++ behind.map .literal)) =
      .ok ((withNumber { affixes := ⟨before, []⟩ } body).withBehind behind) := by
  have hBefore : (before.map Symbol.literal).foldlM add {} = .ok { affixes := ⟨before, []⟩ } :=
    foldlM_literal_before before rfl
  have hNumber : (body.map Symbol.plain).foldlM add { affixes := ⟨before, []⟩ } =
      .ok (withNumber { affixes := ⟨before, []⟩ } body) :=
    foldlM_number (Or.inl rfl) hBody.chars hBody.point
  have hPart : (withNumber { affixes := ⟨before, []⟩ } body).part = .number := by
    simp [withNumber, hBody.ne_nil]
  have hBehind := foldlM_literal_behind behind (Or.inl hPart)
  have hEnd := part_withBehind hPart behind
  rw [ofSymbols, List.foldlM_append, hBefore]
  simp only [bind, Except.bind]
  rw [List.foldlM_append, hNumber]
  simp only [bind, Except.bind]
  rw [hBehind]
  simp [hEnd, pure, Except.pure]

end Outline

/-- The symbols of a number between two quoted texts. What follows must not belong to the last quote. -/
theorem symbols_between (before behind : List Char) {body rest : List Char} (hBody : IsBody body)
    (hRest : rest.head? ≠ some '\'') :
    symbols (quotedLiteral before ++ (body ++ (quotedLiteral behind ++ rest))) =
      before.map .literal ++ (body.map .plain ++ behind.map .literal) ++ symbols rest := by
  have hQuoteFree : ∀ c ∈ body, c ≠ '\'' := fun c hc => (ne_of_isNumberChar (hBody.chars c hc)).1
  have hFollow : (body ++ (quotedLiteral behind ++ rest)).head? ≠ some '\'' := by
    obtain ⟨c, hc, -⟩ := hBody.placeholder
    cases body with
    | nil => cases hc
    | cons d body =>
        intro h
        exact hQuoteFree d List.mem_cons_self (Option.some.inj h)
  rw [symbols_quotedLiteral before hFollow, symbols_plain hQuoteFree, symbols_quotedLiteral behind hRest]
  simp only [List.append_assoc]

/-- No character of a number between two texts starts a second pattern. -/
theorem ne_semicolon_between (before behind : List Char) {body : List Char} (hBody : IsBody body) :
    ∀ symbol ∈ before.map Symbol.literal ++ (body.map .plain ++ behind.map .literal),
      (symbol != .plain ';') = true := by
  intro symbol hSymbol
  simp only [List.mem_append, List.mem_map] at hSymbol
  rcases hSymbol with ⟨c, -, rfl⟩ | ⟨c, hc, rfl⟩ | ⟨c, -, rfl⟩
  · rfl
  · simpa using (ne_of_isNumberChar (hBody.chars c hc)).2
  · rfl

/-- A pattern that puts a number between two quoted texts. Neither of them can be taken for a part of the
number, for a percentage, or for the start of a second pattern. -/
theorem compile_between (before behind : List Char) {body : List Char} (hBody : IsBody body) :
    compile (quotedLiteral before ++ (body ++ quotedLiteral behind)) =
      .ok (between before behind (body.contains ',')) := by
  have hSymbols := @symbols_between before behind body [] hBody (by simp)
  have hEmpty : symbols [] = [] := rfl
  rw [hEmpty, List.append_nil, List.append_nil] at hSymbols
  have hOne := ne_semicolon_between before behind hBody
  simp only [compile, hSymbols, List.takeWhile_eq_self_iff.mpr hOne,
    List.dropWhile_eq_nil_iff.mpr hOne, Outline.ofSymbols_between before behind hBody, bind,
    Except.bind, pure, Except.pure]
  simp [Outline.withBehind, Outline.withNumber, hBody.any_isPlaceholder, between]

/-! ## Divisors -/

/-- What numbers are divided by: nothing but one, unless there is a percent or a per mille sign. -/
def divisors : List Nat :=
  [1, 100, 1000]

namespace Outline

variable {outline next : Outline}

/-- A placeholder leaves the divisor alone. -/
theorem divisor_push (c : Char) : (outline.push c).divisor = outline.divisor := by
  unfold push
  split <;> rfl

/-- So does any character of a number. -/
theorem divisor_addNumberChar {c : Char} (h : outline.addNumberChar c = .ok next) :
    next.divisor = outline.divisor := by
  unfold addNumberChar at h
  dsimp only at h
  split at h
  · cases h
    rfl
  · split at h
    · split at h
      · cases h
      · cases h
        rfl
    · cases h
      rfl

/-- A sign that divides is the first one. -/
theorem divisor_addAffixChar {c : Char} (h : outline.addAffixChar c = .ok next)
    (hDivisor : outline.divisor.getD 1 ∈ divisors) : next.divisor.getD 1 ∈ divisors := by
  cases hOld : outline.divisor with
  | none =>
      simp only [addAffixChar, hOld] at h
      split at h
      · obtain rfl := Except.ok.inj h
        rw [divisor_push, Option.getD_some]
        decide
      · split at h
        · obtain rfl := Except.ok.inj h
          rw [divisor_push, Option.getD_some]
          decide
        · obtain rfl := Except.ok.inj h
          rwa [divisor_push]
  | some old =>
      simp only [addAffixChar, hOld] at h
      split at h
      · cases h
      · split at h
        · cases h
        · obtain rfl := Except.ok.inj h
          rwa [divisor_push]

/-- A character outside of the number may set the divisor to that of percents or permilles. -/
theorem divisor_addPlain {c : Char} (h : outline.addPlain c = .ok next)
    (hDivisor : outline.divisor.getD 1 ∈ divisors) : next.divisor.getD 1 ∈ divisors := by
  have hNumber : outline.addNumberChar c = .ok next → next.divisor.getD 1 ∈ divisors := by
    intro hNext
    rwa [divisor_addNumberChar hNext]
  have hAffix : outline.addAffixChar c = .ok next → next.divisor.getD 1 ∈ divisors :=
    fun hNext => divisor_addAffixChar hNext hDivisor
  unfold addPlain at h
  split at h
  · split at h
    · exact hNumber h
    · exact hAffix h
  · split at h
    · exact hNumber h
    · split at h
      · cases h
        exact hDivisor
      · exact hAffix h
  · split at h
    · cases h
      exact hDivisor
    · cases h
  · split at h
    · cases h
      exact hDivisor
    · split at h
      · cases h
      · exact hAffix h
  · split at h
    · cases h
    · exact hAffix h

/-- Every symbol keeps the divisor one of three. -/
theorem divisor_add {symbol : Symbol} (h : outline.add symbol = .ok next)
    (hDivisor : outline.divisor.getD 1 ∈ divisors) : next.divisor.getD 1 ∈ divisors := by
  cases symbol with
  | plain c => exact divisor_addPlain h hDivisor
  | literal c =>
      simp only [add] at h
      split at h
      · cases h
      · cases h
        rwa [divisor_push]
  | unterminated =>
      simp only [add] at h
      split at h <;> cases h

/-- By induction, so do all symbols of a pattern. -/
theorem divisor_foldlM {symbols : List Symbol} (h : symbols.foldlM add outline = .ok next)
    (hDivisor : outline.divisor.getD 1 ∈ divisors) : next.divisor.getD 1 ∈ divisors := by
  induction symbols generalizing outline with
  | nil =>
      cases h
      exact hDivisor
  | cons symbol symbols ih =>
      rw [List.foldlM_cons] at h
      obtain ⟨first, hFirst, h⟩ := bind_eq_ok h
      exact ih h (divisor_add hFirst hDivisor)

/-- The divisor of every pattern is one of three, and none of them is zero. -/
theorem divisor_ofSymbols {symbols : List Symbol} (h : ofSymbols symbols = .ok outline) :
    outline.divisor.getD 1 ∈ divisors := by
  obtain ⟨last, hLast, h⟩ := bind_eq_ok h
  have hDivisor := divisor_foldlM hLast (by decide)
  split at h
  · cases h
  · cases h
    exact hDivisor

end Outline

/-- The divisor of every format that compiles. -/
theorem divisor_of_ofPattern {pattern : String} {format : NumberFormat}
    (h : ofPattern pattern = .ok format) : format.divisor ∈ divisors := by
  have hCompile : compile pattern.toList = .ok format := by
    unfold ofPattern at h
    cases hCompile : compile pattern.toList with
    | error fault =>
        rw [hCompile] at h
        cases h
    | ok found =>
        rw [hCompile] at h
        cases h
        rfl
  obtain ⟨positive, hPositive, h⟩ := bind_eq_ok hCompile
  dsimp only at h
  split at h
  · cases h
  · have hDivisor : format.divisor = positive.divisor.getD 1 := by
      split at h
      · cases h
        rfl
      · obtain ⟨negative, -, h⟩ := bind_eq_ok h
        cases h
        rfl
    rw [hDivisor]
    exact Outline.divisor_ofSymbols hPositive

end LogIngest.NumberFormat
