import LogIngest.Text.Pieces
import Mathlib.Data.List.Infix

/-!
Texts that are cut at a separator. Main statements: cutting undoes putting together, and putting together
undoes cutting, where each piece ends at the first separator behind it; so every text has one such list of
pieces.
-/

namespace LogIngest.Text

/-- With a separator put behind a piece, the first one in sight is the one at the end. A separator may overlap
itself and the end of a piece, so it is not enough that the piece has none in it. -/
def EndsAtFirst (separator piece : List Char) : Prop :=
  ∀ before after, piece ++ separator = before ++ separator ++ after → after = []

/-- The pieces of a text between separators: each ends at the first separator behind it, and there is none in
the last. -/
inductive Pieces (separator : List Char) : List (List Char) → Prop where
  | last {piece : List Char} (h : ¬separator <:+: piece) : Pieces separator [piece]
  | cons {piece : List Char} {pieces : List (List Char)} (h : EndsAtFirst separator piece)
    (rest : Pieces separator pieces) : Pieces separator (piece :: pieces)

variable {separator : List Char}

theorem endsAtFirst_nil (separator : List Char) : EndsAtFirst separator [] := by
  intro before after h
  have hLength := congrArg List.length h
  simp only [List.nil_append, List.length_append] at hLength
  exact List.eq_nil_of_length_eq_zero (by omega)

/-- The rest of a piece ends at the first separator as well. -/
theorem EndsAtFirst.tail {c : Char} {piece : List Char} (h : EndsAtFirst separator (c :: piece)) :
    EndsAtFirst separator piece := by
  intro before after hPiece
  apply h (c :: before) after
  rw [List.cons_append, hPiece]
  simp

/-- No separator begins at the start of a piece that is not empty, whatever stands behind the piece. -/
theorem EndsAtFirst.not_prefix {c : Char} {piece : List Char} (h : EndsAtFirst separator (c :: piece))
    (rest : List Char) : ¬separator <+: c :: (piece ++ separator ++ rest) := by
  intro hPrefix
  have hWithin : c :: piece ++ separator <+: c :: (piece ++ separator ++ rest) :=
    ⟨rest, by simp⟩
  have hShorter : separator.length < (c :: piece ++ separator).length := by
    simp only [List.length_append, List.length_cons]
    omega
  obtain ⟨after, hAfter⟩ := List.prefix_of_prefix_length_le hPrefix hWithin hShorter.le
  have hNone : after = [] := h [] after (by simpa using hAfter.symm)
  rw [hNone, List.append_nil] at hAfter
  rw [← hAfter] at hShorter
  exact lt_irrefl _ hShorter

/-- A character can be put in front of a piece unless a separator starts there. -/
theorem endsAtFirst_cons {c : Char} {piece : List Char}
    (hStart : ¬separator <+: c :: (piece ++ separator)) (h : EndsAtFirst separator piece) :
    EndsAtFirst separator (c :: piece) := by
  intro before after hPiece
  cases before with
  | nil => exact absurd ⟨after, by simpa using hPiece.symm⟩ hStart
  | cons d before =>
      apply h before after
      simpa using (List.cons.inj hPiece).2

/-! ### Putting together what was cut -/

theorem consHead_ne_nil (c : Char) (pieces : List (List Char)) : consHead c pieces ≠ [] := by
  cases pieces <;> exact List.cons_ne_nil _ _

/-- A text has at least one piece, which may be empty. -/
theorem splitFrom_ne_nil (separator : List Char) (skip : Nat) (text : List Char) :
    splitFrom separator skip text ≠ [] := by
  induction text generalizing skip with
  | nil => cases skip <;> exact List.cons_ne_nil _ _
  | cons c rest ih =>
      cases skip with
      | zero =>
          rw [splitFrom]
          split
          · exact List.cons_ne_nil _ _
          · exact consHead_ne_nil c _
      | succ skip => exact ih skip

theorem split_ne_nil (separator text : List Char) : split separator text ≠ [] :=
  splitFrom_ne_nil separator 0 text

/-- A piece in front of others is separated from them. -/
theorem join_cons {pieces : List (List Char)} (h : pieces ≠ []) (piece : List Char) :
    join separator (piece :: pieces) = piece ++ separator ++ join separator pieces := by
  cases pieces with
  | nil => exact absurd rfl h
  | cons next pieces => rfl

/-- Putting together is what the library calls intercalating. -/
theorem join_eq_intercalate (separator : List Char) (pieces : List (List Char)) :
    join separator pieces = separator.intercalate pieces := by
  induction pieces with
  | nil => rfl
  | cons piece pieces ih =>
      cases pieces with
      | nil => rw [List.intercalate_singleton, join]
      | cons next pieces => rw [List.intercalate_cons_cons, ← ih, join_cons (List.cons_ne_nil _ _)]

/-- A character in front of the first piece comes first in the whole. -/
theorem join_consHead (c : Char) {pieces : List (List Char)} (h : pieces ≠ []) :
    join separator (consHead c pieces) = c :: join separator pieces := by
  cases pieces with
  | nil => exact absurd rfl h
  | cons piece pieces => cases pieces <;> rfl

/-- What is passed over is lost, and nothing else. -/
theorem join_splitFrom (hSeparator : separator ≠ []) (skip : Nat) (text : List Char) :
    join separator (splitFrom separator skip text) = text.drop skip := by
  induction text generalizing skip with
  | nil => cases skip <;> rfl
  | cons c rest ih =>
      cases skip with
      | succ skip => exact ih skip
      | zero =>
          rw [splitFrom]
          split
          · next hPrefix =>
              -- the rest of the separator is passed over, and put back in front of the pieces
              obtain ⟨after, hAfter⟩ := List.isPrefixOf_iff_prefix.mp hPrefix
              obtain ⟨d, tail, rfl⟩ := List.exists_cons_of_ne_nil hSeparator
              obtain ⟨rfl, rfl⟩ := List.cons.inj hAfter
              rw [join_cons (splitFrom_ne_nil _ _ _), ih]
              simp
          · rw [join_consHead c (splitFrom_ne_nil _ _ _), ih]
            rfl

/-- The pieces of a text put together are the text. -/
theorem join_split (hSeparator : separator ≠ []) (text : List Char) :
    join separator (split separator text) = text :=
  join_splitFrom hSeparator 0 text

/-- The pieces that cutting yields end at the first separator behind them, from any point on. -/
theorem pieces_splitFrom (hSeparator : separator ≠ []) (skip : Nat) (text : List Char) :
    Pieces separator (splitFrom separator skip text) := by
  induction text generalizing skip with
  | nil =>
      have hNone : ¬separator <:+: [] := fun h => hSeparator (List.infix_nil.mp h)
      cases skip <;> exact .last hNone
  | cons c rest ih =>
      cases skip with
      | succ skip => exact ih skip
      | zero =>
          have hRest := ih 0
          have hJoin : join separator (splitFrom separator 0 rest) = rest := join_split hSeparator rest
          rw [splitFrom]
          split
          · exact .cons (endsAtFirst_nil separator) (ih _)
          · next hPrefix =>
              have hStart : ¬separator <+: c :: rest := mt List.isPrefixOf_iff_prefix.mpr hPrefix
              revert hRest hJoin
              cases splitFrom separator 0 rest with
              | nil => exact nofun
              | cons piece pieces =>
                  intro hRest hJoin
                  cases hRest with
                  | last h =>
                      obtain rfl : piece = rest := hJoin
                      exact .last (by rw [List.infix_cons_iff, not_or]; exact ⟨hStart, h⟩)
                  | cons h hMore =>
                      refine .cons (endsAtFirst_cons (fun hEarlier => hStart ?_) h) hMore
                      have hSome : pieces ≠ [] := by cases hMore <;> exact List.cons_ne_nil _ _
                      rw [← hJoin, join_cons hSome]
                      exact hEarlier.trans ⟨join separator pieces, by simp⟩

/-- The pieces of a whole text end at the first separator behind them. -/
theorem pieces_split (hSeparator : separator ≠ []) (text : List Char) :
    Pieces separator (split separator text) :=
  pieces_splitFrom hSeparator 0 text

/-! ### Cutting what was put together -/

/-- The rest of a separator is passed over. -/
theorem splitFrom_append (separator before rest : List Char) :
    splitFrom separator before.length (before ++ rest) = split separator rest := by
  induction before with
  | nil => rfl
  | cons c before ih => exact ih

/-- A separator at the start of a text leaves an empty piece before it. -/
theorem split_separator (hSeparator : separator ≠ []) (rest : List Char) :
    split separator (separator ++ rest) = [] :: split separator rest := by
  obtain ⟨c, tail, rfl⟩ := List.exists_cons_of_ne_nil hSeparator
  have hPrefix : (c :: tail).isPrefixOf (c :: (tail ++ rest)) = true :=
    List.isPrefixOf_iff_prefix.mpr ⟨rest, rfl⟩
  rw [split, List.cons_append, splitFrom, if_pos hPrefix]
  exact congrArg _ (splitFrom_append (c :: tail) tail rest)

/-- Any other character belongs to the first piece. -/
theorem split_cons {c : Char} {rest : List Char} (h : ¬separator <+: c :: rest) :
    split separator (c :: rest) = consHead c (split separator rest) := by
  rw [split, splitFrom, if_neg (mt List.isPrefixOf_iff_prefix.mp h)]
  rfl

/-- A piece that ends at the first separator is cut off there. -/
theorem split_piece (hSeparator : separator ≠ []) {piece : List Char} (h : EndsAtFirst separator piece)
    (rest : List Char) : split separator (piece ++ separator ++ rest) = piece :: split separator rest := by
  induction piece with
  | nil => exact split_separator hSeparator rest
  | cons c piece ih =>
      have hLater := ih h.tail
      rw [List.append_assoc] at hLater
      simp only [List.cons_append, List.append_assoc]
      rw [split_cons (by simpa using h.not_prefix rest), hLater]
      rfl

theorem split_of_not_infix {piece : List Char} (h : ¬separator <:+: piece) :
    split separator piece = [piece] := by
  induction piece with
  | nil => rfl
  | cons c piece ih =>
      obtain ⟨hStart, hLater⟩ := not_or.mp (mt List.infix_cons_iff.mpr h)
      rw [split_cons hStart, ih hLater]
      rfl

theorem Pieces.ne_nil {pieces : List (List Char)} (h : Pieces separator pieces) : pieces ≠ [] := by
  cases h <;> exact List.cons_ne_nil _ _

/-- The pieces of a text are found again. -/
theorem split_join (hSeparator : separator ≠ []) {pieces : List (List Char)}
    (h : Pieces separator pieces) : split separator (join separator pieces) = pieces := by
  induction h with
  | last h => exact split_of_not_infix h
  | cons h rest ih => rw [join_cons rest.ne_nil, split_piece hSeparator h, ih]

/-- A text has one list of pieces. -/
theorem pieces_iff (hSeparator : separator ≠ []) {pieces : List (List Char)} {text : List Char} :
    Pieces separator pieces ∧ join separator pieces = text ↔ split separator text = pieces := by
  constructor
  · rintro ⟨h, rfl⟩
    exact split_join hSeparator h
  · rintro rfl
    exact ⟨pieces_split hSeparator text, join_split hSeparator text⟩

-- where separators overlap, the first one counts
example : split "::".toList "a:::b".toList = ["a".toList, ":b".toList] := by decide

/-! ### A separator of one character -/

section Character

variable {c : Char}

theorem singleton_prefix_cons_iff {d : Char} {rest : List Char} : [c] <+: d :: rest ↔ d = c := by
  rw [List.cons_prefix_cons, and_iff_left (List.nil_prefix), eq_comm]

theorem split_cons_self (rest : List Char) : split [c] (c :: rest) = [] :: split [c] rest :=
  split_separator (List.cons_ne_nil _ _) rest

theorem split_cons_of_ne {d : Char} (h : d ≠ c) (rest : List Char) :
    split [c] (d :: rest) = consHead d (split [c] rest) :=
  split_cons (mt singleton_prefix_cons_iff.mp h)

theorem consHead_append (d : Char) {pieces : List (List Char)} (h : pieces ≠ []) (more : List (List Char)) :
    consHead d (pieces ++ more) = consHead d pieces ++ more := by
  cases pieces with
  | nil => exact absurd rfl h
  | cons piece pieces => rfl

/-- Texts with the separator between them are cut apart, and each is cut by itself. -/
theorem split_append_cons (first second : List Char) :
    split [c] (first ++ c :: second) = split [c] first ++ split [c] second := by
  induction first with
  | nil => exact split_cons_self second
  | cons d first ih =>
      by_cases hd : d = c
      · rw [hd, List.cons_append, split_cons_self, split_cons_self, ih, List.cons_append]
      · rw [List.cons_append, split_cons_of_ne hd, split_cons_of_ne hd, ih,
          consHead_append d (split_ne_nil [c] first)]

/-- What is put in front of a text, and holds no separator, is in front of its first piece. -/
theorem exists_split_prepend {before : List Char} (h : c ∉ before) (text : List Char) :
    ∃ piece pieces, split [c] text = piece :: pieces ∧
      split [c] (before ++ text) = (before ++ piece) :: pieces := by
  induction before with
  | nil =>
      obtain ⟨piece, pieces, hText⟩ := List.exists_cons_of_ne_nil (split_ne_nil [c] text)
      exact ⟨piece, pieces, hText, hText⟩
  | cons d before ih =>
      obtain ⟨piece, pieces, hText, hBefore⟩ := ih (List.not_mem_of_not_mem_cons h)
      refine ⟨piece, pieces, hText, ?_⟩
      rw [List.cons_append, split_cons_of_ne (List.ne_of_not_mem_cons h).symm, hBefore]
      rfl

/-- What is put behind a text, and holds no separator, is behind its last piece. -/
theorem exists_split_append {after : List Char} (h : c ∉ after) (text : List Char) :
    ∃ pieces piece, split [c] text = pieces ++ [piece] ∧
      split [c] (text ++ after) = pieces ++ [piece ++ after] := by
  induction text with
  | nil =>
      refine ⟨[], [], rfl, split_of_not_infix fun hInfix => h ?_⟩
      exact hInfix.subset (List.mem_singleton_self c)
  | cons d text ih =>
      obtain ⟨pieces, piece, hText, hAfter⟩ := ih
      by_cases hd : d = c
      · refine ⟨[] :: pieces, piece, ?_, ?_⟩
        · rw [hd, split_cons_self, hText, List.cons_append]
        · rw [hd, List.cons_append, split_cons_self, hAfter, List.cons_append]
      · -- the last piece is the first one too, unless there are others before it
        cases pieces with
        | nil =>
            refine ⟨[], d :: piece, ?_, ?_⟩
            · rw [split_cons_of_ne hd, hText]
              rfl
            · rw [List.cons_append, split_cons_of_ne hd, hAfter]
              rfl
        | cons first pieces =>
            refine ⟨(d :: first) :: pieces, piece, ?_, ?_⟩
            · rw [split_cons_of_ne hd, hText]
              rfl
            · rw [List.cons_append, split_cons_of_ne hd, hAfter]
              rfl

end Character

/-! ### Replacing -/

/-- Nothing but a single empty piece, or none, makes an empty text. -/
theorem join_eq_nil_iff (hSeparator : separator ≠ []) {pieces : List (List Char)} :
    join separator pieces = [] ↔ pieces = [] ∨ pieces = [[]] := by
  cases pieces with
  | nil => simp [join]
  | cons piece pieces =>
      cases pieces with
      | nil => simp [join]
      | cons next pieces => simp [join, hSeparator]

/-- Nothing but the empty text becomes empty when something is put in place of something else. -/
theorem replace_eq_nil_iff {old new : List Char} (hOld : old ≠ []) (hNew : new ≠ []) {text : List Char} :
    replace old new text = [] ↔ text = [] := by
  have hText := join_split hOld text
  rw [replace, join_eq_nil_iff hNew, ← join_eq_nil_iff hOld, hText]

end LogIngest.Text
