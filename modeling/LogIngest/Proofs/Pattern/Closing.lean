import LogIngest.Pattern.Bracket
import LogIngest.Proofs.Fallible

/-!
Patterns with the end of a group and the end of the text behind them. Main statement: what is read of an
escape or of a class is not changed by what is put behind the pattern.
-/

namespace LogIngest.Pattern

/-- What is put behind a pattern: the end of the group around it, and the condition that the text ends. -/
def closing : List Char := [')', '$']

/-- A text, and the text with the closing behind it. A comment that goes on to the end of the text runs over
the closing. -/
inductive Closed : (text closed : List Char) → Prop where
  | behind (text : List Char) : Closed text (text ++ closing)
  | swallowed : Closed [] []

namespace Closed

variable {c : Char} {text rest closed : List Char}

/-- A text that starts with a character goes on with the same one when it is closed. -/
theorem cons (h : Closed (c :: rest) closed) : ∃ behind, closed = c :: behind ∧ Closed rest behind := by
  cases h with
  | behind => exact ⟨rest ++ closing, rfl, .behind rest⟩

/-- Behind the text stands only what closes it, or nothing at all. -/
theorem nil (h : Closed [] closed) : closed = closing ∨ closed = [] := by
  cases h with
  | behind => exact .inl rfl
  | swallowed => exact .inr rfl

/-- A text only becomes longer when it is closed, so that bounds on it suffice. -/
theorem length_le (h : Closed text closed) : text.length ≤ closed.length := by
  cases h with
  | behind => simp
  | swallowed => exact Nat.le_refl 0

/-- The first character can be dropped from both texts. -/
theorem tail (h : Closed text closed) (hText : text ≠ []) : Closed text.tail closed.tail := by
  obtain ⟨c, rest, rfl⟩ := List.exists_cons_of_ne_nil hText
  obtain ⟨behind, rfl, hRest⟩ := h.cons
  exact hRest

theorem isEmpty_eq_false (h : Closed text closed) (hText : text.isEmpty = false) :
    closed.isEmpty = false := by
  cases h with
  | behind => simp [closing]
  | swallowed => exact hText

/-- What goes on to the end of a text goes on to the end of the closing, or stops right before it. -/
theorem dropWhile (h : Closed text closed) {p : Char → Bool} (hClosing : p ')' = true → p '$' = true) :
    Closed (text.dropWhile p) (closed.dropWhile p) := by
  induction text generalizing closed with
  | nil =>
      rcases h.nil with rfl | rfl
      · cases hParen : p ')' with
        | true =>
            simp only [closing, List.dropWhile_cons, hParen, hClosing hParen, if_true]
            exact .swallowed
        | false =>
            simp only [closing, List.dropWhile_cons, hParen, Bool.false_eq_true, if_false]
            exact .behind []
      · exact .swallowed
  | cons c rest ih =>
      obtain ⟨behind, rfl, hRest⟩ := h.cons
      cases hHead : p c with
      | true => simpa [hHead] using ih hRest
      | false => simpa [hHead] using h

/-- White space is dropped alike, for what closes a text starts with none. -/
theorem dropBlanks (h : Closed text closed) :
    Closed (text.dropWhile Text.isBlankChar) (closed.dropWhile Text.isBlankChar) :=
  h.dropWhile nofun

/-- Comments and white space are skipped alike. -/
theorem skipFrom (h : Closed text closed) (comment : Bool) :
    Closed (Pattern.skipFrom comment text) (Pattern.skipFrom comment closed) := by
  induction text generalizing closed comment with
  | nil =>
      rcases h.nil with rfl | rfl
      · cases comment with
        | true => exact .swallowed
        | false => exact .behind []
      · exact .swallowed
  | cons c rest ih =>
      obtain ⟨behind, rfl, hRest⟩ := h.cons
      unfold Pattern.skipFrom
      split
      · exact ih hRest _
      · split
        · exact ih hRest _
        · split
          · exact ih hRest _
          · exact h

/-- What counts for nothing under some flags is skipped alike. -/
theorem skip (h : Closed text closed) (flags : Flags) : Closed (flags.skip text) (flags.skip closed) := by
  unfold Flags.skip
  split
  · exact h.skipFrom false
  · exact h

/-- At the end of a text there is nothing to skip in what closes it. -/
theorem skip_of_nil (h : Closed [] closed) (flags : Flags) : flags.skip closed = closed := by
  unfold Flags.skip
  rcases h.nil with rfl | rfl
  · split <;> rfl
  · split <;> rfl

/-- A character of the closed text other than a closing parenthesis is one of the text. -/
theorem uncons (h : Closed text (c :: rest)) (hc : c ≠ ')') :
    ∃ before, text = c :: before ∧ Closed before rest := by
  cases text with
  | nil =>
      rcases h.nil with hClosing | hNone
      · exact absurd (List.cons.inj hClosing).1 hc
      · cases hNone
  | cons d before =>
      obtain ⟨behind, hSame, hRest⟩ := h.cons
      obtain ⟨rfl, rfl⟩ := List.cons.inj hSame
      exact ⟨before, rfl, hRest⟩

/-- The closing does not complete a beginning with characters other than its own. -/
theorem ne_append (h : Closed text closed) (start : List Char) (hStart : ∀ c ∈ start, c ≠ ')')
    (hText : ∀ rest, text = start ++ rest → False) (rest : List Char) :
    closed = start ++ rest → False := by
  induction start generalizing text closed with
  | nil => exact (hText text rfl).elim
  | cons c start ih =>
      rintro rfl
      obtain ⟨hFirst, hStart⟩ := List.forall_mem_cons.mp hStart
      obtain ⟨before, rfl, hBefore⟩ := h.uncons hFirst
      exact ih hBefore hStart (fun rest hRest => hText rest (congrArg (c :: ·) hRest)) rfl

/-- What stops within a text stops there with the closing behind it too. -/
theorem takeWhile_eq (h : Closed text closed) {p : Char → Bool} (hStop : text.dropWhile p ≠ []) :
    closed.takeWhile p = text.takeWhile p := by
  induction text generalizing closed with
  | nil => exact absurd rfl hStop
  | cons c rest ih =>
      obtain ⟨behind, rfl, hRest⟩ := h.cons
      cases hHead : p c with
      | true =>
          rw [List.dropWhile_cons, if_pos hHead] at hStop
          rw [List.takeWhile_cons, List.takeWhile_cons, ih hRest hStop]
      | false => simp [hHead]

/-- Whether some character comes first is the same in both texts, but for a closing parenthesis. -/
theorem head? (h : Closed text closed) (hc : c ≠ ')') :
    (closed.head? == some c) = (text.head? == some c) := by
  cases text with
  | nil =>
      rcases h.nil with rfl | rfl
      · simp [closing, hc.symm]
      · rfl
  | cons d rest =>
      obtain ⟨behind, rfl, -⟩ := h.cons
      rfl

/-- Looking ahead for a character is not disturbed by a closing that begins with another one. -/
theorem peek (h : Closed text closed) (flags : Flags) (hc : c ≠ ')') :
    (flags.peek closed == some c) = (flags.peek text == some c) := by
  unfold Flags.peek
  split
  · cases hText : text.dropWhile Text.isBlankChar with
    | nil =>
        rcases (hText ▸ h.dropBlanks).nil with hClosed | hClosed
        · simp [hClosed, closing, hc.symm]
        · simp [hClosed]
    | cons d rest =>
        obtain ⟨behind, hClosed, hRest⟩ := (hText ▸ h.dropBlanks).cons
        rw [hClosed]
        by_cases hMark : d = '#'
        · subst hMark
          exact hRest.dropBlanks.head? hc
        · simp [hMark]
  · exact h.head? hc

end Closed

/-- Results with the same value and the same text behind it, but for the closing. -/
def SameStep {α : Type} (a b : α × List Char) : Prop :=
  a.1 = b.1 ∧ Closed a.2 b.2

/-- Steps that are the same have read one value. -/
theorem SameStep.exists_eq {α : Type} {a b : α × List Char} (h : SameStep a b) :
    ∃ value rest closedRest, a = (value, rest) ∧ b = (value, closedRest) ∧ Closed rest closedRest := by
  obtain ⟨value, rest⟩ := a
  obtain ⟨_, closedRest⟩ := b
  obtain ⟨rfl, hRest⟩ := h
  exact ⟨value, rest, closedRest, rfl, rfl, hRest⟩

/-- Results of the same kind, where the text behind the value is not empty. -/
def SameStop {α : Type} (a b : α × List Char) : Prop :=
  SameStep a b ∧ a.2 ≠ []

variable {flags : Flags} {text closed start stop closedStart closedStop : List Char}

/-! ### Escapes -/

/-- A code of so many digits is read alike. -/
theorem readCode_closed {count value : Nat} (h : Closed text closed) :
    Agree SameStep (readCode flags count value text) (readCode flags count value closed) := by
  induction count generalizing value text closed with
  | zero => exact .ok ⟨rfl, h.skip flags⟩
  | succ count ih =>
      have hSkip := h.skip flags
      unfold readCode
      cases hText : flags.skip text with
      | nil => exact .error
      | cons c rest =>
          obtain ⟨behind, hClosed, hRest⟩ := (hText ▸ hSkip).cons
          rw [hClosed]
          simp only
          cases hexValue? c with
          | none => exact .error
          | some digit => exact ih hRest

/-- A code in braces is read alike, by induction on the bound. -/
theorem readBracedCode_closed {bound larger : Nat} {value : Option Nat} (h : Closed text closed)
    (hBound : bound ≤ larger) :
    Agree SameStop (readBracedCode flags start bound value text)
      (readBracedCode flags closedStart larger value closed) := by
  induction bound generalizing larger value text closed with
  | zero => exact .error
  | succ bound ih =>
      obtain ⟨larger, rfl⟩ := Nat.exists_eq_add_of_lt hBound
      have hSkip := h.skip flags
      unfold readBracedCode
      cases hText : flags.skip text with
      | nil => exact .error
      | cons c rest =>
          rw [hText] at hSkip
          obtain ⟨behind, hClosed, hRest⟩ := hSkip.cons
          rw [hClosed] at hSkip ⊢
          by_cases hEnd : c = '}'
          · subst hEnd
            exact .ok ⟨⟨rfl, hSkip⟩, List.cons_ne_nil _ _⟩
          · simp only
            cases hexValue? c with
            | none => exact .error
            | some digit => exact ih hRest (by omega)

/-- The fault of a code depends on where it stands; its character does not. -/
theorem charOfCode_closed (byte : Bool) (code : Nat) :
    Agree Eq (charOfCode byte code start stop) (charOfCode byte code closedStart closedStop) := by
  unfold charOfCode
  split
  · exact .ok rfl
  · exact .error

/-- A character by its code is read alike. -/
theorem readChar_closed {digits : Nat} (h : Closed text closed) :
    Agree SameStep (readChar flags digits text) (readChar flags digits closed) := by
  have hSkip := h.skip flags
  unfold readChar
  cases hText : flags.skip text with
  | nil => exact .error
  | cons c rest =>
      rw [hText] at hSkip
      obtain ⟨behind, hClosed, hRest⟩ := hSkip.cons
      rw [hClosed] at hSkip ⊢
      by_cases hBrace : c = '{'
      · subst hBrace
        refine .bind (readBracedCode_closed hRest (Nat.succ_le_succ hRest.length_le)) ?_
        rintro ⟨code, stop⟩ ⟨_, closedStop⟩ ⟨⟨rfl, hStop⟩, hSome⟩
        cases code with
        | none => exact .error
        | some code =>
            refine .bind (charOfCode_closed false code) ?_
            rintro escape _ rfl
            exact .ok ⟨rfl, (hStop.tail hSome).skip flags⟩
      · simp only [List.cons.injEq, hBrace, false_and, imp_self, implies_true]
        refine .bind (readCode_closed hSkip) ?_
        rintro ⟨code, rest⟩ ⟨_, closedRest⟩ ⟨rfl, hRest⟩
        refine .bind (charOfCode_closed _ code) ?_
        rintro escape _ rfl
        exact .ok ⟨rfl, hRest⟩

/-- The name of a property is read alike, by induction on the bound. -/
theorem readPropertyName_closed {bound larger : Nat} (h : Closed text closed) (hBound : bound ≤ larger) :
    Agree SameStep (readPropertyName flags bound text) (readPropertyName flags larger closed) := by
  induction bound generalizing larger text closed with
  | zero => exact .error
  | succ bound ih =>
      obtain ⟨larger, rfl⟩ := Nat.exists_eq_add_of_lt hBound
      have hSkip := h.skip flags
      unfold readPropertyName
      cases hText : flags.skip text with
      | nil => exact .error
      | cons c rest =>
          obtain ⟨behind, hClosed, hRest⟩ := (hText ▸ hSkip).cons
          rw [hClosed]
          by_cases hEnd : c = '}'
          · subst hEnd
            exact .ok ⟨rfl, hRest⟩
          · simp only
            refine (ih hRest (by omega)).map ?_
            rintro ⟨name, after⟩ ⟨_, closedAfter⟩ ⟨rfl, hAfter⟩
            exact ⟨rfl, hAfter⟩

/-- The name of a property is the same with the closing behind the pattern, whatever set it stands for. -/
theorem readProperty_closed (negated : Bool) (h : Closed text closed) :
    Agree SameStep (readProperty flags negated text) (readProperty flags negated closed) := by
  have hSkip := h.skip flags
  unfold readProperty
  cases hText : flags.skip text with
  | nil => exact .error
  | cons c rest =>
      obtain ⟨behind, hClosed, hRest⟩ := (hText ▸ hSkip).cons
      rw [hClosed]
      by_cases hBrace : c = '{'
      · subst hBrace
        refine (readPropertyName_closed hRest (Nat.succ_le_succ hRest.length_le)).map ?_
        rintro ⟨name, after⟩ ⟨_, closedAfter⟩ ⟨rfl, hAfter⟩
        exact ⟨rfl, hAfter⟩
      · by_cases hEscape : c = '\\'
        · subst hEscape
          exact .error
        · simp only
          exact .ok ⟨rfl, hRest.skip flags⟩

/-- Skipping makes no text longer. -/
theorem length_skipFrom_le (comment : Bool) (text : List Char) :
    (skipFrom comment text).length ≤ text.length := by
  induction text generalizing comment with
  | nil => exact Nat.le_refl 0
  | cons c rest ih =>
      have hFalse := ih false
      have hTrue := ih true
      have hMark := ih (c != '\n')
      unfold skipFrom
      simp only [List.length_cons]
      split
      · omega
      · split
        · omega
        · split
          · omega
          · exact Nat.le_refl _

theorem Flags.length_skip_le (flags : Flags) (text : List Char) :
    (flags.skip text).length ≤ text.length := by
  unfold skip
  split
  · exact length_skipFrom_le false text
  · exact Nat.le_refl _

/-- What closes a text is no name of a word edge. -/
theorem readEdgeName_of_nil (h : Closed [] closed) (bound : Nat) :
    readEdgeName flags bound closed = ([], closed) := by
  cases bound with
  | zero => rfl
  | succ bound =>
      rw [readEdgeName, h.skip_of_nil]
      rcases h.nil with rfl | rfl
      · rfl
      · rfl

/-- Bounds that are large enough do not cut names short. -/
theorem readEdgeName_closed {bound larger : Nat} (h : Closed text closed) (hText : text.length ≤ bound)
    (hLarger : closed.length ≤ larger) :
    SameStep (readEdgeName flags bound text) (readEdgeName flags larger closed) := by
  induction bound generalizing text closed larger with
  | zero =>
      obtain rfl := List.eq_nil_of_length_eq_zero (Nat.le_zero.mp hText)
      rw [readEdgeName_of_nil h]
      exact ⟨rfl, h⟩
  | succ bound ih =>
      cases larger with
      | zero =>
          have hLength := h.length_le
          obtain rfl := List.eq_nil_of_length_eq_zero (Nat.le_zero.mp hLarger)
          obtain rfl := List.eq_nil_of_length_eq_zero (Nat.le_zero.mp hLength)
          rw [readEdgeName_of_nil .swallowed]
          exact ⟨rfl, .swallowed⟩
      | succ larger =>
          have hSkip := h.skip flags
          have hTextSkip := flags.length_skip_le text
          have hClosedSkip := flags.length_skip_le closed
          unfold readEdgeName
          cases hRest : flags.skip text with
          | nil =>
              rcases (hRest ▸ hSkip).nil with hClosed | hClosed
              · rw [hClosed]
                exact ⟨rfl, .behind []⟩
              · rw [hClosed]
                exact ⟨rfl, .swallowed⟩
          | cons c rest =>
              rw [hRest] at hSkip hTextSkip
              obtain ⟨behind, hClosed, hBehind⟩ := hSkip.cons
              rw [hClosed] at hSkip hClosedSkip ⊢
              rw [List.length_cons] at hTextSkip hClosedSkip
              simp only
              split
              · have hLater : SameStep (readEdgeName flags bound rest)
                    (readEdgeName flags larger behind) := ih hBehind (by omega) (by omega)
                obtain ⟨hName, hAfter⟩ := hLater
                exact ⟨congrArg (c :: ·) hName, hAfter⟩
              · exact ⟨rfl, hSkip⟩

/-- A word edge is read alike. -/
theorem readEdge_closed (h : Closed text closed) :
    Agree SameStep (readEdge flags start text) (readEdge flags closedStart closed) := by
  unfold readEdge
  cases text with
  | nil =>
      rcases h.nil with rfl | rfl
      · exact .ok ⟨rfl, h⟩
      · exact .ok ⟨rfl, h⟩
  | cons c rest =>
      obtain ⟨behind, rfl, hRest⟩ := h.cons
      by_cases hBrace : c = '{'
      · subst hBrace
        have hSkip := hRest.skip flags
        simp only
        cases hText : flags.skip rest with
        | nil => exact .error
        | cons c others =>
            obtain ⟨closedOthers, hClosed, -⟩ := (hText ▸ hSkip).cons
            rw [hClosed]
            simp only
            split
            · have hRead : SameStep (readEdgeName flags rest.length rest)
                  (readEdgeName flags behind.length behind) :=
                readEdgeName_closed hRest (Nat.le_refl _) (Nat.le_refl _)
              obtain ⟨name, after, closedAfter, hName, hClosedName, hAfter⟩ := hRead.exists_eq
              rw [hName, hClosedName]
              simp only
              cases after with
              | nil => exact .error
              | cons d after =>
                  obtain ⟨closedLater, rfl, hLater⟩ := hAfter.cons
                  by_cases hEnd : d = '}'
                  · subst hEnd
                    simp only
                    split
                    · exact .ok ⟨rfl, hLater⟩
                    · exact .ok ⟨rfl, hLater⟩
                    · exact .ok ⟨rfl, hLater⟩
                    · exact .ok ⟨rfl, hLater⟩
                    · exact .error
                  · simp only [List.cons.injEq, hEnd, false_and, imp_self, implies_true]
                    exact .error
            · exact .ok ⟨rfl, h⟩
      · simp only [List.cons.injEq, hBrace, false_and, imp_self, implies_true]
        exact .ok ⟨rfl, h⟩

/-- Every escape is read alike, by cases of the letter behind the backslash. -/
theorem readEscape_closed (h : Closed text closed) :
    Agree SameStep (readEscape flags start text) (readEscape flags closedStart closed) := by
  cases text with
  | nil => exact .error
  | cons c rest =>
      obtain ⟨behind, rfl, hRest⟩ := h.cons
      unfold readEscape
      simp only
      split
      · exact readChar_closed hRest
      · exact readChar_closed hRest
      · exact readChar_closed hRest
      case h_10 => exact readProperty_closed false hRest
      case h_11 => exact readProperty_closed true hRest
      case h_20 =>
        refine (readEdge_closed hRest).map ?_
        rintro ⟨edge, rest⟩ ⟨_, behind⟩ ⟨rfl, hBehind⟩
        exact ⟨rfl, hBehind⟩
      case h_24 =>
        split
        · exact .ok ⟨rfl, hRest⟩
        · split
          · exact .error
          · exact .error
      all_goals exact .ok ⟨rfl, hRest⟩

end LogIngest.Pattern
