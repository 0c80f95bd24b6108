import LogIngest.Proofs.Pattern.Closing

/-!
Classes of patterns with a closing behind them. Main statement: a class that is read of a pattern by itself
is read alike with the closing behind the pattern.
-/

namespace LogIngest.Pattern

variable {flags : Flags} {opening closedOpening : Span}
  {text rest closed closedRest start stop closedStart closedStop : List Char}

/-! ### Members -/

/-- A named class, given the text from its name on. -/
def namedFrom? (negated : Bool) (text : List Char) : Option (CharSet × Bool × List Char) :=
  match text.dropWhile (· != ':') with
  | ':' :: ']' :: after =>
    (namedClasses.lookup (String.ofList (text.takeWhile (· != ':')))).map (·, negated, after)
  | _ => none

/-- Named classes that are the same, with the same text behind them but for the closing. -/
def SameNamed (a b : CharSet × Bool × List Char) : Prop :=
  a.1 = b.1 ∧ SameStep a.2 b.2

/-- A class by name, such as one of letters, is found alike. -/
theorem namedFrom?_closed (negated : Bool) (h : Closed text closed) :
    Option.Rel SameNamed (namedFrom? negated text) (namedFrom? negated closed) := by
  have hDrop := h.dropWhile (p := (· != ':')) (fun _ => rfl)
  unfold namedFrom?
  cases hStop : text.dropWhile (· != ':') with
  | nil =>
      rcases (hStop ▸ hDrop).nil with hClosed | hClosed
      · rw [hClosed]
        exact .none
      · rw [hClosed]
        exact .none
  | cons c after =>
      obtain ⟨closedAfter, hClosed, hAfter⟩ := (hStop ▸ hDrop).cons
      rw [hClosed]
      by_cases hColon : c = ':'
      · subst hColon
        cases after with
        | nil =>
            rcases hAfter.nil with rfl | rfl
            · exact .none
            · exact .none
        | cons d last =>
            obtain ⟨closedLast, rfl, hLast⟩ := hAfter.cons
            by_cases hBracket : d = ']'
            · subst hBracket
              rw [h.takeWhile_eq (by simp [hStop])]
              cases namedClasses.lookup (String.ofList (text.takeWhile (· != ':'))) with
              | none => exact .none
              | some set => exact .some ⟨rfl, rfl, hLast⟩
            · simp only [List.cons.injEq, hBracket, false_and, and_false, imp_self, implies_true]
              exact .none
      · simp only [List.cons.injEq, hColon, false_and, imp_self, implies_true]
        exact .none

/-- The name begins behind a caret, if there is one. -/
theorem readNamed?_closed (h : Closed text closed) :
    Option.Rel SameNamed (readNamed? text) (readNamed? closed) := by
  cases text with
  | nil =>
      rcases h.nil with rfl | rfl
      · exact .none
      · exact .none
  | cons c rest =>
      obtain ⟨behind, rfl, hRest⟩ := h.cons
      by_cases hColon : c = ':'
      · subst hColon
        cases rest with
        | nil =>
            rcases hRest.nil with rfl | rfl
            · exact .none
            · exact .none
        | cons d last =>
            obtain ⟨closedLast, rfl, hLast⟩ := hRest.cons
            by_cases hCaret : d = '^'
            · subst hCaret
              exact namedFrom?_closed true hLast
            · simp only [readNamed?, List.cons.injEq, hCaret, false_and, imp_self, implies_true]
              exact namedFrom?_closed false hRest
      · simp only [readNamed?, List.cons.injEq, hColon, false_and, imp_self, implies_true]
        exact .none

/-- A member of a class is read alike. -/
theorem readMember_closed (h : Closed text closed) :
    Agree SameStep (readMember flags opening text) (readMember flags closedOpening closed) := by
  cases text with
  | nil => exact .error
  | cons c rest =>
      obtain ⟨behind, rfl, hRest⟩ := h.cons
      unfold readMember
      by_cases hEscape : c = '\\'
      · subst hEscape
        exact readEscape_closed hRest
      · simp only
        exact .ok ⟨rfl, hRest⟩

/-- An escape stands for the same character, or for none. -/
theorem Escape.char_closed (escape : Escape) :
    Agree Eq (escape.char start stop) (escape.char closedStart closedStop) := by
  cases escape with
  | literal c byte => exact .ok rfl
  | shorthand kind negated | property name negated | look look => exact .error

/-- A set may stand under the same flags. -/
theorem Flags.allow_closed (flags : Flags) (set : CharSet) :
    Agree Eq (flags.allow start stop set) (flags.allow closedStart closedStop set) := by
  unfold Flags.allow
  split
  · exact .error
  · split
    · exact .ok rfl
    · exact .ok rfl

/-- A property has the same set, or is unknown, wherever its name stands. -/
theorem Flags.named_closed (flags : Flags) (name : ClassName) (negated : Bool) :
    Agree Eq (flags.named start stop name negated) (flags.named closedStart closedStop name negated) := by
  unfold Flags.named
  split
  · exact .ok rfl
  · split
    · exact .error
    · split
      · exact .ok rfl
      · exact .error

/-- A character may stand under the same flags. -/
theorem Flags.allowChar_closed (flags : Flags) (c : Char) (byte : Bool) :
    Agree Eq (flags.allowChar start stop c byte) (flags.allowChar closedStart closedStop c byte) := by
  unfold Flags.allowChar
  split
  · exact .ok rfl
  · exact .error

/-- An escape in a class is the same member. -/
theorem Escape.member_closed (flags : Flags) (escape : Escape) :
    Agree Eq (escape.member flags start stop) (escape.member flags closedStart closedStop) := by
  cases escape with
  | literal c byte => exact (flags.allowChar_closed c byte).map (fun _ _ => congrArg CharSet.single)
  | shorthand kind negated => exact flags.allow_closed (kind.set flags negated)
  | property name negated => exact flags.named_closed name negated
  | look look => exact .error

/-- A range has the same ends, or none that fit. -/
theorem rangeOf_closed {afterFirst beforeLast closedAfterFirst closedBeforeLast : List Char}
    (first last : Escape) :
    Agree Eq (rangeOf flags start afterFirst beforeLast stop first last)
      (rangeOf flags closedStart closedAfterFirst closedBeforeLast closedStop first last) := by
  refine .bind (first.char_closed) ?_
  rintro low _ rfl
  refine .bind (last.char_closed) ?_
  rintro high _ rfl
  split
  · refine .bind (flags.allowChar_closed low first.isByte) ?_
    rintro low _ rfl
    refine .bind (flags.allowChar_closed high last.isByte) ?_
    rintro high _ rfl
    exact .ok rfl
  · exact .error

/-- A member and the range that it may start are read alike. -/
theorem readRange_closed (h : Closed text closed) :
    Agree SameStep (readRange flags opening text) (readRange flags closedOpening closed) := by
  refine .bind (readMember_closed h) ?_
  rintro ⟨first, rest⟩ ⟨_, closedRest⟩ ⟨rfl, hRest⟩
  have hSkip := hRest.skip flags
  simp only at hSkip ⊢
  cases hText : flags.skip rest with
  | nil => exact .error
  | cons c behind =>
      obtain ⟨closedBehind, hClosed, hBehind⟩ := (hText ▸ hSkip).cons
      rw [hText, hClosed] at hSkip
      rw [hClosed]
      simp only [hBehind.peek flags (show ']' ≠ ')' by decide),
        hBehind.peek flags (show '-' ≠ ')' by decide)]
      split
      · refine .bind (first.member_closed flags) ?_
        rintro set _ rfl
        exact .ok ⟨rfl, hSkip⟩
      · have hNext := hBehind.skip flags
        cases hLast : flags.skip behind with
        | nil => exact .error
        | cons d last =>
            rw [hLast] at hNext
            obtain ⟨closedLast, hClosedLast, -⟩ := hNext.cons
            rw [hClosedLast] at hNext ⊢
            refine .bind (readMember_closed hNext) ?_
            rintro ⟨last, stop⟩ ⟨_, closedStop⟩ ⟨rfl, hStop⟩
            refine .bind (rangeOf_closed first last) ?_
            rintro set _ rfl
            exact .ok ⟨rfl, hStop⟩

/-! ### Lists of members -/

/-- Readers of nested classes that read alike with the closing behind them. -/
def Alike (nested closedNested : List Char → Step Bracketed) : Prop :=
  ∀ text closed, Closed text closed → Agree SameStep (nested text) (closedNested closed)

/-- The members of a class are read alike if those of nested classes are, by induction on the bound. -/
theorem readMembers_closed {nested closedNested : List Char → Step Bracketed}
    (hNested : Alike nested closedNested) {bound larger : Nat} (hBound : bound ≤ larger)
    {waiting : Option Waiting} {members : Members} (h : Closed text closed) :
    Agree SameStep (readMembers flags opening nested bound waiting members text)
      (readMembers flags closedOpening closedNested larger waiting members closed) := by
  induction bound generalizing larger waiting members text closed with
  | zero => exact .error
  | succ bound ih =>
      cases larger with
      | zero => cases hBound
      | succ larger =>
          have hLarger := Nat.le_of_succ_le_succ hBound
          have hSkip := h.skip flags
          unfold readMembers
          cases hText : flags.skip text with
          | nil => exact .error
          | cons c rest =>
              rw [hText] at hSkip
              obtain ⟨behind, hClosed, hRest⟩ := hSkip.cons
              rw [hClosed] at hSkip ⊢
              split
              · next heq => cases heq
              · next heq =>
                  obtain ⟨rfl, rfl⟩ := List.cons.inj heq
                  exact .ok ⟨rfl, hRest⟩
              · next heq =>
                  obtain ⟨rfl, rfl⟩ := List.cons.inj heq
                  simp only
                  have hNamed := readNamed?_closed hRest
                  revert hNamed
                  generalize readNamed? rest = named
                  generalize readNamed? behind = closedNamed
                  intro hNamed
                  cases hNamed with
                  | none =>
                      refine .bind (hNested _ _ hSkip) ?_
                      rintro ⟨inner, rest⟩ ⟨_, closedRest⟩ ⟨rfl, hRest⟩
                      exact ih hLarger hRest
                  | @some named closedNamed hSame =>
                      obtain ⟨set, negated, after⟩ := named
                      obtain ⟨_, _, closedAfter⟩ := closedNamed
                      obtain ⟨rfl, rfl, hAfter⟩ := hSame
                      refine .bind (flags.allow_closed _) ?_
                      rintro named _ rfl
                      exact ih hLarger hAfter
              case h_4 heq | h_5 heq | h_6 heq =>
                obtain ⟨rfl, rfl⟩ := List.cons.inj heq
                obtain ⟨_, rfl, hLast⟩ := hRest.cons
                exact ih hLarger hLast
              · next hEnd hNested hInter hDiff hSymmDiff =>
                  -- The closing does not make up an operator with the last character.
                  have hEnd : ∀ last, c :: behind = ']' :: last → False :=
                    hSkip.ne_append [']'] (by simp) hEnd
                  have hNested : ∀ last, c :: behind = '[' :: last → False :=
                    hSkip.ne_append ['['] (by simp) hNested
                  have hInter : ∀ last, c :: behind = '&' :: '&' :: last → False :=
                    hSkip.ne_append ['&', '&'] (by simp) hInter
                  have hDiff : ∀ last, c :: behind = '-' :: '-' :: last → False :=
                    hSkip.ne_append ['-', '-'] (by simp) hDiff
                  have hSymmDiff : ∀ last, c :: behind = '~' :: '~' :: last → False :=
                    hSkip.ne_append ['~', '~'] (by simp) hSymmDiff
                  simp only
                  refine .bind (readRange_closed hSkip) ?_
                  rintro ⟨range, rest⟩ ⟨_, closedRest⟩ ⟨rfl, hRest⟩
                  exact ih hLarger hRest

/-! ### Classes -/

/-- Hyphens at the start of a class are counted alike. -/
theorem readHyphens_closed {bound larger found : Nat} (h : Closed text closed)
    (hText : text.length < bound) (hLarger : closed.length < larger) :
    SameStep (readHyphens flags bound found text) (readHyphens flags larger found closed) := by
  induction bound generalizing larger found text closed with
  | zero => cases hText
  | succ bound ih =>
      cases larger with
      | zero => cases hLarger
      | succ larger =>
          have hSkip := h.skip flags
          have hTextSkip := flags.length_skip_le text
          have hClosedSkip := flags.length_skip_le closed
          unfold readHyphens
          cases hRest : flags.skip text with
          | nil =>
              rcases (hRest ▸ hSkip).nil with hClosed | hClosed
              · rw [hClosed]
                exact ⟨rfl, .behind []⟩
              · rw [hClosed]
                exact ⟨rfl, .swallowed⟩
          | cons c rest =>
              rw [hRest] at hSkip hTextSkip
              obtain ⟨behind, hClosed, hBehind⟩ := hSkip.cons
              rw [hClosed] at hSkip hClosedSkip ⊢
              rw [List.length_cons] at hTextSkip hClosedSkip
              by_cases hHyphen : c = '-'
              · subst hHyphen
                exact ih hBehind (by omega) (by omega)
              · simp only [List.cons.injEq, hHyphen, false_and, imp_self, implies_true]
                exact ⟨rfl, hSkip⟩

/-- Reads the start of a class behind its caret. -/
def headerFrom (flags : Flags) (opening : List Char) (negated : Bool) (text : List Char) :
    Except Fault (Header × List Char) :=
  if text.isEmpty then fail .unclosedClass opening []
  else
    let (hyphens, rest) := readHyphens flags (text.length + 1) 0 text
    match rest with
    | [] => fail .unclosedClass opening opening
    | ']' :: behind =>
      if 0 < hyphens then .ok (⟨negated, .hyphens hyphens⟩, rest)
      else
        let behind := flags.skip behind
        if behind.isEmpty then fail .unclosedClass opening []
        else .ok (⟨negated, Members.add {} (.single ']') 0⟩, behind)
    | rest => .ok (⟨negated, .hyphens hyphens⟩, rest)

/-- The header of a class starts with the mark of negation, if there is one. -/
theorem readHeader_eq (flags : Flags) (opening text : List Char) :
    readHeader flags opening text =
      match flags.skip text with
      | '^' :: rest => headerFrom flags opening true (flags.skip rest)
      | rest => headerFrom flags opening false rest := by
  unfold readHeader
  cases flags.skip text with
  | nil => rfl
  | cons c rest =>
      by_cases hCaret : c = '^'
      · subst hCaret
        rfl
      · simp only [List.cons.injEq, hCaret, false_and, imp_self, implies_true]
        rfl

theorem headerFrom_closed {opening closedOpening : List Char} (negated : Bool) (h : Closed text closed) :
    Agree SameStep (headerFrom flags opening negated text)
      (headerFrom flags closedOpening negated closed) := by
  have hHyphens : SameStep (readHyphens flags (text.length + 1) 0 text)
      (readHyphens flags (closed.length + 1) 0 closed) :=
    readHyphens_closed h (Nat.lt_succ_self _) (Nat.lt_succ_self _)
  unfold headerFrom
  cases hText : text.isEmpty with
  | true => exact .error
  | false =>
      simp only [h.isEmpty_eq_false hText, Bool.false_eq_true, if_false]
      obtain ⟨hyphens, rest, closedRest, hAlone, hClosed, hRest⟩ := hHyphens.exists_eq
      rw [hAlone, hClosed]
      simp only
      cases rest with
      | nil => exact .error
      | cons c rest =>
          obtain ⟨behind, rfl, hBehind⟩ := hRest.cons
          by_cases hEnd : c = ']'
          · subst hEnd
            simp only
            split
            · exact .ok ⟨rfl, hRest⟩
            · have hSkip := hBehind.skip flags
              cases hMore : (flags.skip rest).isEmpty with
              | true => exact .error
              | false =>
                  simp only [hSkip.isEmpty_eq_false hMore, Bool.false_eq_true, if_false]
                  exact .ok ⟨rfl, hSkip⟩
          · simp only [List.cons.injEq, hEnd, false_and, imp_self, implies_true]
            exact .ok ⟨rfl, hRest⟩

/-- The header of a class is read alike. -/
theorem readHeader_closed {opening closedOpening : List Char} (h : Closed text closed) :
    Agree SameStep (readHeader flags opening text) (readHeader flags closedOpening closed) := by
  have hSkip := h.skip flags
  rw [readHeader_eq, readHeader_eq]
  cases hText : flags.skip text with
  | nil => exact .error
  | cons c rest =>
      rw [hText] at hSkip
      obtain ⟨behind, hClosed, hRest⟩ := hSkip.cons
      rw [hClosed] at hSkip ⊢
      by_cases hCaret : c = '^'
      · subst hCaret
        exact headerFrom_closed true (hRest.skip flags)
      · simp only [List.cons.injEq, hCaret, false_and, imp_self, implies_true]
        exact headerFrom_closed false hSkip

/-- A class is read alike if nested ones are. -/
theorem readClassWith_closed {nested closedNested : List Char → Step Bracketed}
    (hNested : Alike nested closedNested) :
    Alike (readClassWith flags nested) (readClassWith flags closedNested) := by
  intro text closed h
  have hHeader : Agree SameStep (readHeader flags text text.tail) (readHeader flags closed closed.tail) := by
    cases text with
    | nil =>
        rw [List.tail_nil, readHeader_eq, Closed.swallowed.skip_of_nil]
        exact .error
    | cons c rest => exact readHeader_closed (h.tail (List.cons_ne_nil c rest))
  refine .bind hHeader ?_
  rintro ⟨header, rest⟩ ⟨_, closedRest⟩ ⟨rfl, hRest⟩
  refine .bind (readMembers_closed hNested (Nat.succ_le_succ hRest.length_le) hRest) ?_
  rintro ⟨inner, rest⟩ ⟨_, closedRest⟩ ⟨rfl, hRest⟩
  refine .bind (flags.allow_closed _) ?_
  rintro set _ rfl
  exact .ok ⟨rfl, hRest⟩

/-- The induction is on the levels of nesting, of which there are more with the closing. -/
theorem readClass_closed {levels larger : Nat} (hLevels : levels ≤ larger) :
    Alike (readClass flags levels) (readClass flags larger) := by
  induction levels generalizing larger with
  | zero => exact fun _ _ _ => .error
  | succ levels ih =>
      cases larger with
      | zero => cases hLevels
      | succ larger => exact readClassWith_closed (ih (Nat.le_of_succ_le_succ hLevels))

end LogIngest.Pattern
