import LogIngest.Pattern.Token
import LogIngest.Proofs.Pattern.Classes

/-!
The tokens of a pattern within a group. Main statement: a pattern that can be read by itself has the same
tokens between the start and the end of a text.
-/

namespace LogIngest.Pattern

/-- What has been seen of a pattern within a group that was opened under some flags, beside what has been
seen of the pattern by itself. -/
structure Within (outside : Flags) (alone within : Progress) : Prop where
  flags : within.flags = alone.flags
  outer : within.outer.map OpenGroup.flags = alone.outer.map OpenGroup.flags ++ [outside]
  captures : within.captures = alone.captures
  names : within.names.map GroupName.name = alone.names.map GroupName.name
  repeatable : within.repeatable = alone.repeatable

/-- Steps to the same token, which does not open a group under the number of the whole match. -/
structure SameToken (outside : Flags) (a b : Token × Progress × List Char) : Prop where
  token : a.1 = b.1
  numbered : a.1 ≠ .opening (some 0)
  progress : Within outside a.2.1 b.2.1
  rest : Closed a.2.2 b.2.2

variable {outside flags : Flags} {alone within : Progress} {opening closedOpening : Span}
  {text rest closed closedRest start closedStart : List Char}

namespace Within

/-- A token that is no group by itself is the same in both patterns. -/
theorem atom (h : Within outside alone within) {token : Token} (hToken : token ≠ .opening (some 0))
    (hRest : Closed rest closedRest) :
    Agree (SameToken outside) (alone.atom token rest) (within.atom token closedRest) :=
  .ok ⟨rfl, hToken, { h with repeatable := rfl }, hRest⟩

/-- A group can be entered in both patterns at once. -/
theorem enter (h : Within outside alone within) (opening closedOpening : Span) {flags closedFlags : Flags}
    (hFlags : closedFlags = flags) :
    Within outside (alone.enter opening flags) (within.enter closedOpening closedFlags) where
  flags := hFlags
  outer := by simp [Progress.enter, h.outer, h.flags]
  captures := h.captures
  names := h.names
  repeatable := rfl

/-- A group that captures has the same number in both patterns. -/
theorem capture (h : Within outside alone within) (hRest : Closed rest closedRest) :
    Agree (SameToken outside) (alone.capture opening rest) (within.capture closedOpening closedRest) := by
  have hNext : Within outside { alone with captures := alone.captures + 1 }
      { within with captures := within.captures + 1 } :=
    { h with captures := by rw [h.captures] }
  refine .ok ⟨?_, nofun, hNext.enter opening closedOpening h.flags, hRest⟩
  rw [h.captures]

/-- Nothing but a group of the pattern by itself is left. -/
theorem leave (h : Within outside alone within) {c : Char} (hRest : Closed rest closedRest) :
    Agree (SameToken outside) (alone.leave (c :: rest)) (within.leave (c :: closedRest)) := by
  have hOuter := h.outer
  unfold Progress.leave
  cases hAlone : alone.outer with
  | nil => exact .error
  | cons group outer =>
      rw [hAlone, List.map_cons, List.cons_append] at hOuter
      obtain ⟨enclosed, others, hWithin, hFlags, hOthers⟩ := List.map_eq_cons_iff.mp hOuter
      rw [hWithin]
      exact .ok ⟨rfl, nofun, ⟨hFlags, hOthers, h.captures, h.names, rfl⟩, hRest⟩

end Within

/-! ### Groups -/

/-- A name of a group is read alike. -/
theorem readName_closed {first : Bool} (h : Closed text closed) :
    Agree SameStop (readName first text) (readName first closed) := by
  induction text generalizing first closed with
  | nil => exact .error
  | cons c rest ih =>
      obtain ⟨behind, rfl, hRest⟩ := h.cons
      unfold readName
      split
      · exact .ok ⟨⟨rfl, h⟩, List.cons_ne_nil c rest⟩
      · cases if first then startsName c else continuesName c with
        | true =>
            refine (ih hRest).map ?_
            rintro ⟨name, stop⟩ ⟨_, closedStop⟩ ⟨⟨rfl, hStop⟩, hSome⟩
            exact ⟨⟨rfl, hStop⟩, hSome⟩
        | false => exact .error

/-- A group with a name is opened alike. -/
theorem readNamedOpening_closed (h : Within outside alone within) (hText : Closed text closed) :
    Agree (SameToken outside) (readNamedOpening alone opening text)
      (readNamedOpening within closedOpening closed) := by
  refine .bind (readName_closed hText) ?_
  rintro ⟨name, stop⟩ ⟨_, closedStop⟩ ⟨⟨rfl, hStop⟩, hSome⟩
  simp only
  split
  · exact .error
  · cases hFind : alone.names.find? (·.name == String.ofList name) with
    | some other => exact .error
    | none =>
        have hNone : within.names.find? (·.name == String.ofList name) = none := by
          rw [List.find?_eq_none] at hFind ⊢
          simp only [← List.forall_mem_map (f := GroupName.name)
            (P := fun other => ¬ (other == String.ofList name) = true)] at hFind ⊢
          rwa [h.names]
        rw [hNone]
        refine Within.capture ?_ (hStop.tail hSome)
        exact { h with names := by simp [h.names] }

/-- A flag that has not been seen has been seen in neither pattern. -/
theorem lookup_eq_none_of_forall₂ {seen closedSeen : List (Char × Span)} {letter : Char}
    (hSeen : List.Forall₂ (fun a b => a.1 = b.1) seen closedSeen) (h : seen.lookup letter = none) :
    closedSeen.lookup letter = none := by
  induction hSeen with
  | nil => rfl
  | @cons a b seen closedSeen hSame _ ih =>
      rw [List.lookup_cons] at h ⊢
      rw [← hSame]
      split at h
      · cases h
      · exact ih h

/-- Flags that are read end before a colon or a parenthesis. -/
theorem read_closed {seen closedSeen : List (Char × Span)}
    (hSeen : List.Forall₂ (fun a b => a.1 = b.1) seen closedSeen) {off : Bool} (h : Closed text closed) :
    Agree (fun a b => a.1 = b.1 ∧ SameStop a.2 b.2) (flags.read seen off text)
      (flags.read closedSeen off closed) := by
  induction text generalizing flags seen closedSeen off closed with
  | nil => exact .error
  | cons c rest ih =>
      obtain ⟨behind, rfl, hRest⟩ := h.cons
      unfold Flags.read
      simp only
      split
      · cases hSeen with
        | nil => exact .ok ⟨rfl, ⟨rfl, h⟩, List.cons_ne_nil c rest⟩
        | @cons a b _ _ hSame _ =>
            obtain ⟨letter, span⟩ := a
            obtain ⟨_, closedSpan⟩ := b
            obtain rfl := hSame
            by_cases hHyphen : letter = '-'
            · subst hHyphen
              exact .error
            · simp only [Prod.mk.injEq, List.cons.injEq, hHyphen, false_and, imp_self, implies_true]
              exact .ok ⟨rfl, ⟨rfl, h⟩, List.cons_ne_nil c rest⟩
      · cases hLookup : seen.lookup c with
        | some span => exact .error
        | none =>
            have hMore : List.Forall₂ (fun a b => a.1 = b.1) ((c, Span.first (c :: rest)) :: seen)
                ((c, Span.first (c :: behind)) :: closedSeen) := .cons rfl hSeen
            rw [lookup_eq_none_of_forall₂ hSeen hLookup]
            cases hSet : flags.set? c (!off) with
            | some next => exact ih hMore hRest
            | none =>
                simp only
                split
                · exact ih hMore hRest
                · exact .error

/-- Reads the flags of a group, or those up to the end of the group around them. -/
def flagsFrom (progress : Progress) (opening : Span) (mark text : List Char) : Advance := do
  match ← progress.flags.read [] false text with
  | (flags, _, ':' :: rest) => return (.opening none, progress.enter opening flags, rest)
  | (flags, true, _ :: rest) =>
    return (.flags, { progress with flags := flags, repeatable := false }, rest)
  | _ => failAt .nothingToRepeat mark

/-- Flags are read alike, and with them the group that they open, if any. -/
theorem flagsFrom_closed (h : Within outside alone within) (hText : Closed text closed)
    {mark closedMark : List Char} :
    Agree (SameToken outside) (flagsFrom alone opening mark text)
      (flagsFrom within closedOpening closedMark closed) := by
  unfold flagsFrom
  rw [h.flags]
  refine .bind (read_closed .nil hText) ?_
  rintro ⟨flags, any, stop⟩ ⟨_, _, closedStop⟩ ⟨rfl, ⟨rfl, hStop⟩, hSome⟩
  obtain ⟨c, rest, rfl⟩ := List.exists_cons_of_ne_nil hSome
  obtain ⟨behind, rfl, hRest⟩ := hStop.cons
  by_cases hColon : c = ':'
  · subst hColon
    exact .ok ⟨rfl, nofun, h.enter opening closedOpening rfl, hRest⟩
  · split
    · next heq =>
        cases heq
        exact absurd rfl hColon
    · next heq =>
        cases heq
        simp only
        exact .ok ⟨rfl, nofun, { h with flags := rfl, repeatable := rfl }, hRest⟩
    · exact .error

/-- Whatever kind of group a parenthesis opens, it is opened alike. -/
theorem readOpening_closed (h : Within outside alone within) (hText : Closed text closed) :
    Agree (SameToken outside) (readOpening alone start text) (readOpening within closedStart closed) := by
  have hSkip := hText.skip alone.flags
  have hFlags : within.flags.skip closed = alone.flags.skip closed := by rw [h.flags]
  unfold readOpening
  rw [hFlags]
  split
  · exact .error
  · exact .error
  · exact .error
  · exact .error
  · next rest hAlone =>
      obtain ⟨_, hClosed, hLetter⟩ := (hAlone ▸ hSkip).cons
      obtain ⟨_, rfl, hBracket⟩ := hLetter.cons
      obtain ⟨behind, rfl, hRest⟩ := hBracket.cons
      rw [hClosed]
      exact readNamedOpening_closed h hRest
  · next rest hAhead hNotAhead hAlone =>
      obtain ⟨_, hClosed, hBracket⟩ := (hAlone ▸ hSkip).cons
      obtain ⟨behind, rfl, hRest⟩ := hBracket.cons
      have hBehind : ∀ rest, behind = '=' :: rest → False := hRest.ne_append ['='] (by simp) hAhead
      have hNotBehind : ∀ rest, behind = '!' :: rest → False :=
        hRest.ne_append ['!'] (by simp) hNotAhead
      rw [hClosed]
      simp only
      exact readNamedOpening_closed h hRest
  · exact .error
  · next rest hAhead hNotAhead hBehind hNotBehind hPython hName hSome hAlone =>
      obtain ⟨behind, hClosed, hRest⟩ := (hAlone ▸ hSkip).cons
      have hNone : behind = [] → False := by
        rintro rfl
        exact hSome (List.eq_nil_of_length_eq_zero (Nat.le_zero.mp hRest.length_le))
      have hAhead : ∀ rest, behind = '=' :: rest → False := hRest.ne_append ['='] (by simp) hAhead
      have hNotAhead : ∀ rest, behind = '!' :: rest → False :=
        hRest.ne_append ['!'] (by simp) hNotAhead
      have hBehind : ∀ rest, behind = '<' :: '=' :: rest → False :=
        hRest.ne_append ['<', '='] (by simp) hBehind
      have hNotBehind : ∀ rest, behind = '<' :: '!' :: rest → False :=
        hRest.ne_append ['<', '!'] (by simp) hNotBehind
      have hPython : ∀ rest, behind = 'P' :: '<' :: rest → False :=
        hRest.ne_append ['P', '<'] (by simp) hPython
      have hName : ∀ rest, behind = '<' :: rest → False := hRest.ne_append ['<'] (by simp) hName
      rw [hClosed]
      simp only
      exact flagsFrom_closed h hRest
  · next hPlain =>
      cases hAlone : alone.flags.skip text with
      | nil =>
          rw [hAlone] at hSkip
          rcases hSkip.nil with hClosed | hClosed
          · rw [hClosed] at hSkip ⊢
            exact h.capture hSkip
          · rw [hClosed] at hSkip ⊢
            exact h.capture hSkip
      | cons c rest =>
          rw [hAlone] at hSkip
          obtain ⟨behind, hClosed, hRest⟩ := hSkip.cons
          have hMark : c ≠ '?' := by
            rintro rfl
            exact hPlain rest hAlone
          rw [hClosed] at hSkip ⊢
          simp only [List.cons.injEq, hMark, false_and, imp_self, implies_true]
          exact h.capture hSkip

/-! ### Repetitions -/

/-- The mark of a lazy repetition is read alike. -/
theorem readLazy_closed (h : Closed text closed) : SameStep (readLazy flags text) (readLazy flags closed) := by
  cases text with
  | nil =>
      rcases h.nil with rfl | rfl
      · exact ⟨rfl, h⟩
      · exact ⟨rfl, h⟩
  | cons c rest =>
      obtain ⟨behind, rfl, hRest⟩ := h.cons
      by_cases hMark : c = '?'
      · subst hMark
        exact ⟨rfl, hRest⟩
      · simp only [readLazy, List.cons.injEq, hMark, false_and, imp_self, implies_true]
        exact ⟨rfl, h⟩

/-- A repetition is the same token, with its mark or without. -/
theorem repetition_closed (h : Within outside alone within) (hText : Closed text closed) (least : Nat)
    (most : Option Nat) :
    Agree (SameToken outside) (repetition alone least most text)
      (repetition within least most closed) := by
  have hLazy : SameStep (readLazy alone.flags text) (readLazy alone.flags closed) := readLazy_closed hText
  obtain ⟨greedy, rest, closedRest, hAlone, hClosed, hRest⟩ := hLazy.exists_eq
  unfold repetition
  rw [h.flags, hAlone, hClosed]
  exact h.atom nofun hRest

/-- What closes a pattern has no digits at its start. -/
theorem readDigits_of_nil (h : Closed [] closed) (bound : Nat) (digits : List Char) :
    readDigits flags bound digits closed = (digits.reverse, closed) := by
  rcases h.nil with rfl | rfl
  · cases bound with
    | zero => rfl
    | succ bound => rfl
  · cases bound with
    | zero => rfl
    | succ bound => rfl

/-- Bounds that are large enough do not cut numbers short. -/
theorem readDigits_closed {bound larger : Nat} {digits : List Char} (h : Closed text closed)
    (hText : text.length ≤ bound) (hLarger : closed.length ≤ larger) :
    SameStep (readDigits flags bound digits text) (readDigits flags larger digits closed) := by
  induction bound generalizing text closed larger digits with
  | zero =>
      obtain rfl := List.eq_nil_of_length_eq_zero (Nat.le_zero.mp hText)
      rw [readDigits_of_nil h]
      exact ⟨rfl, h⟩
  | succ bound ih =>
      cases text with
      | nil =>
          rw [readDigits_of_nil h]
          exact ⟨rfl, h⟩
      | cons c rest =>
          obtain ⟨behind, rfl, hRest⟩ := h.cons
          rw [List.length_cons] at hText hLarger
          cases larger with
          | zero => cases hLarger
          | succ larger =>
              have hTextSkip := flags.length_skip_le rest
              have hClosedSkip := flags.length_skip_le behind
              unfold readDigits
              simp only
              split
              · exact ih (hRest.skip flags) (by omega) (by omega)
              · exact ⟨rfl, h⟩

/-- A count, or why it is none, beside what is read with the closing. -/
def SameCount (a b : Except Fault Nat × List Char) : Prop :=
  Agree Eq a.1 b.1 ∧ Closed a.2 b.2

theorem SameCount.exists_eq {a b : Except Fault Nat × List Char} (h : SameCount a b) :
    ∃ count closedCount rest closedRest, a = (count, rest) ∧ b = (closedCount, closedRest) ∧
      Agree Eq count closedCount ∧ Closed rest closedRest :=
  ⟨a.1, b.1, a.2, b.2, rfl, rfl, h⟩

/-- A count of a repetition is read alike. -/
theorem readCount_closed (h : Closed text closed) :
    SameCount (readCount flags text) (readCount flags closed) := by
  have hTextStart := (List.dropWhile_sublist Text.isBlankChar (l := text)).length_le
  have hClosedStart := (List.dropWhile_sublist Text.isBlankChar (l := closed)).length_le
  have hDigits : SameStep (readDigits flags text.length [] (text.dropWhile Text.isBlankChar))
      (readDigits flags closed.length [] (closed.dropWhile Text.isBlankChar)) :=
    readDigits_closed h.dropBlanks hTextStart hClosedStart
  obtain ⟨digits, stop, closedStop, hAlone, hClosed, hStop⟩ := hDigits.exists_eq
  unfold readCount
  simp only [hAlone, hClosed]
  refine ⟨?_, hStop.dropBlanks⟩
  simp only
  split
  · exact .error
  · split
    · exact .error
    · exact .ok rfl

/-- Both bounds of a repetition are read alike. -/
theorem readBounds_closed {c : Char} (h : Closed text closed) :
    Agree SameStep (readBounds flags (c :: text)) (readBounds flags (c :: closed)) := by
  have hCount : SameCount (readCount flags (flags.skip text)) (readCount flags (flags.skip closed)) :=
    readCount_closed (h.skip flags)
  obtain ⟨least, closedLeast, rest, closedRest, hAlone, hClosedCount, hLeast, hRest⟩ := hCount.exists_eq
  unfold readBounds
  simp only [List.tail_cons, hAlone, hClosedCount]
  cases rest with
  | nil => exact .error
  | cons d rest =>
      obtain ⟨behind, rfl, hBehind⟩ := hRest.cons
      by_cases hComma : d = ','
      · subst hComma
        have hSkip := hBehind.skip flags
        simp only
        cases hText : flags.skip rest with
        | nil => exact .error
        | cons e rest =>
            rw [hText] at hSkip
            obtain ⟨last, hClosed, hLast⟩ := hSkip.cons
            rw [hClosed] at hSkip ⊢
            by_cases hEnd : e = '}'
            · subst hEnd
              refine .bind hLeast ?_
              rintro least _ rfl
              exact .ok ⟨rfl, hSkip⟩
            · simp only [List.cons.injEq, hEnd, false_and, imp_self, implies_true]
              refine .bind hLeast ?_
              rintro least _ rfl
              have hMost : SameCount (readCount flags (e :: rest)) (readCount flags (e :: last)) :=
                readCount_closed hSkip
              obtain ⟨most, closedMost, rest, closedRest, hAlone, hClosedCount, hMost, hRest⟩ :=
                hMost.exists_eq
              rw [hAlone, hClosedCount]
              refine .bind hMost ?_
              rintro most _ rfl
              exact .ok ⟨rfl, hRest⟩
      · simp only [List.cons.injEq, hComma, false_and, imp_self, implies_true]
        refine .bind hLeast ?_
        rintro least _ rfl
        exact .ok ⟨rfl, hRest⟩

/-- A counted repetition is read alike. -/
theorem readCounted_closed (h : Within outside alone within) {c : Char} (hText : Closed text closed) :
    Agree (SameToken outside) (readCounted alone (c :: text)) (readCounted within (c :: closed)) := by
  unfold readCounted
  rw [h.flags]
  refine .bind (readBounds_closed hText) ?_
  rintro ⟨⟨least, most⟩, rest⟩ ⟨_, closedRest⟩ ⟨rfl, hRest⟩
  simp only at hRest ⊢
  cases rest with
  | nil => exact .error
  | cons d rest =>
      obtain ⟨behind, rfl, hBehind⟩ := hRest.cons
      by_cases hEnd : d = '}'
      · subst hEnd
        refine .bind (repetition_closed h (hBehind.skip alone.flags) least most) ?_
        rintro ⟨token, progress, rest⟩ ⟨_, closedProgress, closedRest⟩ ⟨rfl, hNumbered, hProgress, hLast⟩
        simp only
        split
        · exact .error
        · exact .ok ⟨rfl, hNumbered, hProgress, hLast⟩
      · simp only [List.cons.injEq, hEnd, false_and, imp_self, implies_true]
        exact .error

/-! ### Tokens -/

/-- An escape makes the same token, whatever stands behind it. -/
theorem Escape.token_closed {stop closedStop : List Char} (flags : Flags) (escape : Escape) :
    Agree (fun a b => a = b ∧ a ≠ .opening (some 0)) (escape.token flags start stop)
      (escape.token flags closedStart closedStop) := by
  cases escape with
  | literal c byte =>
      simp only [Escape.token]
      split
      · exact .error
      · exact .ok ⟨rfl, nofun⟩
  | shorthand kind negated =>
      refine (flags.allow_closed (kind.set flags negated)).map ?_
      rintro set _ rfl
      exact ⟨rfl, nofun⟩
  | property name negated =>
      refine (flags.named_closed name negated).map ?_
      rintro set _ rfl
      exact ⟨rfl, nofun⟩
  | look look => exact .ok ⟨rfl, nofun⟩

/-- Whatever a token is, it is the same with the closing behind the pattern. -/
theorem readToken_closed (h : Within outside alone within) {c : Char}
    (hText : Closed (c :: rest) (c :: closedRest)) :
    Agree (SameToken outside) (readToken alone c rest) (readToken within c closedRest) := by
  have hRest : Closed rest closedRest := hText.tail (List.cons_ne_nil c rest)
  unfold readToken
  simp only [h.flags, h.repeatable]
  split
  · exact readOpening_closed h hRest
  · exact h.leave hRest
  · exact .ok ⟨rfl, nofun, ⟨rfl, h.outer, h.captures, h.names, rfl⟩, hRest⟩
  · split
    · exact repetition_closed h hRest 0 (some 1)
    · exact .error
  · split
    · exact repetition_closed h hRest 0 none
    · exact .error
  · split
    · exact repetition_closed h hRest 1 none
    · exact .error
  · split
    · exact readCounted_closed h hRest
    · exact .error
  · refine .bind (readClass_closed hText.length_le _ _ hText) ?_
    rintro ⟨inner, rest⟩ ⟨_, closedRest⟩ ⟨rfl, hRest⟩
    exact h.atom nofun hRest
  · refine .bind (readEscape_closed hRest) ?_
    rintro ⟨escape, rest⟩ ⟨_, closedRest⟩ ⟨rfl, hRest⟩
    refine .bind (escape.token_closed alone.flags) ?_
    rintro token _ ⟨rfl, hNumbered⟩
    exact h.atom hNumbered hRest
  · refine .bind (alone.flags.allow_closed (dot alone.flags)) ?_
    rintro set _ rfl
    exact h.atom nofun hRest
  · exact h.atom nofun hRest
  · exact h.atom nofun hRest
  · exact h.atom nofun hRest

/-- Tokens are read by reading the first one and then the others. -/
theorem readTokens_cons {bound : Nat} {progress last : Progress} {c : Char} {tokens : List Token}
    (hText : progress.flags.skip text = c :: rest)
    (h : readTokens bound progress text = .ok (tokens, last)) :
    ∃ less token next after others, bound = less + 1 ∧ readToken progress c rest = .ok (token, next, after) ∧
      readTokens less next after = .ok (others, last) ∧ tokens = token :: others := by
  cases bound with
  | zero => cases h
  | succ less =>
      unfold readTokens at h
      rw [hText] at h
      obtain ⟨⟨token, next, after⟩, hToken, h⟩ := bind_eq_ok h
      obtain ⟨⟨others, last⟩, hOthers, h⟩ := bind_eq_ok h
      cases h
      exact ⟨less, token, next, after, others, rfl, hToken, hOthers, rfl⟩

/-- At the end of a pattern no group may be open. -/
theorem readTokens_nil {bound : Nat} {progress last : Progress} {tokens : List Token}
    (hText : progress.flags.skip text = []) (h : readTokens bound progress text = .ok (tokens, last)) :
    progress.outer = [] ∧ tokens = [] := by
  cases bound with
  | zero => cases h
  | succ less =>
      unfold readTokens at h
      rw [hText] at h
      cases hOuter : progress.outer with
      | cons group outer =>
          rw [hOuter] at h
          cases h
      | nil =>
          rw [hOuter] at h
          cases h
          exact ⟨rfl, rfl⟩

/-- The closing ends the group, and then it asks for the end of the text. -/
theorem readTokens_closing {bound : Nat} {progress last : Progress} {tokens : List Token}
    {group : OpenGroup} (hText : progress.flags.skip text = closing) (hOuter : progress.outer = [group])
    (hGroup : group.flags.verbose = false ∧ group.flags.multiLine = false)
    (h : readTokens bound progress text = .ok (tokens, last)) :
    tokens = [.closing, .look .textEnd] := by
  obtain ⟨_, token, next, after, _, -, hToken, h, rfl⟩ := readTokens_cons hText h
  have hLeave : progress.leave closing = .ok (token, next, after) := hToken
  simp only [Progress.leave, hOuter] at hLeave
  cases hLeave
  have hDollar : group.flags.skip ['$'] = ['$'] := by simp [Flags.skip, hGroup.1]
  obtain ⟨_, token, next, after, _, -, hToken, h, rfl⟩ := readTokens_cons hDollar h
  have hEnd : lineEnd group.flags = .textEnd := by simp [lineEnd, hGroup.2]
  simp only [readToken, Progress.atom, hEnd] at hToken
  cases hToken
  obtain ⟨-, rfl⟩ := readTokens_nil (by simp [Flags.skip, hGroup.1]) h
  rfl

/-- The induction is on the bound of the reading: every token leads to places of both readings that stand
beside each other, and where the pattern by itself ends, what is left is the closing. -/
theorem readTokens_closed {bound larger : Nat} {tokens enclosed : List Token} {final last : Progress}
    (hOutside : outside.verbose = false ∧ outside.multiLine = false) (h : Within outside alone within)
    (hText : Closed text closed) (hAlone : readTokens bound alone text = .ok (tokens, final))
    (hWithin : readTokens larger within closed = .ok (enclosed, last)) :
    enclosed = tokens ++ [.closing, .look .textEnd] ∧ .opening (some 0) ∉ tokens := by
  induction bound generalizing larger alone within text closed tokens enclosed with
  | zero => cases hAlone
  | succ bound ih =>
      have hSkip := hText.skip alone.flags
      cases hRest : alone.flags.skip text with
      | nil =>
          obtain ⟨hOuter, rfl⟩ := readTokens_nil hRest hAlone
          have hLevels := h.outer
          rw [hOuter, List.map_nil, List.nil_append] at hLevels
          obtain ⟨group, hGroup, rfl⟩ := List.map_eq_singleton_iff.mp hLevels
          rcases (hRest ▸ hSkip).nil with hClosed | hClosed
          · exact ⟨readTokens_closing (h.flags ▸ hClosed) hGroup hOutside hWithin, List.not_mem_nil⟩
          · -- A comment over the closing leaves the group open.
            have hNone := (readTokens_nil (h.flags ▸ hClosed) hWithin).1
            rw [hGroup] at hNone
            cases hNone
      | cons c rest =>
          rw [hRest] at hSkip
          obtain ⟨behind, hClosed, -⟩ := hSkip.cons
          rw [hClosed] at hSkip
          obtain ⟨_, token, next, after, others, hBound, hToken, hOthers, rfl⟩ :=
            readTokens_cons hRest hAlone
          obtain ⟨less, closedToken, closedNext, closedAfter, closedOthers, -, hClosedToken,
            hClosedOthers, rfl⟩ := readTokens_cons (h.flags ▸ hClosed) hWithin
          obtain rfl := Nat.succ.inj hBound
          obtain ⟨_, hSame, hToken, hNumbered, hNext, hAfter⟩ := readToken_closed h hSkip _ hToken
          obtain rfl := Except.ok.inj (hClosedToken.symm.trans hSame)
          obtain ⟨hEnd, hOthersNumbered⟩ := ih hNext hAfter hOthers hClosedOthers
          simp only at hToken hNumbered
          rw [hEnd, ← hToken]
          refine ⟨rfl, ?_⟩
          rw [List.mem_cons, not_or]
          exact ⟨hNumbered.symm, hOthersNumbered⟩

end LogIngest.Pattern
