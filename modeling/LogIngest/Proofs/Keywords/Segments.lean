import LogIngest.Keywords

/-!
Segments of a text: runs of letters and digits, each two of them held together by one joiner. Main
statement: one scan through a text, with one character of foresight, ends a term exactly where a segment
ends that can be extended neither to the left nor to the right.
-/

namespace LogIngest.Keywords

/-- Runs of term characters, each two of them held together by one joiner. -/
inductive Segment : List Char → Prop where
  | run {run : List Char} (ne_nil : run ≠ []) (chars : ∀ c ∈ run, isTermChar c = true) : Segment run
  | joined {run rest : List Char} {joiner : Char} (ne_nil : run ≠ [])
      (chars : ∀ c ∈ run, isTermChar c = true) (isJoiner : isJoiner joiner = true)
      (segment : Segment rest) : Segment (run ++ joiner :: rest)

/-- A segment between two texts that cannot be extended into them. -/
structure Maximal (before segment after : List Char) : Prop where
  isSegment : Segment segment
  widest : ∀ left right, left <:+ before → right <+: after → Segment (left ++ segment ++ right) →
    left = [] ∧ right = []

/-- The maximal segments of a text from left to right, given what stands before it. No character of a term
is left out. -/
inductive Segments : List Char → List Char → List (List Char) → Prop where
  | nil {before : List Char} : Segments before [] []
  | skip {before rest : List Char} {c : Char} {segments : List (List Char)}
      (notTermChar : isTermChar c = false) (tail : Segments (before ++ [c]) rest segments) :
      Segments before (c :: rest) segments
  | take {before segment rest : List Char} {segments : List (List Char)}
      (maximal : Maximal before segment rest) (tail : Segments (before ++ segment) rest segments) :
      Segments before (segment ++ rest) (segment :: segments)

/-- A text with each letter and digit in lower case. -/
def lowered (text : List Char) : List Char :=
  text.flatMap fun c => if isTermChar c then Text.lowerChar c else [c]

set_option maxRecDepth 20000 in
/-- Joiners are no letters or digits. -/
theorem isTermChar_of_isJoiner {c : Char} (h : isJoiner c = true) : isTermChar c = false := by
  have hJoiners : ['.', '-', '_', '@', ':'].all (!isTermChar ·) = true := by decide +kernel
  have hNone : (!isTermChar c) = true := by
    apply List.all_eq_true.mp hJoiners
    simp only [isJoiner, Bool.or_eq_true, beq_iff_eq] at h
    simpa [or_assoc] using h
  simpa using hNone

namespace Segment

variable {segment : List Char} {c joiner : Char}

theorem ne_nil (h : Segment segment) : segment ≠ [] := by
  cases h with
  | run ne_nil => exact ne_nil
  | joined => simp

theorem single (hc : isTermChar c = true) : Segment [c] := by
  apply run
  · simp
  · simpa using hc

/-- A segment may go on with a letter or a digit. -/
theorem concat (h : Segment segment) (hc : isTermChar c = true) : Segment (segment ++ [c]) := by
  induction h with
  | run _ chars =>
      apply run
      · simp
      · intro d hd
        rcases List.mem_append.mp hd with hOld | hNew
        · exact chars d hOld
        · rw [List.mem_singleton.mp hNew]
          exact hc
  | joined ne_nil chars hJoiner _ ih =>
      rw [List.append_assoc, List.cons_append]
      exact joined ne_nil chars hJoiner ih

/-- A segment may go on behind a joiner. -/
theorem concat_joined (h : Segment segment) (hJoiner : isJoiner joiner = true)
    (hc : isTermChar c = true) : Segment (segment ++ [joiner, c]) := by
  induction h with
  | run ne_nil chars => exact joined ne_nil chars hJoiner (single hc)
  | joined ne_nil chars hFirst _ ih =>
      rw [List.append_assoc, List.cons_append]
      exact joined ne_nil chars hFirst ih

/-- A segment starts with a letter or a digit. -/
theorem head (h : Segment (c :: segment)) : isTermChar c = true := by
  generalize hAll : c :: segment = all at h
  cases h with
  | run _ chars => exact chars c (hAll ▸ List.mem_cons_self)
  | @joined run rest joiner ne_nil chars _ _ =>
      obtain ⟨d, tail, rfl⟩ := List.exists_cons_of_ne_nil ne_nil
      obtain ⟨rfl, -⟩ := List.cons.inj hAll
      exact chars c List.mem_cons_self

/-- What is no letter or digit of a segment is a joiner, and stands between two that are. -/
theorem between {before after : List Char} (h : Segment (before ++ c :: after))
    (hc : isTermChar c = false) :
    isJoiner c = true ∧ startsTerm after = true ∧
      ∃ earlier d, before = earlier ++ [d] ∧ isTermChar d = true := by
  generalize hAll : before ++ c :: after = all at h
  induction h generalizing before with
  | run _ chars =>
      have hTerm := chars c (by simp [← hAll])
      rw [hc] at hTerm
      cases hTerm
  | @joined run rest joiner ne_nil chars hJoiner hRest ih =>
      have hAtJoiner : before = run → c = joiner → after = rest →
          isJoiner c = true ∧ startsTerm after = true ∧
            ∃ earlier d, before = earlier ++ [d] ∧ isTermChar d = true := by
        rintro rfl rfl rfl
        obtain ⟨d, tail, rfl⟩ := List.exists_cons_of_ne_nil hRest.ne_nil
        exact ⟨hJoiner, hRest.head, before.dropLast, before.getLast ne_nil,
          (List.dropLast_concat_getLast ne_nil).symm, chars _ (List.getLast_mem ne_nil)⟩
      rcases List.append_eq_append_iff.mp hAll with ⟨more, hRun, hMore⟩ | ⟨more, hBefore, hMore⟩
      · cases more with
        | nil =>
            obtain ⟨rfl, rfl⟩ := List.cons.inj hMore
            exact hAtJoiner (by simpa using hRun.symm) rfl rfl
        | cons d more =>
            obtain ⟨rfl, -⟩ := List.cons.inj hMore
            have hTerm := chars c (by simp [hRun])
            rw [hc] at hTerm
            cases hTerm
      · cases more with
        | nil =>
            obtain ⟨rfl, rfl⟩ := List.cons.inj hMore
            exact hAtJoiner (by simpa using hBefore) rfl rfl
        | cons d more =>
            obtain ⟨rfl, hTail⟩ := List.cons.inj hMore
            obtain ⟨hIsJoiner, hStarts, earlier, e, hEarlier, he⟩ := ih hTail.symm
            refine ⟨hIsJoiner, hStarts, run ++ joiner :: earlier, e, ?_, he⟩
            rw [hBefore, hEarlier]
            simp

end Segment

/-! ### The segments of a text are settled by the text -/

/-- Nothing that is maximal starts with another character. -/
theorem not_maximal_of_notTermChar {before rest more : List Char} {c : Char}
    (hc : isTermChar c = false) : ¬Maximal before (c :: rest) more := by
  intro h
  have hHead := h.isSegment.head
  rw [hc] at hHead
  cases hHead

/-- Of two maximal segments that start at the same place neither is longer. -/
theorem Maximal.eq_of_append_eq {before first second rest others : List Char}
    (hFirst : Maximal before first rest) (hSecond : Maximal before second others)
    (h : first ++ rest = second ++ others) : first = second := by
  rcases List.append_eq_append_iff.mp h with ⟨more, rfl, hRest⟩ | ⟨more, rfl, hOthers⟩
  · have hNone := hFirst.widest [] more (List.nil_suffix) ⟨others, hRest.symm⟩
      (by simpa using hSecond.isSegment)
    simp [hNone.2]
  · have hNone := hSecond.widest [] more (List.nil_suffix) ⟨rest, hOthers.symm⟩
      (by simpa using hFirst.isSegment)
    simp [hNone.2]

/-- A text has one list of segments. -/
theorem Segments.unique {before text : List Char} {segments others : List (List Char)}
    (h : Segments before text segments) (hOthers : Segments before text others) :
    others = segments := by
  induction h generalizing others with
  | nil =>
      generalize hText : ([] : List Char) = text at hOthers
      cases hOthers with
      | nil => rfl
      | skip => cases hText
      | take maximal _ => exact (maximal.isSegment.ne_nil (List.append_eq_nil_iff.mp hText.symm).1).elim
  | @skip before rest c segments notTermChar _ ih =>
      generalize hText : c :: rest = text at hOthers
      cases hOthers with
      | nil => cases hText
      | skip _ tail =>
          obtain ⟨rfl, rfl⟩ := List.cons.inj hText
          exact ih tail
      | @take _ segment _ _ maximal _ =>
          obtain ⟨d, more, rfl⟩ := List.exists_cons_of_ne_nil maximal.isSegment.ne_nil
          obtain ⟨rfl, -⟩ := List.cons.inj hText
          exact (not_maximal_of_notTermChar notTermChar maximal).elim
  | @take before segment rest segments maximal _ ih =>
      generalize hText : segment ++ rest = text at hOthers
      cases hOthers with
      | nil => exact (maximal.isSegment.ne_nil (List.append_eq_nil_iff.mp hText).1).elim
      | skip notTermChar _ =>
          obtain ⟨d, more, rfl⟩ := List.exists_cons_of_ne_nil maximal.isSegment.ne_nil
          obtain ⟨rfl, -⟩ := List.cons.inj hText
          exact (not_maximal_of_notTermChar notTermChar maximal).elim
      | take maximal' tail =>
          obtain rfl := maximal.eq_of_append_eq maximal' hText
          obtain rfl := List.append_cancel_left hText
          rw [ih tail]

/-- All of them are segments. -/
theorem Segments.isSegment {before text : List Char} {segments : List (List Char)}
    (h : Segments before text segments) {segment : List Char} (hMem : segment ∈ segments) :
    Segment segment := by
  induction h with
  | nil => cases hMem
  | skip _ _ ih => exact ih hMem
  | take maximal _ ih =>
      rcases List.mem_cons.mp hMem with rfl | hLater
      · exact maximal.isSegment
      · exact ih hLater

/-! ### The scan -/

/-- No segment that covers the place between two texts reaches into the first of them. -/
def LeftFree (before segment : List Char) : Prop :=
  ∀ left right, left <:+ before → Segment (left ++ segment ++ right) → left = []

/-- What the scan has to remember of the text before a place at which no term is being read: its last
character is no letter or digit, nor a joiner between two of them. -/
def Detached (before text : List Char) : Prop :=
  ∀ earlier c, before = earlier ++ [c] → isTermChar c = false ∧
    (isJoiner c = true → startsTerm text = true →
      ∀ earliest d, earlier = earliest ++ [d] → isTermChar d = false)

/-- Where nothing is to be continued, a new segment may start. -/
theorem Detached.leftFree {before text : List Char} {c : Char} (h : Detached before (c :: text))
    (hc : isTermChar c = true) : LeftFree before [c] := by
  rintro left right ⟨earliest, rfl⟩ hSegment
  rcases List.eq_nil_or_concat left with rfl | ⟨earlier, d, rfl⟩
  · rfl
  · exfalso
    rw [List.concat_eq_append] at h hSegment
    obtain ⟨hd, hJoins⟩ := h (earliest ++ earlier) d (List.append_assoc ..).symm
    have hCovered : Segment (earlier ++ d :: ([c] ++ right)) := by simpa using hSegment
    obtain ⟨hJoiner, -, earliest', e, rfl, he⟩ := hCovered.between hd
    have hNot := hJoins hJoiner hc (earliest ++ earliest') e (List.append_assoc ..).symm
    rw [he] at hNot
    cases hNot

/-- What the scan is reading at a place: nothing, a segment, or a segment and a joiner that holds on to
what comes next. -/
inductive Reading (before : List Char) : List Char → List Char → Prop where
  | nothing {text : List Char} (detached : Detached before text) : Reading before [] text
  | segment {read text : List Char} (isSegment : Segment read) (free : LeftFree before read) :
      Reading before read text
  | joiner {read text : List Char} {joiner : Char} (isSegment : Segment read)
      (isJoiner : isJoiner joiner = true) (starts : startsTerm text = true)
      (free : LeftFree before read) : Reading before (read ++ [joiner]) text

theorem LeftFree.append {before segment : List Char} (h : LeftFree before segment)
    (more : List Char) : LeftFree before (segment ++ more) := by
  intro left right hLeft hSegment
  apply h left (more ++ right) hLeft
  simpa using hSegment

/-- A character of a term is read on. -/
theorem Reading.termChar {before read text : List Char} {c : Char}
    (h : Reading before read (c :: text)) (hc : isTermChar c = true) :
    Reading before (read ++ [c]) text := by
  cases h with
  | nothing detached => exact .segment (.single hc) (detached.leftFree hc)
  | segment isSegment free => exact .segment (isSegment.concat hc) (free.append [c])
  | joiner isSegment isJoiner _ free =>
      rw [List.append_assoc]
      exact .segment (isSegment.concat_joined isJoiner hc) (free.append _)

/-- A segment that is not read on cannot be extended. -/
theorem maximal_of_not_joined {before read text : List Char} {c : Char} (hSegment : Segment read)
    (hFree : LeftFree before read) (hc : isTermChar c = false)
    (hNotJoined : ¬(isJoiner c = true ∧ startsTerm text = true)) :
    Maximal before read (c :: text) := by
  refine ⟨hSegment, ?_⟩
  intro left right hLeft hRight hWide
  refine ⟨hFree left right hLeft hWide, ?_⟩
  cases right with
  | nil => rfl
  | cons d more =>
      exfalso
      obtain ⟨rfl, hMore⟩ := List.cons_prefix_cons.mp hRight
      obtain ⟨hJoiner, hStarts, -⟩ := Segment.between hWide hc
      obtain ⟨e, tail, rfl⟩ : ∃ e tail, more = e :: tail := by
        cases more with
        | nil => cases hStarts
        | cons e tail => exact ⟨e, tail, rfl⟩
      obtain ⟨others, rfl⟩ := hMore
      exact hNotJoined ⟨hJoiner, hStarts⟩

/-- Behind a character that joins nothing, nothing is to be continued. -/
theorem detached_of_not_joined {before read text : List Char} {c : Char}
    (hc : isTermChar c = false) (hNotJoined : ¬(isJoiner c = true ∧ startsTerm text = true)) :
    Detached (before ++ read ++ [c]) text := by
  intro earlier d hLast
  obtain ⟨rfl, hd⟩ := List.append_inj' hLast rfl
  obtain rfl := List.singleton_inj.mp hd
  exact ⟨hc, fun hJoiner hStarts => (hNotJoined ⟨hJoiner, hStarts⟩).elim⟩

/-- Other characters do not change that. -/
theorem Detached.concat {before text : List Char} {c : Char} (h : Detached before (c :: text))
    (hc : isTermChar c = false) : Detached (before ++ [c]) text := by
  intro earlier d hLast
  obtain ⟨rfl, hd⟩ := List.append_inj' hLast rfl
  obtain rfl := List.singleton_inj.mp hd
  exact ⟨hc, fun _ _ earliest e hEarlier => (h earliest e hEarlier).1⟩

end LogIngest.Keywords
