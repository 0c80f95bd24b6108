import Mathlib
import LogIngest.Proofs.Keywords.Segments
import LogIngest.Proofs.Text.Lowercase

/-!
The terms that the standard tokenizer finds. Main statement: they are the maximal segments of the text in
lower case, each of them once and in the order of their first occurrence, cut off at the budget.
-/

namespace LogIngest.Keywords

/-! ### Lower case -/

/-- The joiners stand early in the table of characters. -/
theorem not_isJoiner_of_beyond {c : Char} (h : 0x60 ≤ c.toNat ∨ c.toNat = 0) : isJoiner c = false := by
  rw [Bool.eq_false_iff]
  intro hJoiner
  simp only [isJoiner, Bool.or_eq_true, beq_iff_eq] at hJoiner
  rcases hJoiner with (((rfl | rfl) | rfl) | rfl) | rfl <;> exact absurd h (by decide)

/-- No letter or digit has a lower-case form with a joiner in it. -/
theorem not_isJoiner_of_mem_lowerChar {c d : Char} (hc : isTermChar c = true)
    (hd : d ∈ Text.lowerChar c) : isJoiner d = false := by
  have hNot : isJoiner c = false := by
    rw [Bool.eq_false_iff]
    intro hJoiner
    rw [isTermChar_of_isJoiner hJoiner] at hc
    cases hc
  unfold Text.lowerChar at hd
  dsimp only at hd
  split at hd
  · next hAscii =>
      obtain rfl := List.mem_singleton.mp hd
      have hTable : ∀ n < 0x80, isJoiner (Char.ofNat n) = false →
          isJoiner (Char.ofNat n).toLower = false := by decide
      have hChar := hTable c.toNat hAscii
      rw [Char.ofNat_toNat] at hChar
      exact hChar hNot
  · split at hd
    · simp only [List.mem_cons, List.not_mem_nil, or_false] at hd
      rcases hd with rfl | rfl <;> decide
    · split at hd
      · next run hRun =>
          obtain rfl := List.mem_singleton.mp hd
          have hMem := List.mem_of_find?_eq_some hRun
          have hCovers := List.find?_some hRun
          have hTable : ∀ run ∈ CaseRun.toLower, 0x60 ≤ run.first + run.shift := by
            decide +kernel
          have hImage := hTable run hMem
          have hBeyond : 0x60 ≤ run.image c.toNat := by
            simp only [CaseRun.covers, Bool.and_eq_true, decide_eq_true_eq] at hCovers
            unfold CaseRun.image
            omega
          apply not_isJoiner_of_beyond
          unfold Char.ofNat
          split
          · exact .inl hBeyond
          · exact .inr rfl
      · obtain rfl := List.mem_singleton.mp hd
        exact hNot

/-- Terms are put in lower case character by character. -/
theorem lowered_append (text more : List Char) : lowered (text ++ more) = lowered text ++ lowered more :=
  List.flatMap_append ..

/-- What belongs to no term keeps its case. -/
theorem lowered_of_notTermChar {c : Char} (h : isTermChar c = false) : lowered [c] = [c] := by
  simp [lowered, h]

/-- A letter is put in lower case even where that takes several characters. -/
theorem lowered_of_termChar {c : Char} (h : isTermChar c = true) : lowered [c] = Text.lowerChar c := by
  simp [lowered, h]

/-- No text vanishes in lower case. -/
theorem lowered_eq_nil_iff {text : List Char} : lowered text = [] ↔ text = [] := by
  cases text with
  | nil => simp [lowered]
  | cons c rest =>
      have hForm := Text.lowerChar_ne_nil c
      simp only [lowered, List.flatMap_cons, List.append_eq_nil_iff, reduceCtorEq, iff_false]
      rintro ⟨h, -⟩
      split at h
      · exact hForm h
      · cases h

/-- A term with joiners only between its letters and digits, one at a time. -/
structure WellJoined (term : List Char) : Prop where
  ne_nil : term ≠ []
  head : ∀ c ∈ term.head?, isJoiner c = false
  last : ∀ c ∈ term.getLast?, isJoiner c = false
  single : term.IsChain fun a b => ¬(isJoiner a = true ∧ isJoiner b = true)

/-- Putting a run in lower case makes no joiner. -/
theorem not_isJoiner_of_mem_lowered {run : List Char} (h : ∀ c ∈ run, isTermChar c = true) {d : Char}
    (hd : d ∈ lowered run) : isJoiner d = false := by
  obtain ⟨c, hc, hForm⟩ := List.mem_flatMap.mp hd
  rw [if_pos (h c hc)] at hForm
  exact not_isJoiner_of_mem_lowerChar (h c hc) hForm

/-- A run without joiners is well joined. -/
theorem wellJoined_of_no_joiner {term : List Char} (hNe : term ≠ [])
    (h : ∀ c ∈ term, isJoiner c = false) : WellJoined term := by
  refine ⟨hNe, ?_, ?_, ?_⟩
  · intro c hc
    exact h c (List.mem_of_mem_head? hc)
  · intro c hc
    exact h c (List.mem_of_mem_getLast? hc)
  · apply List.Pairwise.isChain
    apply List.pairwise_of_forall_mem_list
    intro a ha b _ hBoth
    rw [h a ha] at hBoth
    cases hBoth.1

/-- A segment stays well joined in lower case. -/
theorem Segment.wellJoined_lowered {segment : List Char} (h : Segment segment) :
    WellJoined (lowered segment) := by
  induction h with
  | run ne_nil chars =>
      exact wellJoined_of_no_joiner (mt lowered_eq_nil_iff.mp ne_nil)
        fun d hd => not_isJoiner_of_mem_lowered chars hd
  | @joined run rest joiner ne_nil chars hJoiner hRest ih =>
      have hRun : WellJoined (lowered run) :=
        wellJoined_of_no_joiner (mt lowered_eq_nil_iff.mp ne_nil)
          fun d hd => not_isJoiner_of_mem_lowered chars hd
      have hWhole : lowered (run ++ joiner :: rest) = lowered run ++ joiner :: lowered rest := by
        rw [lowered_append, ← List.singleton_append, lowered_append,
          lowered_of_notTermChar (isTermChar_of_isJoiner hJoiner), List.singleton_append]
      rw [hWhole]
      refine ⟨by simp, ?_, ?_, ?_⟩
      · intro c hc
        rw [List.head?_append_of_ne_nil _ hRun.ne_nil] at hc
        exact hRun.head c hc
      · intro c hc
        rw [List.getLast?_append_cons, List.getLast?_cons_of_ne_nil ih.ne_nil] at hc
        exact ih.last c hc
      · refine List.isChain_append.mpr ⟨hRun.single, List.isChain_cons.mpr ⟨?_, ih.single⟩, ?_⟩
        · intro c hc hBoth
          rw [ih.head c hc] at hBoth
          cases hBoth.2
        · intro c hc d _ hBoth
          rw [hRun.last c hc] at hBoth
          cases hBoth.1

/-! ### First occurrences -/

namespace Scan

/-- Finds a term, unless it has been found before. -/
def note (found : List (List Char)) (term : List Char) : List (List Char) :=
  if found.contains term then found else term :: found

/-- The terms found are those that occur, in the order of their first occurrence. -/
theorem reverse_foldl_note (terms : List (List Char)) :
    (terms.foldl note []).reverse = terms.eraseDups := by
  induction terms using List.reverseRecOn with
  | nil => rfl
  | append_singleton terms term ih =>
      have hFound : (terms.foldl note []).contains term = true ↔ term ∈ terms := by
        rw [List.contains_iff_mem, ← List.mem_reverse, ih, List.mem_eraseDups]
      rw [List.foldl_append, List.foldl_cons, List.foldl_nil, note, List.eraseDups_append]
      by_cases h : term ∈ terms
      · have hNone : [term].removeAll terms = [] := by simp [List.removeAll, h]
        rw [if_pos (hFound.mpr h), ih, hNone]
        simp
      · have hOne : [term].removeAll terms = [term] := by simp [List.removeAll, h]
        rw [if_neg (mt hFound.mp h), List.reverse_cons, ih, hOne]
        rfl

/-- A term is noted only if it has not been found. -/
theorem nodup_note {found : List (List Char)} (h : found.Nodup) (term : List Char) :
    (note found term).Nodup := by
  unfold note
  split
  · exact h
  · next hNew => exact List.nodup_cons.mpr ⟨by simpa using hNew, h⟩

theorem nodup_eraseDups (terms : List (List Char)) : terms.eraseDups.Nodup := by
  rw [← reverse_foldl_note, List.nodup_reverse]
  induction terms using List.reverseRecOn with
  | nil => exact List.nodup_nil
  | append_singleton terms term ih =>
      rw [List.foldl_append]
      exact nodup_note ih term

/-- A term is noted when it has ended. -/
theorem flush_found (found : List (List Char)) {current : List Char} (h : current ≠ []) :
    flush ⟨found, current.reverse⟩ = ⟨note found current, []⟩ := by
  have hNot : current.reverse.isEmpty = false := by simpa using h
  simp [flush, hNot, note]

/-! ### The scan finds the segments -/

/-- The scan from any place on finds the segment that is being read and those that come after it. -/
theorem exists_segments {before read text : List Char} (h : Reading before read text)
    (found : List (List Char)) :
    ∃ segments, Segments before (read ++ text) segments ∧
      (run none ⟨found, (lowered read).reverse⟩ text).flush.found =
        (segments.map lowered).foldl note found := by
  induction text generalizing before read found with
  | nil =>
      cases h with
      | nothing => exact ⟨[], .nil, rfl⟩
      | segment isSegment free =>
          have hMaximal : Maximal before read [] := by
            refine ⟨isSegment, ?_⟩
            intro left right hLeft hRight hWide
            exact ⟨free left right hLeft hWide, List.prefix_nil.mp hRight⟩
          refine ⟨[read], .take hMaximal .nil, ?_⟩
          rw [run, flush_found found (mt lowered_eq_nil_iff.mp isSegment.ne_nil)]
          rfl
      | joiner _ _ starts => cases starts
  | cons c rest ih =>
      have hRun : ∀ scan : Scan, run none scan (c :: rest) = run none (scan.step c rest) rest :=
        fun _ => rfl
      rw [hRun]
      cases hc : isTermChar c with
      | true =>
          obtain ⟨segments, hSegments, hFound⟩ := ih (h.termChar hc) found
          refine ⟨segments, by simpa using hSegments, ?_⟩
          rw [← hFound, lowered_append, lowered_of_termChar hc, List.reverse_append]
          simp [step, hc]
      | false =>
          cases h with
          | nothing detached =>
              obtain ⟨segments, hSegments, hFound⟩ := ih (.nothing (detached.concat hc)) found
              refine ⟨segments, .skip hc hSegments, ?_⟩
              rw [← hFound]
              simp [step, hc, flush, lowered]
          | joiner _ _ starts =>
              rw [startsTerm, hc] at starts
              cases starts
          | segment isSegment free =>
              have hRead : lowered read ≠ [] := mt lowered_eq_nil_iff.mp isSegment.ne_nil
              by_cases hJoined : isJoiner c = true ∧ startsTerm rest = true
              · obtain ⟨hJoiner, hStarts⟩ := hJoined
                obtain ⟨segments, hSegments, hFound⟩ :=
                  ih (.joiner isSegment hJoiner hStarts free) found
                refine ⟨segments, by simpa using hSegments, ?_⟩
                rw [← hFound, lowered_append, lowered_of_notTermChar hc, List.reverse_append]
                simp [step, hc, hJoiner, hStarts, hRead]
              · have hMaximal := maximal_of_not_joined isSegment free hc hJoined
                obtain ⟨segments, hSegments, hFound⟩ :=
                  ih (.nothing (detached_of_not_joined hc hJoined)) (note found (lowered read))
                refine ⟨read :: segments, .take hMaximal (.skip hc hSegments), ?_⟩
                rw [List.map_cons, List.foldl_cons, ← hFound]
                have hStep : step ⟨found, (lowered read).reverse⟩ c rest =
                    ⟨note found (lowered read), []⟩ := by
                  rw [← flush_found found hRead]
                  by_cases hJoiner : isJoiner c = true
                  · have hStarts : startsTerm rest = false := by
                      simpa [hJoiner] using hJoined
                    simp [step, hc, hStarts]
                  · simp [step, hc, hJoiner]
                rw [hStep]
                rfl

/-! ### The budget -/

theorem flush_of_nil {scan : Scan} (h : scan.current = []) : scan.flush = scan := by
  simp [flush, h]

theorem current_flush (scan : Scan) : scan.flush.current = [] := by
  unfold flush
  split
  · next h => simpa using h
  · rfl

/-- Ending a term forgets none that was found. -/
theorem suffix_found_flush (scan : Scan) : scan.found <:+ scan.flush.found := by
  unfold flush
  split
  · exact List.suffix_refl _
  · dsimp only
    split
    · exact List.suffix_refl _
    · exact List.suffix_cons _ _

/-- A step of the scan forgets no term that was found. -/
theorem suffix_found_step (scan : Scan) (c : Char) (rest : List Char) :
    scan.found <:+ (scan.step c rest).found := by
  unfold step
  split
  · exact List.suffix_refl _
  · split
    · exact List.suffix_refl _
    · exact suffix_found_flush scan

/-- What was found comes first in all that is found later, so the budget keeps the first terms. -/
theorem suffix_found_run (scan : Scan) (text : List Char) :
    scan.found <:+ (run none scan text).flush.found := by
  induction text generalizing scan with
  | nil => exact suffix_found_flush scan
  | cons c rest ih => exact (suffix_found_step scan c rest).trans (ih (scan.step c rest))

/-- The scan is full only when it has just ended a term. -/
theorem current_step_of_full {scan : Scan} {limit : Option Nat} {c : Char} {rest : List Char}
    (hNot : scan.full limit = false) (hFull : (scan.step c rest).full limit = true) :
    (scan.step c rest).current = [] := by
  have hSame : ∀ current, full ⟨scan.found, current⟩ limit = scan.full limit := by
    intro current
    cases limit <;> rfl
  unfold step at hFull ⊢
  split at hFull
  · rw [hSame, hNot] at hFull
    cases hFull
  · next hTerm =>
      split at hFull
      · rw [hSame, hNot] at hFull
        cases hFull
      · next hJoined =>
          rw [if_neg hTerm, if_neg hJoined]
          exact current_flush scan

/-- As many terms as the limit allows are the same whether the scan stops there or not. -/
theorem take_run {limit : Nat} {scan : Scan} (h : scan.full (some limit) = true → scan.current = [])
    (text : List Char) :
    (run (some limit) scan text).flush.found.reverse.take limit =
      (run none scan text).flush.found.reverse.take limit := by
  induction text generalizing scan with
  | nil => rfl
  | cons c rest ih =>
      cases hFull : scan.full (some limit) with
      | true =>
          have hStopped : (run (some limit) scan (c :: rest)).flush = scan := by
            rw [run, if_pos hFull, flush_of_nil (h hFull)]
          have hLength : limit ≤ scan.found.reverse.length := by simpa [full] using hFull
          obtain ⟨more, hMore⟩ := suffix_found_run scan (c :: rest)
          rw [hStopped, ← hMore, List.reverse_append, List.take_append_of_le_length hLength]
      | false =>
          have hGoesOn : run (some limit) scan (c :: rest) =
              run (some limit) (scan.step c rest) rest := by
            rw [run, if_neg (by simp [hFull])]
          rw [hGoesOn]
          exact ih (current_step_of_full hFull)

end Scan

/-- The terms of some segments: those in lower case, each of them where it occurs first. -/
def termsOf (segments : List (List Char)) : List String :=
  (segments.map lowered).eraseDups.map String.ofList

/-- The standard tokenizer gives the maximal segments of a text in lower case, each of them once and in the
order of their first occurrence, as many as the budget allows. So there are not more terms than that, no
two are alike, joiners stand singly between letters and digits, and a smaller budget cuts off terms at the
end. -/
theorem words_eq_take_segments (text : String) (budget : Int32) :
    ∃ segments, Segments [] text.toList segments ∧
      (∀ others, Segments [] text.toList others → others = segments) ∧
      (words text budget =
        if 0 < budget.toInt then (termsOf segments).take budget.toInt.toNat else termsOf segments) ∧
      (0 < budget.toInt → ((words text budget).length : Int) ≤ budget.toInt) ∧
      (words text budget).Nodup ∧ (∀ term ∈ words text budget, WellJoined term.toList) ∧
      ∀ unbounded : Int32, unbounded.toInt ≤ 0 → words text budget <+: words text unbounded := by
  have hStart : Detached [] text.toList := by simp [Detached]
  obtain ⟨segments, hSegments, hFound⟩ := Scan.exists_segments (.nothing hStart) []
  have hTerms : (Scan.run none ⟨[], []⟩ text.toList).flush.found.reverse =
      (segments.map lowered).eraseDups := by
    rw [← Scan.reverse_foldl_note, ← hFound]
    rfl
  have hWords : ∀ budget : Int32, words text budget =
      if 0 < budget.toInt then (termsOf segments).take budget.toInt.toNat else termsOf segments := by
    intro budget
    by_cases hBudget : 0 < budget.toInt
    · have hNotFull : Scan.full ⟨[], []⟩ (some budget.toInt.toNat) = true →
          (⟨[], []⟩ : Scan).current = [] := fun _ => rfl
      have hTake := Scan.take_run hNotFull text.toList
      rw [hTerms] at hTake
      rw [if_pos hBudget, termsOf, ← List.map_take, ← hTake]
      simp [words, limit?, terms, hBudget]
    · rw [if_neg hBudget, termsOf, ← hTerms]
      simp [words, limit?, terms, hBudget]
  have hAll : ∀ unbounded : Int32, unbounded.toInt ≤ 0 →
      words text unbounded = termsOf segments := by
    intro unbounded h
    rw [hWords, if_neg (by omega)]
  have hPrefix : ∀ budget : Int32, words text budget <+: termsOf segments := by
    intro budget
    rw [hWords]
    split
    · exact List.take_prefix _ _
    · exact List.prefix_refl _
  have hDistinct : (termsOf segments).Nodup := by
    apply List.Nodup.map _ (Scan.nodup_eraseDups _)
    intro a b h
    exact String.ofList_injective h
  refine ⟨segments, by simpa using hSegments, ?_, hWords budget, length_words_le text, ?_, ?_, ?_⟩
  · intro others hOthers
    exact Segments.unique (by simpa using hSegments) hOthers
  · exact hDistinct.sublist (hPrefix budget).sublist
  · intro term hTerm
    obtain ⟨chars, hChars, rfl⟩ := List.mem_map.mp ((hPrefix budget).subset hTerm)
    obtain ⟨segment, hSegment, rfl⟩ := List.mem_map.mp (List.mem_eraseDups.mp hChars)
    rw [String.toList_ofList]
    have hIsSegment : Segment segment := hSegments.isSegment hSegment
    exact hIsSegment.wellJoined_lowered
  · intro unbounded h
    rw [hAll unbounded h]
    exact hPrefix budget

end LogIngest.Keywords
