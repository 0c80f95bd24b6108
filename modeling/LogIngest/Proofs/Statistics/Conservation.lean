import LogIngest.Proofs.Statistics.Splitting

/-!
What all statistics have in common that come about by recording and merging. Merged statistics are those
of all outcomes recorded one after another, so what recording an outcome keeps is kept by merging as well.
Main statement: every entry is counted once as stored or skipped and once in a tally, and the times are in
order, also when their sum has reached the longest time there is.
-/

namespace LogIngest

/-- The counts of a tally make up a number, and no name is listed for nothing. -/
structure Tally.SumsTo (tally : Tally) (n : Nat) : Prop where
  sum : tally.values.sum = n
  positive : ∀ count ∈ tally.values, 0 < count

/-- Times of so many entries: there is a shortest one as soon as there is an entry, no time is longer than
the longest, nor that longer than all together, and the average is that of the total. -/
structure Timing.Ordered (timing : Timing) (entries : Nat) : Prop where
  least_eq_none_iff : timing.least = none ↔ entries = 0
  least_le_most : ∀ least, timing.least = some least → least ≤ timing.most
  most_le_total : timing.most ≤ timing.total
  average : timing.average =
    if entries = 0 then 0 else Float.ofNat timing.total.micros / Float.ofNat entries

namespace Statistics

/-- Statistics that come about by recording outcomes and by merging. -/
inductive Reachable : Statistics → Prop where
  | fresh : Reachable {}
  | recordStored {statistics : Statistics} (h : Reachable statistics) (result : Result) :
      Reachable (statistics.recordStored result)
  | recordSkipped {statistics : Statistics} (h : Reachable statistics) (reason : SkipReason)
      (elapsed : Duration) : Reachable (statistics.recordSkipped reason elapsed)
  | record {statistics : Statistics} (h : Reachable statistics) (outcome : Outcome)
      (elapsed : Duration) : Reachable (statistics.record outcome elapsed)
  | merge {ours theirs : Statistics} (hOurs : Reachable ours) (hTheirs : Reachable theirs) :
      Reachable (ours.merge theirs)

/-- Each entry is counted once as stored or skipped, once in the tally of its parser or its reason, and as
a violation of the contract if its reason is one; and the times are in order. -/
structure Conserved (statistics : Statistics) : Prop where
  total : statistics.total = statistics.stored + statistics.skipped
  parsers : statistics.parsers.SumsTo statistics.stored
  reasons : statistics.reasons.SumsTo statistics.skipped
  contractViolations : statistics.contractViolations = statistics.reasons.count "BlankArgument"
  timing : statistics.timing.Ordered statistics.total

end Statistics

/-! ### What recording keeps -/

theorem sum_insertPair (key : String) (n : Nat) {pairs : List (String × Nat)} (h : Ascending pairs) :
    ((insertPair key n pairs).map Prod.snd).sum + (pairs.lookup key).getD 0 =
      (pairs.map Prod.snd).sum + n := by
  induction pairs with
  | nil => simp [insertPair]
  | cons pair rest ih =>
      obtain ⟨k, m⟩ := pair
      obtain ⟨hFirst, hRest⟩ := List.pairwise_cons.mp h
      unfold insertPair
      split
      · next hBefore =>
          -- the name is new, since all names from here on come after it
          have hAbsent : ((k, m) :: rest).lookup key = none := by
            rw [List.lookup_eq_none_iff]
            intro p hp
            have hLater : key < p.1 := by
              rcases List.mem_cons.mp hp with rfl | hMore
              · exact hBefore
              · exact String.lt_trans hBefore (hFirst p hMore)
            exact bne_iff_ne.mpr fun he => String.lt_irrefl key (he ▸ hLater)
          rw [hAbsent, List.map_cons, List.sum_cons]
          simp only [Option.getD_none]
          omega
      · split
        · next hAfter =>
            have hOther : (key == k) = false :=
              beq_false_of_ne fun he => String.lt_irrefl k (he ▸ hAfter)
            have hSum := ih hRest
            rw [List.lookup_cons, hOther]
            simp only [List.map_cons, List.sum_cons]
            omega
        · next hNotBefore hNotAfter =>
            have hSame : (key == k) = true := beq_iff_eq.mpr (eq_of_not_lt hNotBefore hNotAfter)
            rw [List.lookup_cons, hSame]
            simp only [List.map_cons, List.sum_cons, Option.getD_some]
            omega

theorem Tally.sum_add (tally : Tally) (name : String) (n : Nat) :
    (tally.add name n).values.sum = tally.values.sum + n := by
  have hSum := sum_insertPair name ((tally.get? name).getD 0 + n) tally.ascending
  have hLookup : tally.entries.lookup name = tally.get? name := rfl
  rw [hLookup] at hSum
  change ((insertPair name ((tally.get? name).getD 0 + n) tally.entries).map Prod.snd).sum =
    (tally.entries.map Prod.snd).sum + n
  omega

theorem Tally.SumsTo.note {tally : Tally} {n : Nat} (h : tally.SumsTo n) (name : Option String) :
    (tally.note name).SumsTo (n + if name.isSome then 1 else 0) := by
  cases name with
  | none => exact h
  | some name =>
      refine ⟨?_, ?_⟩
      · rw [Tally.note, Tally.sum_add, h.sum]
        rfl
      · intro count hCount
        obtain ⟨pair, hPair, rfl⟩ := List.mem_map.mp hCount
        rcases mem_insertPair hPair with rfl | hOld
        · exact Nat.succ_pos _
        · exact h.positive pair.2 (List.mem_map_of_mem hOld)

theorem Timing.ordered_fresh : Timing.Ordered {} 0 :=
  ⟨⟨fun _ => rfl, fun _ => rfl⟩, nofun, Nat.le_refl 0, rfl⟩

theorem Timing.Ordered.sample {timing : Timing} {entries : Nat} (h : timing.Ordered entries)
    (elapsed : Duration) : (timing.sample elapsed (entries + 1)).Ordered (entries + 1) := by
  refine ⟨?_, ?_, ?_, rfl⟩
  · cases hLeast : timing.least <;> simp [Timing.sample, Timing.lesser?, hLeast]
  · intro least hLeast
    cases hBefore : timing.least with
    | none =>
        simp only [Timing.sample, Timing.lesser?, hBefore, Option.some.injEq] at hLeast
        simp only [Timing.sample, Duration.le_iff, Duration.micros_max, ← hLeast]
        omega
    | some before =>
        have hOrder := h.least_le_most before hBefore
        simp only [Timing.sample, Timing.lesser?, hBefore, Option.some.injEq] at hLeast
        simp only [Timing.sample, Duration.le_iff, Duration.micros_max, Duration.micros_min,
          ← hLeast] at hOrder ⊢
        omega
  · -- a sum that has reached the longest time there is remains as long as each of its parts
    have hOrder := h.most_le_total
    have hTotal := timing.total.micros_le
    have hElapsed := elapsed.micros_le
    simp only [Timing.sample, Duration.le_iff, Duration.micros_max, Duration.micros_add] at hOrder ⊢
    omega

namespace Statistics

theorem conserved_fresh : Conserved {} :=
  ⟨rfl, ⟨rfl, nofun⟩, ⟨rfl, nofun⟩, rfl, Timing.ordered_fresh⟩

theorem Sample.stored_or_skipped (sample : Sample) :
    (if sample.parser?.isSome then 1 else 0) + (if sample.reason?.isSome then 1 else 0) = 1 := by
  obtain ⟨outcome, elapsed⟩ := sample
  cases outcome <;> rfl

theorem Conserved.record {statistics : Statistics} (h : statistics.Conserved) (sample : Sample) :
    (statistics.record sample.1 sample.2).Conserved := by
  rw [record_eq]
  refine ⟨?_, h.parsers.note _, h.reasons.note _, ?_, h.timing.sample sample.time⟩
  · have hTotal := h.total
    have hSample := sample.stored_or_skipped
    simp only
    omega
  · rw [Tally.count_note, h.contractViolations]

theorem conserved_ofSamples (samples : List Sample) : (ofSamples samples).Conserved := by
  induction samples with
  | nil => exact conserved_fresh
  | cons sample rest ih =>
      rw [ofSamples_cons]
      exact ih.record sample

/-- Merging leads to nothing that recording does not lead to. -/
theorem Reachable.exists_samples {statistics : Statistics} (h : statistics.Reachable) :
    ∃ samples, statistics = .ofSamples samples := by
  induction h with
  | fresh => exact ⟨[], rfl⟩
  | recordStored _ result ih =>
      obtain ⟨samples, rfl⟩ := ih
      exact ⟨(.ok result, 0) :: samples, (ofSamples_cons (.ok result, 0) samples).symm⟩
  | recordSkipped _ reason elapsed ih =>
      obtain ⟨samples, rfl⟩ := ih
      exact ⟨(.error reason, elapsed) :: samples,
        (ofSamples_cons (.error reason, elapsed) samples).symm⟩
  | record _ outcome elapsed ih =>
      obtain ⟨samples, rfl⟩ := ih
      exact ⟨(outcome, elapsed) :: samples, (ofSamples_cons (outcome, elapsed) samples).symm⟩
  | merge _ _ hOurs hTheirs =>
      obtain ⟨ours, rfl⟩ := hOurs
      obtain ⟨theirs, rfl⟩ := hTheirs
      exact ⟨ours ++ theirs, merge_ofSamples ours theirs⟩

/-- Whatever was recorded and merged, the counts belong together and the times are in order. -/
theorem conserved_of_reachable {statistics : Statistics} (h : statistics.Reachable) :
    statistics.Conserved := by
  obtain ⟨samples, rfl⟩ := h.exists_samples
  exact conserved_ofSamples samples

/-- Statistics of two workers, one of which has already spent the longest time there is. -/
def worn : Statistics :=
  (recordSkipped {} (.blankArgument .host) (.ofMicros 18446744073709551615)).merge
    ((recordSkipped {} (.malformedJson "expected value at line 1 column 1") (.ofMicros 7)).record
      (.error (.blankArgument .message)) (.ofMicros 3))

theorem conserved_of_reachable_worn :
    worn.Reachable ∧ worn.timing.total = .ofMicros 18446744073709551615 ∧ worn.total = 3 ∧
      worn.Conserved := by
  have hReachable : worn.Reachable :=
    .merge (.recordSkipped .fresh _ _) (.record (.recordSkipped .fresh _ _) _ _)
  exact ⟨hReachable, by decide, rfl, conserved_of_reachable hReachable⟩

end Statistics
end LogIngest
