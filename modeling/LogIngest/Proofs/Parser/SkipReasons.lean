import LogIngest.Proofs.Parser.Stages

/-!
For which of its faults an entry is rejected. Main statement: in every strategy a blank part comes before a
timestamp that cannot be read, and that before anything else; what is left is malformed JSON, and a field
where fields are found one by one and failures are to reject the entry. Where errors are ignored, nothing is
left.
-/

namespace LogIngest

/-- The parts of an entry in the order in which they are checked. -/
def Argument.order : List Argument :=
  [.timestamp, .source, .host, .severity, .message]

def Argument.place : Argument → Nat
  | timestamp => 0
  | source => 1
  | host => 2
  | severity => 3
  | message => 4

theorem Argument.place_getElem_order :
    ∀ (index : Nat) (h : index < order.length), order[index].place = index := by
  decide

theorem Argument.getElem?_order_place (argument : Argument) :
    order[argument.place]? = some argument := by
  cases argument <;> rfl

namespace RawEntry

/-- Nothing is left of a part without the white space at its ends, and this holds of none before it. -/
structure FirstBlank (entry : RawEntry) (argument : Argument) : Prop where
  blank : trimmed (entry.argument argument) = ""
  earlier : ∀ other : Argument, other.place < argument.place → trimmed (entry.argument other) ≠ ""

/-- Every part has something in it besides white space. -/
def Filled (entry : RawEntry) : Prop :=
  ∀ argument, trimmed (entry.argument argument) ≠ ""

variable {entry : RawEntry}

theorem firstBlank_of_firstBlank? {argument : Argument} (h : entry.firstBlank? = some argument) :
    entry.FirstBlank argument := by
  obtain ⟨hBlank, index, hIndex, hFound, hBefore⟩ := List.find?_eq_some_iff_getElem.mp h
  have hPlace : argument.place = index := by
    rw [← hFound]
    exact Argument.place_getElem_order index hIndex
  refine ⟨trimmed_eq_empty_iff.mpr hBlank, ?_⟩
  intro other hOther hEmpty
  obtain ⟨_, hAt⟩ := List.getElem?_eq_some_iff.mp other.getElem?_order_place
  have hFilled := hBefore other.place (hPlace ▸ hOther)
  have hOrder : [Argument.timestamp, .source, .host, .severity, .message] = Argument.order := rfl
  simp only [hOrder, hAt, trimmed_eq_empty_iff.mp hEmpty] at hFilled
  cases hFilled

theorem filled_of_firstBlank? (h : entry.firstBlank? = none) : entry.Filled := by
  intro argument hEmpty
  have hNone := List.find?_eq_none.mp h argument (by cases argument <;> simp)
  exact hNone (trimmed_eq_empty_iff.mp hEmpty)

theorem checked_of_blank {argument : Argument} (hBlank : trimmed (entry.argument argument) = "") :
    ∃ first, entry.FirstBlank first ∧ entry.checked = .error (.blankArgument first) := by
  cases hFirst : entry.firstBlank? with
  | none => exact (filled_of_firstBlank? hFirst argument hBlank).elim
  | some first =>
      refine ⟨first, firstBlank_of_firstBlank? hFirst, ?_⟩
      simp only [checked, hFirst]

theorem checked_of_filled (hFilled : entry.Filled) :
    entry.checked =
      match Calendar.Timestamp.read? entry.timestamp.toList with
      | none => .error (.invalidTimestamp entry.timestamp)
      | some timestamp => .ok timestamp := by
  cases hFirst : entry.firstBlank? with
  | none =>
      cases hRead : Calendar.Timestamp.read? entry.timestamp.toList <;>
        simp only [checked, hFirst, hRead]
  | some first => exact (hFilled first (firstBlank_of_firstBlank? hFirst).blank).elim

end RawEntry

/-- Which reasons there are to reject an entry under a strategy and a policy, and which of them comes
first. -/
structure Precedence (strategy : Strategy) (policy : ErrorPolicy) (entry : RawEntry)
    (outcome : Outcome) : Prop where
  blank : ∀ argument, trimmed (entry.argument argument) = "" →
    ∃ first, entry.FirstBlank first ∧ outcome = .error (.blankArgument first)
  timestamp : entry.Filled → Calendar.Timestamp.read? entry.timestamp.toList = none →
    outcome = .error (.invalidTimestamp entry.timestamp)
  reasons : entry.Filled → ∀ timestamp,
    Calendar.Timestamp.read? entry.timestamp.toList = some timestamp →
      ∀ reason, outcome = .error reason →
        (∃ text, reason = .malformedJson text) ∨
          strategy.Fieldwise ∧ policy = .skipEntry ∧ ∃ field cause, reason = .field field cause
  ignoring : entry.Filled → ∀ timestamp,
    Calendar.Timestamp.read? entry.timestamp.toList = some timestamp →
      policy = .ignoreError → ∃ result, outcome = .ok result ∧ result.failures = []

/-- In every strategy the reasons to reject an entry come in the same order. -/
theorem Strategy.precedence_of_build {strategy : Strategy} {repository : RepositoryConfig}
    {parser : ParserConfig} {tokenizer : Tokenizer} {built : EntryParser}
    (hBuild : strategy.build repository parser tokenizer = .ok built) (entry : RawEntry) :
    Precedence strategy parser.policy entry (built.parse entry) := by
  have hGoverns := (conforms_of_build hBuild).governs_stages entry
  -- past the checks, only the stages can reject the entry, and the policy governs them
  have hParse : ∀ timestamp, entry.Filled →
      Calendar.Timestamp.read? entry.timestamp.toList = some timestamp →
        built.parse entry = (built.stages entry { timestamp }).map (built.core.finish entry) := by
    intro timestamp hFilled hTimestamp
    rw [EntryParser.parse_eq_stages, RawEntry.checked_of_filled hFilled, hTimestamp]
  refine ⟨?_, ?_, ?_, ?_⟩
  · intro argument hBlank
    obtain ⟨first, hFirst, hChecked⟩ := RawEntry.checked_of_blank hBlank
    exact ⟨first, hFirst, EntryParser.parse_of_checked_error built hChecked⟩
  · intro hFilled hTimestamp
    apply EntryParser.parse_of_checked_error
    rw [RawEntry.checked_of_filled hFilled, hTimestamp]
  · intro hFilled timestamp hTimestamp reason hReason
    rw [hParse timestamp hFilled hTimestamp] at hReason
    cases hStages : built.stages entry { timestamp } with
    | error fault =>
        rw [hStages] at hReason
        obtain rfl := Except.error.inj hReason
        exact hGoverns.reasons hStages
    | ok draft =>
        rw [hStages] at hReason
        cases hReason
  · intro hFilled timestamp hTimestamp hPolicy
    obtain ⟨draft, hStages, hNone⟩ := hGoverns.ignoring hPolicy { timestamp }
    refine ⟨built.core.finish entry draft, ?_, hNone⟩
    rw [hParse timestamp hFilled hTimestamp, hStages]
    rfl

/-- An entry that has every fault: a blank host, no timestamp, and neither the fields that came with it nor
a status in its message. -/
def RawEntry.faulty : RawEntry where
  timestamp := "yesterday"
  source := "proxy"
  host := "\t "
  severity := "info"
  fields := some "["
  message := "x|y"

theorem Strategy.precedence_of_build_faulty :
    ∃ built, delimited.build (.named "web") (.withPolicy .statusFirst .skipEntry) Keywords.words =
        .ok built ∧
      Precedence delimited .skipEntry .faulty (built.parse .faulty) ∧
      built.parse .faulty = .error (.blankArgument .host) := by
  obtain ⟨built, hBuild⟩ : ∃ built,
      delimited.build (.named "web") (.withPolicy .statusFirst .skipEntry) Keywords.words =
        .ok built := ⟨_, rfl⟩
  have hChecked : RawEntry.faulty.checked = .error (.blankArgument .host) := by rfl
  exact ⟨built, hBuild, precedence_of_build hBuild .faulty,
    EntryParser.parse_of_checked_error built hChecked⟩

end LogIngest
