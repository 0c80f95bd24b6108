import LogIngest.Proofs.Parser.Stages
import LogIngest.Repository

/-!
What a stored entry has from its envelope. Main statement: in every strategy source, host and message are
those that came in, timestamp and severity are read from theirs, and the keywords are the terms of the whole
message within the budget and one each for source, host and severity; so the keywords of an entry depend on
no setting of its parser but the budget.
-/

namespace LogIngest

theorem Keywords.derive_eq (tokenizer : Tokenizer) (message source host : String) (severity : Severity)
    (budget : Int32) :
    derive tokenizer message source host severity budget =
      tokenizer message budget ++ ["s=" ++ source, "h=" ++ host, "v=" ++ toString severity.code] :=
  rfl

theorem RawEntry.read?_of_checked {entry : RawEntry} {timestamp : Calendar.Instant}
    (h : entry.checked = .ok timestamp) :
    Calendar.Timestamp.read? entry.timestamp.toList = some timestamp := by
  unfold checked at h
  split at h
  · cases h
  · split at h
    · cases h
    · next hRead => rw [hRead, Except.ok.inj h]

/-- A stored entry is what came in: source, host and message as they are, timestamp and severity as they
read, and behind the terms of the message one keyword each for source, host and severity. -/
structure Result.Envelops (result : Result) (entry : RawEntry) (parser : String)
    (terms : List String) : Prop where
  source : result.entry.source = entry.source
  host : result.entry.host = entry.host
  message : result.entry.message = entry.message
  timestamp : Calendar.Timestamp.read? entry.timestamp.toList = some result.entry.timestamp
  severity : result.entry.severity = Severity.ofText (some entry.severity)
  parser : result.parser = parser
  keywords : result.entry.keywords =
    terms ++ ["s=" ++ entry.source, "h=" ++ entry.host,
      "v=" ++ toString (Severity.ofText (some entry.severity)).code]

theorem EntryParser.exists_draft_of_parse {parser : EntryParser} {entry : RawEntry} {result : Result}
    (h : parser.parse entry = .ok result) :
    ∃ timestamp draft, entry.checked = .ok timestamp ∧ parser.stages entry { timestamp } = .ok draft ∧
      parser.core.finish entry draft = result := by
  rw [parse_eq_stages] at h
  split at h
  · cases h
  · next timestamp hChecked =>
      obtain ⟨draft, hStages, hFinished⟩ := map_eq_ok h
      exact ⟨timestamp, draft, hChecked, hStages, hFinished⟩

namespace Strategy

variable {strategy : Strategy} {repository : RepositoryConfig} {parser : ParserConfig}
  {tokenizer : Tokenizer} {built : EntryParser} {entry : RawEntry} {result : Result}

theorem envelops_of_parse (hBuild : strategy.build repository parser tokenizer = .ok built)
    (hParse : built.parse entry = .ok result) :
    result.Envelops entry parser.name
      (tokenizer entry.message (parser.maxKeywords.getD repository.maxKeywords)) := by
  have hConforms := conforms_of_build hBuild
  obtain ⟨timestamp, draft, hChecked, hStages, rfl⟩ := EntryParser.exists_draft_of_parse hParse
  -- no stage touches the timestamp that the checks have read
  have hTimestamp : draft.timestamp = timestamp := (hConforms.governs_stages entry).timestamp hStages
  refine ⟨rfl, rfl, rfl, ?_, rfl, hConforms.settings.name, ?_⟩
  · rw [RawEntry.read?_of_checked hChecked, ← hTimestamp]
    rfl
  · rw [← hConforms.settings.tokenizer, ← hConforms.settings.maxKeywords]
    exact Keywords.derive_eq _ _ _ _ _ _

/-- In every strategy a stored entry is what came in, with the terms of its message within the budget. Any
two parsers with the same budget give it the same keywords, and with the standard tokenizer there are at most
three more of them than a positive budget allows. -/
theorem envelope_and_keywords_of_parse (hBuild : strategy.build repository parser tokenizer = .ok built)
    (hParse : built.parse entry = .ok result) :
    result.Envelops entry parser.name
        (tokenizer entry.message (parser.maxKeywords.getD repository.maxKeywords)) ∧
      (∀ otherStrategy otherRepository otherParser other otherResult,
        build otherStrategy otherRepository otherParser tokenizer = .ok other →
          other.parse entry = .ok otherResult →
            otherParser.maxKeywords.getD otherRepository.maxKeywords =
              parser.maxKeywords.getD repository.maxKeywords →
                otherResult.entry.keywords = result.entry.keywords) ∧
      (tokenizer = Keywords.words → 0 < (parser.maxKeywords.getD repository.maxKeywords).toInt →
        (result.entry.keywords.length : Int) ≤
          (parser.maxKeywords.getD repository.maxKeywords).toInt + 3) := by
  have hEnvelops := envelops_of_parse hBuild hParse
  refine ⟨hEnvelops, ?_, ?_⟩
  · intro otherStrategy otherRepository otherParser other otherResult hOther hOtherParse hBudget
    have hOtherEnvelops := envelops_of_parse hOther hOtherParse
    rw [hOtherEnvelops.keywords, hEnvelops.keywords, hBudget]
  · rintro rfl hBudget
    have hTerms := Keywords.length_words_le entry.message hBudget
    rw [hEnvelops.keywords, List.length_append]
    simp only [List.length_cons, List.length_nil]
    omega

end Strategy

/-- The parser of entries to which no other applies is one of the configured ones. -/
theorem Registry.build_fallback (registry : Registry) (repository : String) (budget : Int32) :
    Strategy.default.build { name := repository, maxKeywords := budget } { name := "default" }
      registry.tokenizer = .ok (registry.fallback repository budget) :=
  rfl

def RawEntry.padded : RawEntry where
  timestamp := " 2024-01-15T10:30:00.000Z"
  source := "proxy "
  host := " web-1"
  severity := " 4 "
  message := " GET|200 "

/-- The message has one term more than the budget of the parser allows. The parser of another repository,
which looks for no fields but has the same budget, gives the entry the same keywords. -/
theorem Strategy.envelope_and_keywords_padded :
    ∃ built result otherResult,
      delimited.build (.named "web") (.withMaxKeywords .statusFirst 1) Keywords.words = .ok built ∧
        built.parse .padded = .ok result ∧
        (Registry.fallback {} "app" 1).parse .padded = .ok otherResult ∧
        result.Envelops .padded "access" (Keywords.words " GET|200 " 1) ∧
        otherResult.entry.keywords = result.entry.keywords ∧
        (result.entry.keywords.length : Int) ≤ 1 + 3 := by
  have hRun : ((delimited.build (.named "web") (.withMaxKeywords .statusFirst 1)
      Keywords.words).toOption.bind fun built =>
        (built.parse .padded).toOption.map fun result => result.entry.keywords) =
      some ["get", "s=proxy ", "h= web-1", "v=4"] := by
    decide +kernel
  have hFallback : ((Registry.fallback {} "app" 1).parse .padded).toOption.isSome = true := by
    decide +kernel
  obtain ⟨built, hBuilt, hRun⟩ := Option.bind_eq_some_iff.mp hRun
  obtain ⟨result, hResult, -⟩ := Option.map_eq_some_iff.mp hRun
  obtain ⟨otherResult, hOther⟩ := Option.isSome_iff_exists.mp hFallback
  have hBuild := eq_ok_of_toOption hBuilt
  have hParse := eq_ok_of_toOption hResult
  have hOtherParse := eq_ok_of_toOption hOther
  obtain ⟨hEnvelops, hSame, hLength⟩ := envelope_and_keywords_of_parse hBuild hParse
  exact ⟨built, result, otherResult, hBuild, hParse, hOtherParse, hEnvelops,
    hSame _ _ _ _ _ (Registry.build_fallback {} "app" 1) hOtherParse rfl, hLength rfl (by decide)⟩

end LogIngest
