import LogIngest.Proofs.Parser.Registration
import LogIngest.Proofs.Parser.SettingFaults

/-!
What identifiers stand for: the strategy that was last registered under them, or one that needs no registration.
Main statement: looking an identifier up and building a parser with it agree on this, after any registrations;
so an identifier is unknown exactly when building a parser with it fails because it is not found.
-/

namespace LogIngest

/-! ### Aliases -/

/-- White space around a name does not count. -/
theorem foldedName_trimmed (name : String) : foldedName (trimmed name) = foldedName name := by
  have hTrim : Text.trim (trimmed name).toList = Text.trim name.toList := by
    rw [trimmed, String.toList_ofList, Text.trim_trim]
  rw [foldedName, hTrim, foldedName]

namespace Strategy

variable {strategy other : Strategy} {id : String}

/-- No strategy is left out of the list. -/
theorem mem_all (strategy : Strategy) : strategy ∈ all := by
  cases strategy <;> decide

/-- No two strategies have an alias in common. -/
theorem eq_of_mem_aliases {name : String} (h : name ∈ strategy.aliases) (hOther : name ∈ other.aliases) :
    strategy = other := by
  have hDisjoint : ∀ strategy ∈ all, ∀ other ∈ all, ∀ name ∈ strategy.aliases, name ∈ other.aliases →
      strategy = other := by
    decide +kernel
  exact hDisjoint strategy (mem_all strategy) other (mem_all other) name h hOther

theorem mem_aliases_of_ofId? (h : ofId? id = some strategy) : foldedName id ∈ strategy.aliases := by
  rw [ofId?] at h
  have hContains := List.find?_some h
  exact List.contains_iff_mem.mp hContains

/-- An identifier stands for the strategy that has it among its aliases. -/
theorem ofId?_eq_some_iff : ofId? id = some strategy ↔ foldedName id ∈ strategy.aliases := by
  refine ⟨mem_aliases_of_ofId?, fun hAlias => ?_⟩
  cases hFound : ofId? id with
  | none =>
      rw [ofId?, List.find?_eq_none] at hFound
      exact absurd (List.contains_iff_mem.mpr hAlias) (hFound strategy (mem_all strategy))
  | some other => rw [eq_of_mem_aliases hAlias (mem_aliases_of_ofId? hFound)]

/-- An identifier that is no alias stands for none. -/
theorem ofId?_eq_none_iff : ofId? id = none ↔ ∀ strategy : Strategy, foldedName id ∉ strategy.aliases := by
  rw [Option.eq_none_iff_forall_ne_some]
  exact forall_congr' fun strategy => not_congr ofId?_eq_some_iff

theorem ofId?_trimmed (id : String) : ofId? (trimmed id) = ofId? id := by
  rw [ofId?, foldedName_trimmed, ofId?]

end Strategy

/-! ### Meanings -/

namespace Registry

/-- What an identifier can stand for. -/
inductive Meaning where
  /-- A strategy that was registered. -/
  | extension (constructor : Constructor)
  /-- A strategy that needs no registration. -/
  | builtIn (strategy : Strategy)
  | nothing

namespace Meaning

/-- Builds a parser that is configured with an identifier of this meaning. What goes wrong in a registered
strategy is told apart from what goes wrong here. -/
def build (meaning : Meaning) (repository : RepositoryConfig) (parser : ParserConfig) (tokenizer : Tokenizer) :
    Except SetupError EntryParser :=
  match meaning with
  | extension constructor =>
    (constructor repository parser tokenizer).mapError (.instantiationFailed (trimmed parser.strategy))
  | builtIn strategy => strategy.build repository parser tokenizer
  | nothing => .error (.parserNotFound (trimmed parser.strategy))

/-- Only what stands for nothing is not found, whatever registered strategies fail with. -/
theorem build_eq_parserNotFound_iff {meaning : Meaning} {repository : RepositoryConfig} {parser : ParserConfig}
    {tokenizer : Tokenizer} {missing : String} :
    meaning.build repository parser tokenizer = .error (.parserNotFound missing) ↔
      meaning = .nothing ∧ missing = trimmed parser.strategy := by
  cases meaning with
  | extension constructor =>
      rw [build]
      cases constructor repository parser tokenizer <;> simp [Except.mapError]
  | builtIn strategy =>
      refine iff_of_false (fun hMissing => ?_) nofun
      exact strategy.failsOnly_build repository parser tokenizer _ hMissing
  | nothing =>
      rw [build]
      simp [eq_comm]

end Meaning

/-- What an identifier stands for after some registrations. White space at its ends does not count, and a
strategy that was registered is asked for by exactly what is left; the others have aliases. -/
inductive StandsFor (registrations : List (String × Constructor)) (id : String) : Meaning → Prop where
  | extension {constructor : Constructor} {earlier later : List (String × Constructor)}
      (h : registrations = earlier ++ (trimmed id, constructor) :: later)
      (hLater : ∀ registration ∈ later, registration.1 ≠ trimmed id) :
      StandsFor registrations id (.extension constructor)
  | builtIn {strategy : Strategy} (hNone : ∀ registration ∈ registrations, registration.1 ≠ trimmed id)
      (hAlias : foldedName id ∈ strategy.aliases) : StandsFor registrations id (.builtIn strategy)
  | nothing (hNone : ∀ registration ∈ registrations, registration.1 ≠ trimmed id)
      (hNoAlias : ∀ strategy : Strategy, foldedName id ∉ strategy.aliases) : StandsFor registrations id .nothing

/-- The last registration under an identifier, if there is one. -/
theorem exists_last_registration (id : String) (registrations : List (String × Constructor)) :
    (∀ registration ∈ registrations, registration.1 ≠ id) ∨
      ∃ earlier constructor later, registrations = earlier ++ (id, constructor) :: later ∧
        ∀ registration ∈ later, registration.1 ≠ id := by
  induction registrations with
  | nil => exact .inl nofun
  | cons first rest ih =>
      rcases ih with hNone | ⟨earlier, constructor, later, rfl, hLater⟩
      · obtain ⟨name, constructor⟩ := first
        by_cases hName : name = id
        · subst hName
          exact .inr ⟨[], constructor, rest, rfl, hNone⟩
        · exact .inl (List.forall_mem_cons.mpr ⟨hName, hNone⟩)
      · exact .inr ⟨first :: earlier, constructor, later, rfl, hLater⟩

/-- Every identifier has a meaning, though that may be nothing. -/
theorem exists_standsFor (registrations : List (String × Constructor)) (id : String) :
    ∃ meaning, StandsFor registrations id meaning := by
  rcases exists_last_registration (trimmed id) registrations with hNone | ⟨_, _, _, hLast, hLater⟩
  · by_cases hAlias : ∃ strategy : Strategy, foldedName id ∈ strategy.aliases
    · obtain ⟨strategy, hAlias⟩ := hAlias
      exact ⟨_, .builtIn hNone hAlias⟩
    · exact ⟨_, .nothing hNone (not_exists.mp hAlias)⟩
  · exact ⟨_, .extension hLast hLater⟩

/-! ### Lookups -/

/-- The meaning of an identifier in a registry. -/
def meaning (registry : Registry) (id : String) : Meaning :=
  match registry.extension? id, Strategy.ofId? id with
  | some constructor, _ => .extension constructor
  | none, some strategy => .builtIn strategy
  | none, none => .nothing

/-- An identifier that is unknown means nothing. -/
theorem isRegistered_eq_false_iff {registry : Registry} {id : String} :
    registry.isRegistered id = false ↔ registry.meaning id = .nothing := by
  rw [isRegistered, meaning]
  cases registry.extension? id <;> cases Strategy.ofId? id <;> simp

/-- A parser is built by the meaning of its identifier. -/
theorem build_eq_build_meaning (registry : Registry) (repository : RepositoryConfig) (parser : ParserConfig) :
    registry.build repository parser =
      (registry.meaning parser.strategy).build repository parser registry.tokenizer := by
  rw [build, Strategy.ofId?_trimmed, meaning]
  cases registry.extension? parser.strategy <;> cases Strategy.ofId? parser.strategy <;> rfl

/-- The last registration of an identifier counts. -/
theorem extension?_last {earlier later : List (String × Constructor)} {id : String}
    (hLater : ∀ registration ∈ later, registration.1 ≠ trimmed id) (registry : Registry)
    (constructor : Constructor) :
    (registry.registerAll (earlier ++ (trimmed id, constructor) :: later)).extension? id = some constructor := by
  have hRun : registry.registerAll (earlier ++ (trimmed id, constructor) :: later) =
      ((registry.registerAll earlier).register (trimmed id) constructor).registerAll later :=
    List.foldl_append
  rw [hRun, extension?_registerAll hLater, extension?_register, if_pos rfl]

/-- A registry finds out what an identifier stands for. -/
theorem meaning_of_standsFor {registrations : List (String × Constructor)} {id : String} {meaning : Meaning}
    (h : StandsFor registrations id meaning) (tokenizer : Tokenizer) :
    (registerAll { tokenizer } registrations).meaning id = meaning := by
  have hUnregistered : (∀ registration ∈ registrations, registration.1 ≠ trimmed id) →
      (registerAll { tokenizer } registrations).extension? id = none := by
    intro hNone
    rw [extension?_registerAll hNone]
    rfl
  cases h with
  | extension h hLater => rw [Registry.meaning, h, extension?_last hLater]
  | builtIn hNone hAlias =>
      rw [Registry.meaning, hUnregistered hNone, Strategy.ofId?_eq_some_iff.mpr hAlias]
  | nothing hNone hNoAlias =>
      rw [Registry.meaning, hUnregistered hNone, Strategy.ofId?_eq_none_iff.mpr hNoAlias]

/-- Building a parser and looking its identifier up both go by what the identifier stands for. -/
structure GoesBy (registry : Registry) (repository : RepositoryConfig) (parser : ParserConfig)
    (meaning : Meaning) : Prop where
  built : registry.build repository parser = meaning.build repository parser registry.tokenizer
  unregistered : registry.isRegistered parser.strategy = false ↔ meaning = .nothing
  notFound : ∀ missing, registry.build repository parser = .error (.parserNotFound missing) ↔
    registry.isRegistered parser.strategy = false ∧ missing = trimmed parser.strategy

/-- A registry goes by the meaning of each identifier. -/
theorem goesBy_meaning (registry : Registry) (repository : RepositoryConfig) (parser : ParserConfig) :
    registry.GoesBy repository parser (registry.meaning parser.strategy) := by
  refine ⟨build_eq_build_meaning registry repository parser, isRegistered_eq_false_iff, fun missing => ?_⟩
  rw [build_eq_build_meaning, Meaning.build_eq_parserNotFound_iff, isRegistered_eq_false_iff]

/-- After any registrations, every identifier stands for one thing, by which both go. -/
theorem exists_goesBy (tokenizer : Tokenizer) (registrations : List (String × Constructor))
    (repository : RepositoryConfig) (parser : ParserConfig) :
    ∃ meaning, (∀ other, StandsFor registrations parser.strategy other ↔ other = meaning) ∧
      (registerAll { tokenizer } registrations).GoesBy repository parser meaning := by
  obtain ⟨meaning, hStands⟩ := exists_standsFor registrations parser.strategy
  have hMeaning := meaning_of_standsFor hStands tokenizer
  refine ⟨meaning, fun other => ⟨fun hOther => ?_, ?_⟩, ?_⟩
  · rw [← meaning_of_standsFor hOther tokenizer, hMeaning]
  · rintro rfl
    exact hStands
  · rw [← hMeaning]
    exact goesBy_meaning _ repository parser

end Registry
end LogIngest
