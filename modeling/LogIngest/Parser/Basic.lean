import LogIngest.Entry.Basic
import LogIngest.Json.Reader
import LogIngest.Keywords
import LogIngest.Parser.Filter

/-!
Parsers of entries. They differ in how they find fields in the message; what comes before and after
that is common to all.
-/

namespace LogIngest

open Calendar (Instant)

/-- An entry that is being parsed: what has been found so far, and what has failed. -/
structure Draft where
  timestamp : Instant
  fields : Dictionary FieldValue := ∅
  failures : List FieldFailure := []

namespace Draft

/-- Stores the value of a field in place of one that is there. -/
def store (draft : Draft) (field : String) (value : FieldValue) : Draft :=
  { draft with fields := draft.fields.insert field value }

/-- Stores the values of several fields, later ones in place of earlier ones. -/
def storeAll (draft : Draft) (fields : List (String × FieldValue)) : Draft :=
  fields.foldl (fun draft (field, value) => draft.store field value) draft

end Draft

namespace ErrorPolicy

/-- What becomes of a draft when a field fails. -/
def onFieldError (policy : ErrorPolicy) (draft : Draft) (field : String) (error : FieldError) :
    Except SkipReason Draft :=
  match policy with
  | skipField => .ok { draft with failures := draft.failures ++ [⟨field, error⟩] }
  | skipEntry => .error (.field field error)
  | ignoreError => .ok draft

/-- What becomes of a draft when a JSON text is malformed. There is no single field to leave out, so
the entry is rejected unless errors are ignored. -/
def onJsonError (policy : ErrorPolicy) (draft : Draft) (reason : String) : Except SkipReason Draft :=
  match policy with
  | skipField | skipEntry => .error (.malformedJson reason)
  | ignoreError => .ok draft

/-- Stores the value of a field, or does what the policy says when there is none. -/
def applyField (policy : ErrorPolicy) (draft : Draft) (field : String)
    (outcome : Except FieldError FieldValue) : Except SkipReason Draft :=
  match outcome with
  | .ok value => .ok (draft.store field value)
  | .error error => policy.onFieldError draft field error

/-- Stores the values of several fields one after the other. -/
def applyFields (policy : ErrorPolicy) (draft : Draft)
    (outcomes : List (String × Except FieldError FieldValue)) : Except SkipReason Draft :=
  outcomes.foldlM (fun draft (field, outcome) => policy.applyField draft field outcome) draft

end ErrorPolicy

/-- What all parsers have. -/
structure ParserCore where
  name : String
  repository : String
  /-- The identifier of the strategy. -/
  kind : String
  applicability : Applicability
  maxKeywords : Int32
  policy : ErrorPolicy
  tokenizer : Tokenizer

namespace ParserCore

/-- The core of a configured parser. -/
def ofConfig (repository : RepositoryConfig) (parser : ParserConfig) (kind : String)
    (tokenizer : Tokenizer) : Except SetupError ParserCore := do
  let applicability ← Applicability.ofConfig parser
  return {
    name := parser.name
    repository := repository.name
    kind
    applicability
    maxKeywords := repository.budget parser
    policy := parser.policy
    tokenizer }

/-- The fields that came with an entry, stored in a draft. -/
def storeGiven (core : ParserCore) (draft : Draft) (fields : String) : Except SkipReason Draft :=
  match Json.Value.read fields.toList with
  | .ok (.object members) => .ok (draft.storeAll (FieldValue.ofJsonMembers members))
  | .ok other =>
    let kind := other.kind
    core.policy.onJsonError draft s!"pre-parsed fields must be a JSON object, found {kind}"
  | .error fault =>
    let reason := fault.message fields.toList
    core.policy.onJsonError draft s!"pre-parsed fields: {reason}"

/-- Checks an entry and starts a draft: no part is blank, the timestamp can be read, and the fields
that came with the entry are stored. -/
def prepare (core : ParserCore) (entry : RawEntry) : Except SkipReason Draft :=
  match entry.firstBlank? with
  | some argument => .error (.blankArgument argument)
  | none =>
    match Calendar.Timestamp.read? entry.timestamp.toList with
    | none => .error (.invalidTimestamp entry.timestamp)
    | some timestamp =>
      match entry.fields.filter fun fields => !blank fields with
      | none => .ok { timestamp }
      | some fields => core.storeGiven { timestamp } fields

/-- The result of a finished draft. -/
def finish (core : ParserCore) (entry : RawEntry) (draft : Draft) : Result :=
  let severity := Severity.ofText (some entry.severity)
  { entry := {
      timestamp := draft.timestamp
      source := entry.source
      host := entry.host
      severity
      message := entry.message
      keywords := Keywords.derive core.tokenizer entry.message entry.source entry.host severity
        core.maxKeywords
      fields := draft.fields }
    failures := draft.failures
    parser := core.name }

end ParserCore

/-- A parser: what it has in common with others, and how it finds fields in the message of an entry. -/
structure EntryParser where
  core : ParserCore
  extract : (message : String) → Draft → Except SkipReason Draft

namespace EntryParser

def name (parser : EntryParser) : String :=
  parser.core.name

def kind (parser : EntryParser) : String :=
  parser.core.kind

def appliesTo (parser : EntryParser) (source host : String) : Bool :=
  parser.core.applicability.holds source host

/-- Parses an entry. -/
def parse (parser : EntryParser) (entry : RawEntry) : Outcome := do
  let draft ← parser.core.prepare entry
  let draft ← parser.extract entry.message draft
  return parser.core.finish entry draft

/-- A parser that finds no fields in messages. -/
def passThrough (core : ParserCore) : EntryParser where
  core := core
  extract _ draft := .ok draft

end EntryParser
end LogIngest
