import LogIngest.Proofs.Entry.Envelopes
import LogIngest.Proofs.Parser.Documents
import LogIngest.Proofs.Parser.SkipReasons

/-!
Fields that come with an entry as an object. On the way the object is written into a text, and the text is
read again. Main statement: if the numbers of the object are whole numbers of 64 bits, nothing is lost on that
way, and the same fields are found where the object is sent as a text in the first place.
-/

namespace LogIngest

open Json
open Calendar (Instant)

/-! ### Objects in envelopes -/

namespace Envelope

theorem getD_fields_of_finish {draft : Draft} {received : Envelope} (h : record.finish draft = .ok received) :
    received.fields = draft.fields.getD none := by
  obtain ⟨_, -, h⟩ := bind_eq_ok h
  obtain ⟨_, -, h⟩ := bind_eq_ok h
  obtain ⟨_, -, h⟩ := bind_eq_ok h
  obtain ⟨_, -, ⟨⟩⟩ := bind_eq_ok h
  rfl

/-- The fields in an envelope are nested one level less than a document may be. -/
theorem formed_of_run {line : List Char} {received : Envelope} (h : decoder.run line = .ok received) {v : Value}
    (hFields : received.fields = some v) : v.Formed 126 := by
  have hKeeps : Record.Keeps record.members 126 fun draft : Draft =>
      ∀ v, draft.fields = some (some v) → v.Formed 126 := by
    intro member hMember draft next text rest hDraft hRead
    simp only [record, List.mem_cons, List.not_mem_nil, or_false] at hMember
    rcases hMember with rfl | rfl | rfl | rfl | rfl | rfl <;>
      obtain ⟨_, hValue, rfl⟩ := Member.exists_of_read hRead
    case inr.inr.inr.inr.inl =>
      rintro v ⟨⟩
      obtain ⟨_, hRead⟩ := Decoder.exists_of_option hValue
      exact formed_of_readValue hRead
    all_goals exact hDraft
  obtain ⟨rest, hRead, -⟩ := readWhole_eq_ok_iff.mp h
  obtain ⟨draft, hDraft, hFinish⟩ := hKeeps.exists_draft (by rintro v ⟨⟩) hRead
  rw [getD_fields_of_finish hFinish] at hFields
  cases hDrafted : draft.fields with
  | none =>
      rw [hDrafted] at hFields
      cases hFields
  | some fields =>
      rw [hDrafted] at hFields
      exact hDraft v (hDrafted.trans (congrArg some hFields))

/-- The fields of an envelope are an object, as such or as its text. -/
def Carries (envelope : Envelope) (members : List (String × Value)) : Prop :=
  envelope.fields = some (.object members) ∨ envelope.fields = some (.string (Value.object members).text)

theorem Carries.fields_toEntry {envelope : Envelope} {members : List (String × Value)}
    (h : envelope.Carries members) : envelope.toEntry.fields = some (Value.object members).text := by
  rcases h with h | h <;> rw [toEntry, h] <;> rfl

/-- There is a line for any fields that are nested no deeper. -/
theorem exists_run_of_formed {members : List (String × Value)} (hFormed : (Value.object members).Formed 126)
    (hNumbers : (Value.object members).Numbers (Number.IsWhole .int64)) :
    ∃ line received, decoder.run line = .ok received ∧ received.fields = some (.object members) := by
  let sent : Envelope :=
    { timestamp := "", source := "", host := "", severity := .null, fields := some (.object members), message := "" }
  have hMade : sent.IsMadeOf [("timestamp", .string ""), ("source", .string ""), ("host", .string ""),
      ("fields", .object members), ("message", .string "")] := by
    refine ⟨?_, rfl, rfl, rfl, rfl, rfl, rfl⟩
    change ∀ member ∈ record.members, ["timestamp", "source", "host", "fields", "message"].count member.key ≤ 1
    decide
  refine ⟨_, sent, hMade.run (isObject_text ?_), rfl⟩
  simp only [List.forall_mem_cons, Reads.stringValue, Reads.compact hFormed hNumbers, true_and]
  exact List.forall_mem_nil _

end Envelope

/-! ### Fields of prepared entries -/

theorem blank_text_object (members : List (String × Value)) : blank (Value.object members).text = false := by
  rw [blank, Value.text, String.toList_ofList, Value.compact]
  rfl

namespace RawEntry

/-- Whichever parser prepares the entry, the members of an object become its fields, and nothing fails. -/
def Brings (entry : RawEntry) (members : List (String × Value)) (timestamp : Instant) : Prop :=
  ∀ core : ParserCore, ∃ draft, core.prepare entry = .ok draft ∧ draft.timestamp = timestamp ∧
    draft.failures = [] ∧ draft.fields.entries = members.map fun member => (member.1, FieldValue.ofJson member.2)

variable {entry : RawEntry} {members : List (String × Value)} {timestamp : Instant}

theorem given_of_text (hFields : entry.fields = some (Value.object members).text)
    (hFormed : (Value.object members).Formed maxDepth)
    (hNumbers : (Value.object members).Numbers (Number.IsWhole .int64)) :
    entry.given = .ok (FieldValue.ofJsonMembers members) := by
  have hGiven : (entry.fields.filter fun fields => !blank fields) = some (Value.object members).text := by
    simp [hFields, blank_text_object]
  simp only [given, hGiven, Value.read_text hFormed hNumbers]

theorem brings_of_given (hChecked : entry.checked = .ok timestamp)
    (hGiven : entry.given = .ok (FieldValue.ofJsonMembers members)) (hOrder : Ascending members) :
    entry.Brings members timestamp := by
  intro core
  have hPrepared : core.prepare entry =
      .ok (Draft.storeAll { timestamp } (FieldValue.ofJsonMembers members)) := by
    rw [core.prepare_eq, hChecked, hGiven]
  have hFields : Ascending (members.map fun member => (member.1, FieldValue.ofJson member.2)) :=
    List.pairwise_map.mpr hOrder
  refine ⟨_, hPrepared, Draft.storeAll_timestamp _ _, Draft.storeAll_failures _ _, ?_⟩
  rw [Draft.storeAll_fields, FieldValue.ofJsonMembers_eq_map]
  exact sortPairs_of_ascending hFields

end RawEntry

/-- Objects with whole numbers of 64 bits come in as the fields of an envelope if they are nested one level
less than a document may be. A line is received as an envelope if it is an object of its members, and whether the
fields stand on the line as an object or as a text, their members become the fields of the entry. -/
theorem Envelope.brings_members {members : List (String × Value)}
    (hNumbers : (Value.object members).Numbers (Number.IsWhole .int64)) :
    ((∃ line received, decoder.run line = .ok received ∧ received.fields = some (.object members)) ↔
        (Value.object members).Formed 126) ∧
      (∀ (line : List Char) (written : List (String × Value)) (sent : Envelope),
        IsObject line written → sent.IsMadeOf written → decoder.run line = .ok sent) ∧
      ((Value.object members).Formed 126 →
        ∀ (line : String) (received : Envelope) (now : Instant),
          decoder.run line.toList = .ok received → received.Carries members →
            RawEntry.ofLine none now line = .ok received.toEntry ∧
              ∀ timestamp, received.toEntry.Filled →
                Calendar.Timestamp.read? received.timestamp.toList = some timestamp →
                  received.toEntry.Brings members timestamp) := by
  refine ⟨⟨?_, fun hFormed => exists_run_of_formed hFormed hNumbers⟩, fun line written sent hLine hMade =>
    hMade.run hLine, fun hFormed line received now hRun hCarries => ⟨?_, fun timestamp hFilled hTimestamp => ?_⟩⟩
  · rintro ⟨line, received, hRun, hFields⟩
    exact formed_of_run hRun hFields
  · rw [RawEntry.ofLine, hRun]
    rfl
  · have hChecked : received.toEntry.checked = .ok timestamp := by
      rw [RawEntry.checked_of_filled hFilled]
      simp only [toEntry, hTimestamp]
    have hGiven := RawEntry.given_of_text hCarries.fields_toEntry (hFormed.mono (by decide)) hNumbers
    exact RawEntry.brings_of_given hChecked hGiven hFormed.ascending

/-- An object with an empty key, escapes in its keys and strings, and the least number of 64 bits in an array. -/
def nestedMembers : List (String × Value) :=
  [("", .object [("a\n\"", .array [.ofInt (-9223372036854775808), .null, .array []])]), ("é", .string "\u0000\\/\t")]

theorem formed_nestedMembers : (Value.object nestedMembers).Formed 126 := by
  refine .object (by decide) (List.forall_mem_cons.mpr ⟨.object (by decide) ?_, ?_⟩)
  · exact List.forall_mem_singleton.mpr (.array (List.forall_mem_cons.mpr ⟨.number _ _,
      List.forall_mem_cons.mpr ⟨.null _, List.forall_mem_singleton.mpr (.array (List.forall_mem_nil _))⟩⟩))
  · exact List.forall_mem_singleton.mpr (.string _ _)

theorem numbers_nestedMembers : (Value.object nestedMembers).Numbers (Number.IsWhole .int64) := by
  refine .object (List.forall_mem_cons.mpr ⟨.object ?_, List.forall_mem_singleton.mpr (.string _)⟩)
  exact List.forall_mem_singleton.mpr (.array (List.forall_mem_cons.mpr ⟨.number (by decide),
    List.forall_mem_cons.mpr ⟨.null, List.forall_mem_singleton.mpr (.array (List.forall_mem_nil _))⟩⟩))

/-- An envelope with a number as its severity. -/
def Envelope.nested (fields : Value) : Envelope where
  timestamp := "2024-03-01T10:00:00.000Z"
  source := "app"
  host := "h1"
  severity := .ofInt 3
  fields := some fields
  message := "boom"

/-- The envelope in a line with its message first, between members that it does not have. -/
def Envelope.nestedWritten (fields : Value) : List (String × Value) :=
  [("trace", .array []), ("message", .string "boom"), ("fields", fields), ("trace", .null), ("host", .string "h1"),
    ("source", .string "app"), ("severity", .ofInt 3), ("timestamp", .string "2024-03-01T10:00:00.000Z")]

theorem Envelope.brings_members_nested :
    ∃ timestamp, ∀ fields ∈ [Value.object nestedMembers, .string (Value.object nestedMembers).text],
      RawEntry.ofLine none timestamp (Value.object (nestedWritten fields)).text = .ok (nested fields).toEntry ∧
        (nested fields).toEntry.Brings nestedMembers timestamp := by
  have hNumbers := numbers_nestedMembers
  have hFormed := formed_nestedMembers
  have hTimestamp : (Calendar.Timestamp.read? "2024-03-01T10:00:00.000Z".toList).isSome = true := by
    decide +kernel
  obtain ⟨timestamp, hTimestamp⟩ := Option.isSome_iff_exists.mp hTimestamp
  obtain ⟨-, hAccepted, hSurvives⟩ := brings_members hNumbers
  refine ⟨timestamp, fun fields hMember => ?_⟩
  have hFields : Reads (readValue 126) fields.compact fields ∧ (nested fields).Carries nestedMembers ∧
      fields.given? = some fields ∧ (nested fields).toEntry.firstBlank? = none := by
    rcases List.mem_cons.mp hMember with rfl | hMember
    · exact ⟨Reads.compact hFormed hNumbers, .inl rfl, rfl, by decide +kernel⟩
    · obtain rfl := List.mem_singleton.mp hMember
      exact ⟨Reads.stringValue 126 _, .inr rfl, rfl, by decide +kernel⟩
  obtain ⟨hReads, hCarries, hGiven, hFilled⟩ := hFields
  have hMade : (nested fields).IsMadeOf (nestedWritten fields) := by
    refine ⟨?_, rfl, rfl, rfl, rfl, hGiven, rfl⟩
    change ∀ member ∈ record.members,
      ["trace", "message", "fields", "trace", "host", "source", "severity", "timestamp"].count member.key ≤ 1
    decide
  have hLine : IsObject (Value.object (nestedWritten fields)).text.toList (nestedWritten fields) := by
    refine isObject_text ?_
    have hSeverity : Reads (readValue 126) (Value.ofInt 3).compact (.ofInt 3) :=
      Reads.compact (.number 126 _) (.number (by decide))
    have hTrace : Reads (readValue 126) (Value.array []).compact (.array []) :=
      Reads.compact (.array (List.forall_mem_nil _)) (.array (List.forall_mem_nil _))
    simp only [nestedWritten, List.forall_mem_cons, Reads.stringValue, Reads.null, hReads, hSeverity, hTrace,
      true_and]
    exact List.forall_mem_nil _
  obtain ⟨hEntry, hBrings⟩ := hSurvives hFormed _ (nested fields) timestamp (hAccepted _ _ _ hLine hMade) hCarries
  exact ⟨hEntry, hBrings timestamp (RawEntry.filled_of_firstBlank? hFilled) hTimestamp⟩

end LogIngest
