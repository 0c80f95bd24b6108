import LogIngest.CommandLine.Input
import LogIngest.Proofs.Entry.Envelopes
import LogIngest.Proofs.Files.Lines
import LogIngest.Proofs.Json.Framing

/-!
Entries survive the way through files. Main statement: an entry is read back from the text in which it is
written, which is one line, and so entries written one on each line of some files are read back in their
order, without a complaint.
-/

namespace LogIngest

open Json
open CommandLine (Environment Transcript decodeLine readEntries)
open Calendar (Instant)

/-! ### The envelope of an entry -/

/-- The entry in an envelope: its severity and its fields are texts. -/
def RawEntry.toEnvelope (entry : RawEntry) : Envelope where
  timestamp := entry.timestamp
  source := entry.source
  host := entry.host
  severity := .string entry.severity
  fields := entry.fields.map .string
  message := entry.message

theorem Envelope.toEntry_toEnvelope (entry : RawEntry) : entry.toEnvelope.toEntry = entry := by
  cases entry with
  | mk timestamp source host severity fields message => cases fields <;> rfl

theorem RawEntry.run_text_toJson (entry : RawEntry) :
    Envelope.decoder.run entry.toJson.text.toList = .ok entry.toEnvelope := by
  cases entry with
  | mk timestamp source host severity fields message =>
      cases fields <;>
        · refine Envelope.IsMadeOf.run ⟨?_, rfl, rfl, rfl, rfl, rfl, rfl⟩ (isObject_text ?_)
          · simp only [List.cons_append, List.nil_append, List.map_cons, List.map_nil]
            decide
          · simp only [List.cons_append, List.nil_append, List.forall_mem_cons, Reads.stringValue, true_and]
            exact List.forall_mem_nil _

/-! ### Lines of entries -/

theorem RawEntry.ofLine_text (now : Instant) (entry : RawEntry) :
    ofLine none now entry.toJson.text = .ok entry := by
  rw [ofLine, entry.run_text_toJson]
  exact congrArg Except.ok (Envelope.toEntry_toEnvelope entry)

theorem isLine_text (v : Value) : Files.IsLine v.text where
  feed := by
    rw [Value.text, String.toList_ofList]
    exact v.printable_compact.not_mem (by decide)
  carriage := by
    rw [Value.text, String.toList_ofList]
    exact v.printable_compact.not_mem (by decide)

theorem RawEntry.blank_text_toJson (entry : RawEntry) : blank entry.toJson.text = false := by
  rw [blank, toJson, Value.text, String.toList_ofList, Value.compact]
  rfl

/-- A file with entries written one on each line. -/
def RawEntry.fileOf (entries : List RawEntry) : ByteArray :=
  (Transcript.text (entries.map fun entry => entry.toJson.text)).toUTF8

theorem RawEntry.map_decodeLine_numbered (now : Instant) (path : String) (entries : List RawEntry) :
    (Files.numbered path (entries.map fun entry => entry.toJson.text)).map (decodeLine none now) =
      entries.mapIdx fun i entry => { path, line := i + 1, value := .ok entry } := by
  have hLine : ∀ i (entry : RawEntry),
      decodeLine none now { path, line := i + 1, value := entry.toJson.text } =
        { path, line := i + 1, value := .ok entry } := by
    intro i entry
    rw [decodeLine, Files.Located.map, ofLine_text]
    rfl
  refine List.ext_getElem? fun i => ?_
  simp only [Files.numbered, List.getElem?_map, List.getElem?_mapIdx, Option.map_map,
    Function.comp_def, hLine]

/-- An entry is read back from its text, and the text is a line. So entries that are written one on each
line of some files are read back from the files one after another, each under the number of its line, and
reading goes on to the end. -/
theorem RawEntry.survives_files :
    (∀ (now : Instant) (entry : RawEntry), ofLine none now entry.toJson.text = .ok entry ∧
        '\n' ∉ entry.toJson.text.toList ∧ '\r' ∉ entry.toJson.text.toList) ∧
      ∀ (environment : Environment) (written : String → List RawEntry) (paths : List String),
        readEntries { environment with read := fun path => .ok (fileOf (written path)) } none paths =
          { items := paths.flatMap fun path =>
              (written path).mapIdx fun i entry => { path, line := i + 1, value := .ok entry } } := by
  refine ⟨fun now entry => ?_, fun environment written paths => ?_⟩
  · have hLine := isLine_text entry.toJson
    exact ⟨ofLine_text now entry, hLine.feed, hLine.carriage⟩
  · have hLines : ∀ path, ∀ line ∈ (written path).map fun entry => entry.toJson.text,
        Files.IsLine line ∧ blank line = false := by
      intro path line hLine
      obtain ⟨entry, -, rfl⟩ := List.mem_map.mp hLine
      exact ⟨isLine_text entry.toJson, entry.blank_text_toJson⟩
    simp only [readEntries, fileOf, Files.readLines_text hLines, Files.Readout.map, List.map_flatMap,
      map_decodeLine_numbered]

end LogIngest
