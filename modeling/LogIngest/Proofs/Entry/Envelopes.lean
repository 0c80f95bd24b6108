import LogIngest.Entry.Envelope
import LogIngest.Proofs.Json.Records

/-!
Envelopes in lines. Main statement: a line that is an object is read as an envelope if source, host, timestamp
and message are texts in it and no member of the envelope stands in it twice, whatever the order of the members
is and whatever other members there are.
-/

namespace LogIngest

open Json

/-- The text that a value is. -/
def Json.Value.string? : Value → Option String
  | .string s => some s
  | _ => none

namespace Envelope

/-- The members of an object, in the order in which they are written, make an envelope: none of those that it
has is repeated, the texts are given, and severity and fields may be missing or null. -/
structure IsMadeOf (envelope : Envelope) (written : List (String × Value)) : Prop where
  once : ∀ member ∈ record.members, (written.map Prod.fst).count member.key ≤ 1
  timestamp : written.lookup "timestamp" = some (.string envelope.timestamp)
  source : written.lookup "source" = some (.string envelope.source)
  host : written.lookup "host" = some (.string envelope.host)
  severity : (written.lookup "severity").getD .null = envelope.severity
  fields : (written.lookup "fields").bind Value.given? = envelope.fields
  message : written.lookup "message" = some (.string envelope.message)

/-- What members of an object leave in a draft. -/
def Draft.of (written : List (String × Value)) : Draft where
  timestamp := (written.lookup "timestamp").bind Value.string?
  source := (written.lookup "source").bind Value.string?
  host := (written.lookup "host").bind Value.string?
  severity := written.lookup "severity"
  fields := (written.lookup "fields").map Value.given?
  message := (written.lookup "message").bind Value.string?

/-- A value that may stand under a key. -/
def Admits (key : String) (value : Value) : Prop :=
  key = "severity" ∨ key = "fields" ∨ ∃ s, value = .string s

variable {member : Member Draft} {before written : List (String × Value)}

theorem lookup_concat_of_ne {key other : String} (h : other ≠ key) (value : Value) :
    (before ++ [(key, value)]).lookup other = before.lookup other := by
  rw [List.lookup_append, List.lookup_cons, beq_false_of_ne h, List.lookup_nil, Option.or_none]

theorem lookup_concat {key : String} (hNew : before.lookup key = none) (value : Value) (other : String) :
    (before ++ [(key, value)]).lookup other = if other = key then some value else before.lookup other := by
  by_cases hKey : other = key
  · rw [if_pos hKey, hKey, List.lookup_append, hNew, List.lookup_cons_self]
    rfl
  · rw [if_neg hKey, lookup_concat_of_ne hKey]

/-- A member that is not repeated does not stand among those before it. -/
theorem lookup_eq_none_of_count_le {key : String} {value : Value} {rest : List (String × Value)}
    (h : ((before ++ (key, value) :: rest).map Prod.fst).count key ≤ 1) : before.lookup key = none := by
  rw [List.map_append, List.count_append, List.map_cons, List.count_cons_self] at h
  have hNone : key ∉ before.map Prod.fst := List.count_eq_zero.mp (by omega)
  rw [List.lookup_eq_none_iff]
  intro other hOther
  exact bne_iff_ne.mpr fun hSame => hNone (hSame ▸ List.mem_map_of_mem hOther)

namespace Draft

theorem given_of (hMember : member ∈ record.members) (hNew : before.lookup member.key = none) :
    member.given (Draft.of before) = false := by
  simp only [record, List.mem_cons, List.not_mem_nil, or_false] at hMember
  rcases hMember with rfl | rfl | rfl | rfl | rfl | rfl <;>
    · simp only [Member.of] at hNew ⊢
      simp only [Draft.of, hNew]
      rfl

/-- A new member is put beside the ones before it. -/
theorem read_of (hMember : member ∈ record.members) (hNew : before.lookup member.key = none) {value : Value}
    (hAdmits : Admits member.key value) {levels : Nat} {text rest : List Char}
    (hRead : readValue levels text = .ok (value, rest)) :
    member.read (Draft.of before) levels text = .ok (Draft.of (before ++ [(member.key, value)]), rest) := by
  have hLookup := lookup_concat hNew value
  simp only [record, List.mem_cons, List.not_mem_nil, or_false] at hMember
  rcases hMember with rfl | rfl | rfl | rfl | rfl | rfl
  case inr.inr.inr.inl =>
    -- the severity may be any value
    simp only [Member.of] at hLookup ⊢
    simp [Draft.of, hLookup, Decoder.value, hRead, Except.map]
  case inr.inr.inr.inr.inl =>
    -- the fields may be any value, and null is none
    simp only [Member.of] at hLookup ⊢
    simp [Draft.of, hLookup, Decoder.option_of_readValue hRead, Except.map]
  all_goals
    simp only [Member.of] at hLookup hAdmits ⊢
    obtain hKey | hKey | ⟨s, rfl⟩ := hAdmits
    · simp at hKey
    · simp at hKey
    · simp [Draft.of, hLookup, Decoder.string_of_readValue hRead, Except.map, Value.string?]

theorem of_concat_unknown {key : String} (h : ∀ member ∈ record.members, member.key ≠ key) (value : Value) :
    Draft.of (before ++ [(key, value)]) = Draft.of before := by
  simp only [record, List.forall_mem_cons, Member.of] at h
  obtain ⟨hTimestamp, hSource, hHost, hSeverity, hFields, hMessage, -⟩ := h
  simp only [Draft.of, lookup_concat_of_ne hTimestamp, lookup_concat_of_ne hSource, lookup_concat_of_ne hHost,
    lookup_concat_of_ne hSeverity, lookup_concat_of_ne hFields, lookup_concat_of_ne hMessage]

/-- The members behind some others are taken into the draft that these have left. The induction is on what is
still to be read. -/
theorem takes (hOnce : ∀ member ∈ record.members, (written.map Prod.fst).count member.key ≤ 1)
    (hAdmits : ∀ member ∈ record.members, ∀ value, written.lookup member.key = some value →
      Admits member.key value) {rest : List (String × Value)} (hWritten : before ++ rest = written) :
    Takes record.members 126 (Draft.of before) rest (Draft.of written) := by
  induction rest generalizing before with
  | nil =>
      rw [← hWritten, List.append_nil]
      exact .done _
  | cons first rest ih =>
      obtain ⟨key, value⟩ := first
      have hMore := ih ((List.append_assoc before [(key, value)] rest).trans hWritten)
      cases hFind : record.members.find? (·.key == key) with
      | none =>
          have hOther : ∀ member ∈ record.members, member.key ≠ key := by simpa using hFind
          rw [of_concat_unknown hOther] at hMore
          exact .unknown hFind hMore
      | some member =>
          have hMember := List.mem_of_find?_eq_some hFind
          obtain rfl : member.key = key := by simpa using List.find?_some hFind
          have hNew := lookup_eq_none_of_count_le (hWritten ▸ hOnce member hMember)
          have hValue : written.lookup member.key = some value := by
            rw [← hWritten, List.lookup_append, hNew, List.lookup_cons_self]
            rfl
          exact .known hFind (given_of hMember hNew) (read_of hMember hNew (hAdmits member hMember value hValue))
            hMore

end Draft

namespace IsMadeOf

variable {envelope : Envelope}

theorem admits (h : envelope.IsMadeOf written) (hMember : member ∈ record.members) {value : Value}
    (hValue : written.lookup member.key = some value) : Admits member.key value := by
  simp only [record, List.mem_cons, List.not_mem_nil, or_false] at hMember
  rcases hMember with rfl | rfl | rfl | rfl | rfl | rfl
  · exact .inr (.inr ⟨_, Option.some.inj (hValue.symm.trans h.timestamp)⟩)
  · exact .inr (.inr ⟨_, Option.some.inj (hValue.symm.trans h.source)⟩)
  · exact .inr (.inr ⟨_, Option.some.inj (hValue.symm.trans h.host)⟩)
  · exact .inl rfl
  · exact .inr (.inl rfl)
  · exact .inr (.inr ⟨_, Option.some.inj (hValue.symm.trans h.message)⟩)

theorem finish (h : envelope.IsMadeOf written) : record.finish (Draft.of written) = .ok envelope := by
  have hFields : ((written.lookup "fields").map Value.given?).getD none = envelope.fields := by
    rw [← h.fields]
    cases written.lookup "fields" <;> rfl
  simp only [record, Draft.of, h.timestamp, h.source, h.host, h.message, hFields, h.severity, Option.bind_some,
    Value.string?, required, bind, Except.bind]
  rfl

/-- A line that is an object of the members of an envelope is read as that envelope. -/
theorem run (h : envelope.IsMadeOf written) {line : List Char} (hLine : IsObject line written) :
    decoder.run line = .ok envelope := by
  have hTakes : Takes record.members 126 (Draft.of []) written (Draft.of written) :=
    Draft.takes h.once (fun _ hMember _ hValue => h.admits hMember hValue) (List.nil_append written)
  exact hTakes.run hLine h.finish

end IsMadeOf
end Envelope
end LogIngest
