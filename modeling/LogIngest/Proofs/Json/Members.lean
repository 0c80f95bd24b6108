import LogIngest.Json.Reader
import LogIngest.Proofs.Calendar.Scanning
import LogIngest.Proofs.Dictionary
import LogIngest.Proofs.Fallible

/-!
Texts that are JSON objects, and their members. Main statements: the members of an object that was read
stand in the order of their keys, each key once, and a blank text is no object.
-/

namespace LogIngest.Json

/-- The members of a text that is a JSON object; none if it is no object. -/
def membersOf? (text : String) : Option (List (String × Value)) :=
  match Value.read text.toList with
  | .ok (.object members) => some members
  | _ => none

/-- The value under a key in a text that is a JSON object. -/
def member? (text key : String) : Option Value :=
  (membersOf? text).bind fun members => members.lookup key

theorem membersOf?_eq_some_iff {text : String} {members : List (String × Value)} :
    membersOf? text = some members ↔ Value.read text.toList = .ok (.object members) := by
  unfold membersOf?
  split
  · next h => simp [h]
  · next h =>
      simp only [reduceCtorEq, false_iff]
      exact h members

theorem exists_reader_of_read {text : List Char} {v : Value} (h : Value.read text = .ok v) :
    ∃ deeper rest, readValueWith (some deeper) text = .ok (v, rest) := by
  obtain ⟨⟨read, rest⟩, hRead, h⟩ := bind_eq_ok h
  refine ⟨readValue 126, rest, ?_⟩
  dsimp only at h
  split at h
  · obtain rfl := Except.ok.inj h
    exact hRead
  · cases h

theorem ascending_of_readValueWith {deeper : List Char → Step Value} {text rest : List Char}
    {members : List (String × Value)}
    (h : readValueWith (some deeper) text = .ok (.object members, rest)) : Ascending members := by
  unfold readValueWith at h
  split at h
  · cases h
  · rcases map_eq_ok h with ⟨word, -, ⟨⟩⟩
  · rcases map_eq_ok h with ⟨word, -, ⟨⟩⟩
  · rcases map_eq_ok h with ⟨word, -, ⟨⟩⟩
  · rcases map_eq_ok h with ⟨s, -, ⟨⟩⟩
  · rcases map_eq_ok h with ⟨n, -, ⟨⟩⟩
  · rcases map_eq_ok h with ⟨items, -, ⟨⟩⟩
  · rcases map_eq_ok h with ⟨read, -, ⟨⟩⟩
    exact ascending_sortPairs read.1
  · split at h
    · rcases map_eq_ok h with ⟨n, -, ⟨⟩⟩
    · cases h

/-- No key stands twice in an object that was read. -/
theorem ascending_of_membersOf? {text : String} {members : List (String × Value)}
    (h : membersOf? text = some members) : Ascending members := by
  obtain ⟨deeper, rest, hRead⟩ := exists_reader_of_read (membersOf?_eq_some_iff.mp h)
  exact ascending_of_readValueWith hRead

/-- In a blank text no value begins. -/
theorem readValueWith_of_blank {deeper : List Char → Step Value} {text : List Char}
    (hBlank : Text.isBlank text = true) {read : Value × List Char} :
    readValueWith (some deeper) text ≠ .ok read := by
  intro h
  have hFirst : ∀ {c rest}, skipSpace text = c :: rest → Text.isBlankChar c = true := by
    intro c rest hText
    refine List.all_eq_true.mp hBlank c ((List.dropWhile_sublist isSpace).mem ?_)
    rw [← skipSpace, hText]
    exact List.mem_cons_self
  unfold readValueWith at h
  split at h
  · cases h
  iterate 7
    · next hText => cases hFirst hText
  · next hText =>
      split at h
      · next hDigit => cases (hFirst hText).symm.trans (Text.isBlankChar_of_isDigit hDigit)
      · cases h

theorem membersOf?_of_blank {text : String} (h : blank text = true) : membersOf? text = none := by
  rw [Option.eq_none_iff_forall_ne_some]
  intro members hMembers
  obtain ⟨deeper, rest, hRead⟩ := exists_reader_of_read (membersOf?_eq_some_iff.mp hMembers)
  exact readValueWith_of_blank h hRead

end LogIngest.Json
