import LogIngest.Json.Record
import LogIngest.Proofs.Json.Skipping

/-!
Records are read from objects. What a member does to a draft is said once for each member. Main statements: if
the members of an object fill the draft of a record one after another, the object is read as the record of that
draft, whether it is written here or its text comes from elsewhere; and what every member keeps true of a draft
is true of the draft of each record that was read.
-/

namespace LogIngest.Json

variable {α δ : Type}

/-- Written members fill a draft: each is known and new, and its text is read into the draft that the
ones before it have left. -/
inductive Fills (members : List (Member δ)) (levels : Nat) :
    δ → List (String × Value) → δ → Prop where
  | done (draft : δ) : Fills members levels draft [] draft
  | step {draft next final : δ} {key : String} {value : Value} {rest : List (String × Value)}
      {member : Member δ} (known : members.find? (·.key == key) = some member)
      (absent : member.given draft = false)
      (read : Reads (member.read draft levels) value.compact next)
      (more : Fills members levels next rest final) :
      Fills members levels draft ((key, value) :: rest) final

namespace Fills

variable {members : List (Member δ)} {levels : Nat} {draft next final : δ}

theorem one {key : String} {value : Value} {member : Member δ}
    (hKnown : members.find? (·.key == key) = some member) (hAbsent : member.given draft = false)
    (hRead : Reads (member.read draft levels) value.compact next) :
    Fills members levels draft [(key, value)] next :=
  .step hKnown hAbsent hRead (.done next)

theorem append {written others : List (String × Value)} (h : Fills members levels draft written next)
    (hOthers : Fills members levels next others final) :
    Fills members levels draft (written ++ others) final := by
  induction h with
  | done draft => exact hOthers
  | step hKnown hAbsent hRead _ ih => exact .step hKnown hAbsent hRead (ih hOthers)

/-- A member is read from behind its key. -/
theorem readMember_memberText {key : String} {value : Value} {member : Member δ}
    (hKnown : members.find? (·.key == key) = some member) (hAbsent : member.given draft = false)
    (hRead : Reads (member.read draft levels) value.compact next) {rest : List Char}
    (hRest : Closed rest) :
    Record.readMember members levels draft key (':' :: (value.compact ++ rest)) = .ok (next, rest) := by
  simp only [Record.readMember, hKnown, hAbsent, Bool.false_eq_true, if_false, readColon_cons, bind,
    Except.bind, hRead.reads rest hRest]

/-- The draft is filled by reading the members up to the closing brace. -/
theorem readDraft_items {written : List (String × Value)}
    (h : Fills members levels draft written final) (rest : List Char) {bound : Nat}
    (hBound : written.length < bound) (first : Bool) :
    Record.readDraft members levels bound first draft
        (items first (written.map fun member => memberText member.1 member.2.compact) ++ '}' :: rest) =
      .ok (final, '}' :: rest) := by
  induction h generalizing bound first with
  | done draft =>
      cases bound with
      | zero => cases hBound
      | succ bound => rfl
  | @step _ _ _ _ _ others _ hKnown hAbsent hRead _ ih =>
      cases bound with
      | zero => cases hBound
      | succ bound =>
          have hMember := readMember_memberText hKnown hAbsent hRead (closed_items (.brace rest)
            (others.map fun member => memberText member.1 member.2.compact))
          have hRest := ih (Nat.lt_of_succ_lt_succ hBound) false
          rw [List.map_cons, items, List.append_assoc, item_memberText, Record.readDraft,
            nextKey_item]
          simp only [bind, Except.bind, String.ofList_toList, hMember, hRest]

end Fills

/-- An object whose members fill the draft of a record is read as what the draft makes. -/
theorem Record.reads {record : Record δ α} {levels : Nat} {written : List (String × Value)}
    {draft : δ} {a : α} (h : Fills record.members levels record.start written draft)
    (hFinish : record.finish draft = .ok a) :
    Reads (record.decoder (levels + 1)) (Value.object written).compact a where
  opens := ⟨'{', _, rfl, rfl, by decide⟩
  reads rest _ := by
    let write (member : String × Value) : List Char := memberText member.1 member.2.compact
    have hObject : record.decoder (levels + 1) ((Value.object written).compact ++ rest) =
        within leaveObject (record.close (Record.readDraft record.members levels
          ((items true (written.map write) ++ '}' :: rest).length + 1) true record.start
            (items true (written.map write) ++ '}' :: rest))) := by
      rw [Value.compact, Value.compactMembers_eq_map, join_eq_items]
      simp only [List.cons_append, List.append_assoc]
      rfl
    have hDraft := h.readDraft_items rest (length_lt_bound write written '}' rest) true
    rw [hObject, hDraft]
    simp only [Record.close, hFinish]
    rfl

/-- A member whose place in the draft is optional is read as its value is. -/
theorem Reads.member {key : String} {get : δ → Option α} {put : δ → α → δ} {decoder : Decoder α}
    {mayLack : Bool} {levels : Nat} {text : List Char} {a : α} (h : Reads (decoder levels) text a)
    (draft : δ) :
    Reads ((Member.of key get put decoder mayLack).read draft levels) text (put draft a) :=
  h.map (put draft)

/-! ### What is true of drafts -/

theorem Member.exists_of_read {key : String} {get : δ → Option α} {put : δ → α → δ} {decoder : Decoder α}
    {mayLack : Bool} {levels : Nat} {draft next : δ} {text rest : List Char}
    (h : (Member.of key get put decoder mayLack).read draft levels text = .ok (next, rest)) :
    ∃ a, decoder levels text = .ok (a, rest) ∧ put draft a = next := by
  obtain ⟨⟨a, after⟩, hRead, hSame⟩ := map_eq_ok h
  obtain ⟨rfl, rfl⟩ := Prod.mk.inj hSame
  exact ⟨a, hRead, rfl⟩

theorem Decoder.exists_of_option {decoder : Decoder α} {levels : Nat} {text rest : List Char} {a : α}
    (h : Decoder.option decoder levels text = .ok (some a, rest)) :
    ∃ text, decoder levels text = .ok (a, rest) := by
  unfold Decoder.option at h
  split at h
  · obtain ⟨_, -, ⟨⟩⟩ := map_eq_ok h
  · obtain ⟨⟨read, after⟩, hRead, hSame⟩ := map_eq_ok h
    obtain ⟨hRead', rfl⟩ := Prod.mk.inj hSame
    exact ⟨_, Option.some.inj hRead' ▸ hRead⟩

namespace Record

/-- Reading the value of any member keeps a property of drafts. -/
def Keeps (members : List (Member δ)) (levels : Nat) (P : δ → Prop) : Prop :=
  ∀ member ∈ members, ∀ {draft next : δ} {text rest : List Char}, P draft →
    member.read draft levels text = .ok (next, rest) → P next

variable {P : δ → Prop} {levels : Nat} {members : List (Member δ)} {draft final : δ} {text rest : List Char}

theorem Keeps.readPositions (h : Keeps members levels P) {expected : String} {index : Nat} (hDraft : P draft)
    (hRead : readPositions expected levels members index draft text = .ok (final, rest)) : P final := by
  induction members generalizing index draft text with
  | nil =>
      obtain ⟨rfl, -⟩ := Prod.mk.inj (Except.ok.inj hRead)
      exact hDraft
  | cons member others ih =>
      have hOthers : Keeps others levels P := fun member hMember => h member (.tail _ hMember)
      obtain ⟨⟨next?, between⟩, hNext, hRead⟩ := bind_eq_ok hRead
      cases next? with
      | none =>
          dsimp only at hRead
          split at hRead
          · exact ih hOthers hDraft hRead
          · cases hRead
      | some next =>
          obtain ⟨_, hMember, -⟩ := due_of_nextElement hNext
          exact ih hOthers (h member (.head _) hDraft hMember) hRead

theorem Keeps.readMember (h : Keeps members levels P) {key : String} (hDraft : P draft)
    (hRead : readMember members levels draft key text = .ok (final, rest)) : P final := by
  unfold Record.readMember at hRead
  split at hRead
  · -- a member that the record does not have leaves the draft alone
    obtain ⟨_, -, hRead⟩ := bind_eq_ok hRead
    obtain ⟨_, -, ⟨⟩⟩ := bind_eq_ok hRead
    exact hDraft
  · next member hKnown =>
      split at hRead
      · cases hRead
      · obtain ⟨_, -, hMember⟩ := bind_eq_ok hRead
        exact h member (List.mem_of_find?_eq_some hKnown) hDraft hMember

theorem Keeps.readDraft (h : Keeps members levels P) {bound : Nat} {first : Bool} (hDraft : P draft)
    (hRead : readDraft members levels bound first draft text = .ok (final, rest)) : P final := by
  induction bound generalizing first draft text with
  | zero =>
      obtain ⟨rfl, -⟩ := Prod.mk.inj (Except.ok.inj hRead)
      exact hDraft
  | succ bound ih =>
      obtain ⟨⟨key?, between⟩, -, hRead⟩ := bind_eq_ok hRead
      cases key? with
      | none =>
          obtain ⟨rfl, -⟩ := Prod.mk.inj (Except.ok.inj hRead)
          exact hDraft
      | some key =>
          obtain ⟨⟨next, after⟩, hMember, hRead⟩ := bind_eq_ok hRead
          exact ih (h.readMember hDraft hMember) hRead

theorem exists_of_close {record : Record δ α} {step : Step δ} {a : α} (h : record.close step = .ok (a, rest)) :
    ∃ draft rest, step = .ok (draft, rest) ∧ record.finish draft = .ok a := by
  unfold close at h
  split at h
  · cases h
  · split at h
    · next hFinish =>
        obtain ⟨rfl, -⟩ := Prod.mk.inj (Except.ok.inj h)
        exact ⟨_, _, rfl, hFinish⟩
    · cases h

theorem stopWrongType_ne_ok (expected : String) (text : List Char) (a : α) :
    stopWrongType expected text ≠ .ok a := by
  intro h
  unfold stopWrongType at h
  split at h
  · cases h
  iterate 5
    · obtain ⟨_, -, ⟨⟩⟩ := bind_eq_ok h
  · cases h
  · cases h
  · split at h
    · obtain ⟨_, -, ⟨⟩⟩ := bind_eq_ok h
    · cases h

/-- A record that was read comes from a draft that has the property. -/
theorem Keeps.exists_draft {record : Record δ α} (h : Keeps record.members levels P) (hStart : P record.start)
    {a : α} (hRead : record.decoder (levels + 1) text = .ok (a, rest)) :
    ∃ draft, P draft ∧ record.finish draft = .ok a := by
  unfold decoder at hRead
  split at hRead
  · cases hRead
  · obtain ⟨_, hClosed, -⟩ := within_eq_ok hRead
    obtain ⟨draft, _, hPositions, hFinish⟩ := exists_of_close hClosed
    exact ⟨draft, h.readPositions hStart hPositions, hFinish⟩
  · obtain ⟨_, hClosed, -⟩ := within_eq_ok hRead
    obtain ⟨draft, _, hMembers, hFinish⟩ := exists_of_close hClosed
    exact ⟨draft, h.readDraft hStart hMembers, hFinish⟩
  · exact absurd hRead (stopWrongType_ne_ok _ _ _)

end Record

/-! ### Objects of any text -/

/-- A text is an object with some members, in the order in which they are written. -/
def IsObject (text : List Char) (written : List (String × Value)) : Prop :=
  ∃ inside rest, skipSpace text = '{' :: inside ∧ readMembers (readValue 126) inside = .ok (written, rest) ∧
    skipSpace rest = []

/-- The text of an object, if its values are read back. The members may stand in any order. -/
theorem isObject_text {written : List (String × Value)}
    (h : ∀ member ∈ written, Reads (readValue 126) member.2.compact member.2) :
    IsObject (Value.object written).text.toList written := by
  refine ⟨_, [], ?_, Reads.members h [], rfl⟩
  rw [Value.text, String.toList_ofList, Value.compact, Value.compactMembers_eq_map, List.cons_append,
    skipSpace_cons rfl]

/-- Members of an object fill a draft one after another: those that the record has are new, and a text that is
read as the value of one takes the draft to the next; the others leave the draft alone. -/
inductive Takes (members : List (Member δ)) (levels : Nat) : δ → List (String × Value) → δ → Prop where
  | done (draft : δ) : Takes members levels draft [] draft
  | known {draft next final : δ} {key : String} {value : Value} {rest : List (String × Value)} {member : Member δ}
      (known : members.find? (·.key == key) = some member) (absent : member.given draft = false)
      (read : ∀ {text after}, readValue levels text = .ok (value, after) →
        member.read draft levels text = .ok (next, after))
      (more : Takes members levels next rest final) : Takes members levels draft ((key, value) :: rest) final
  | unknown {draft final : δ} {key : String} {value : Value} {rest : List (String × Value)}
      (unknown : members.find? (·.key == key) = none) (more : Takes members levels draft rest final) :
      Takes members levels draft ((key, value) :: rest) final

namespace Takes

variable {members : List (Member δ)} {levels : Nat} {draft final : δ}

/-- What is collected as a list of members is taken into the draft. -/
theorem readDraft {written : List (String × Value)} (h : Takes members levels draft written final) {bound : Nat}
    {first : Bool} {text rest : List Char}
    (hRead : collect (nextMember (readValue levels)) bound first text = .ok (written, rest)) :
    Record.readDraft members levels bound first draft text = .ok (final, rest) := by
  induction h generalizing bound first text with
  | done draft =>
      rcases collect_eq_nil hRead with ⟨rfl, rfl⟩ | ⟨fewer, rfl, hLast⟩
      · rfl
      · simp only [Record.readDraft, nextKey_of_nextMember hLast, bind, Except.bind]
        rfl
  | known hKnown hAbsent hMember _ ih =>
      obtain ⟨fewer, between, rfl, hNext, hRest⟩ := collect_eq_cons hRead
      obtain ⟨letters, afterKey, due, hKey, rfl, hColon, hValue⟩ := due_of_nextMember hNext
      simp only [Record.readDraft, hKey, Record.readMember, hKnown, hAbsent, Bool.false_eq_true, if_false, hColon,
        hMember hValue, bind, Except.bind, ih hRest]
  | unknown hUnknown _ ih =>
      obtain ⟨fewer, between, rfl, hNext, hRest⟩ := collect_eq_cons hRead
      obtain ⟨letters, afterKey, due, hKey, rfl, hColon, hValue⟩ := due_of_nextMember hNext
      simp only [Record.readDraft, hKey, Record.readMember, hUnknown, hColon, skipValue_of_readValue hValue, bind,
        Except.bind, pure, Except.pure, ih hRest]

/-- An object whose members fill the draft of a record is read as what the draft makes. -/
theorem run {record : Record δ α} {text : List Char} {written : List (String × Value)}
    (h : Takes record.members 126 record.start written final) (hText : IsObject text written) {a : α}
    (hFinish : record.finish final = .ok a) : Decoder.run record.decoder text = .ok a := by
  obtain ⟨inside, rest, hOpen, hMembers, hEnd⟩ := hText
  refine readWhole_eq_ok_iff.mpr ⟨rest, ?_, hEnd⟩
  obtain ⟨between, hBody, hLeave⟩ := within_eq_ok hMembers
  have hDraft := h.readDraft hBody
  rw [show maxDepth = 126 + 1 from rfl, Record.decoder]
  simp only [hOpen, hDraft, Record.close, hFinish, within, hLeave]
  rfl

end Takes

/-! ### Members with a reader of their own -/

theorem Decoder.string_of_readValue {levels : Nat} {text rest : List Char} {s : String}
    (h : readValue levels text = .ok (.string s, rest)) : Decoder.string levels text = .ok (s, rest) := by
  obtain ⟨deeper, hReader⟩ := exists_readValueWith levels
  rw [hReader] at h
  unfold readValueWith at h
  split at h
  · cases h
  iterate 3
    · obtain ⟨_, -, ⟨⟩⟩ := map_eq_ok h
  · next inside hText =>
      obtain ⟨⟨letters, after⟩, hString, ⟨⟩⟩ := map_eq_ok h
      simp only [Decoder.string, hText, hString]
      rfl
  · obtain ⟨_, -, ⟨⟩⟩ := map_eq_ok h
  iterate 2
    · split at h
      · cases h
      · obtain ⟨_, -, ⟨⟩⟩ := map_eq_ok h
  · split at h
    · obtain ⟨_, -, ⟨⟩⟩ := map_eq_ok h
    · cases h

/-- A value, unless it is null. -/
def Value.given? : Value → Option Value
  | .null => none
  | v => some v

theorem given?_of_readValue {levels : Nat} {text rest : List Char} {v : Value}
    (h : readValue levels text = .ok (v, rest)) (hNull : ∀ after, skipSpace text ≠ 'n' :: after) :
    v.given? = some v := by
  obtain ⟨deeper, hReader⟩ := exists_readValueWith levels
  rw [hReader] at h
  unfold readValueWith at h
  split at h
  · cases h
  · next hText => exact (hNull _ hText).elim
  iterate 4
    · obtain ⟨_, -, ⟨⟩⟩ := map_eq_ok h
      rfl
  iterate 2
    · split at h
      · cases h
      · obtain ⟨_, -, ⟨⟩⟩ := map_eq_ok h
        rfl
  · split at h
    · obtain ⟨_, -, ⟨⟩⟩ := map_eq_ok h
      rfl
    · cases h

/-- Null in place of a value is none. -/
theorem Decoder.option_of_readValue {levels : Nat} {text rest : List Char} {v : Value}
    (h : readValue levels text = .ok (v, rest)) :
    Decoder.option Decoder.value levels text = .ok (v.given?, rest) := by
  unfold Decoder.option
  split
  · next after hText =>
      obtain ⟨deeper, hReader⟩ := exists_readValueWith levels
      rw [hReader, readValueWith, hText] at h
      obtain ⟨_, hWord, ⟨⟩⟩ := map_eq_ok h
      rw [hWord]
      rfl
  · next hNull =>
      rw [Decoder.value, readValue_skipSpace, h, given?_of_readValue h hNull]
      rfl

end LogIngest.Json
