import LogIngest.Proofs.Json.Decoders
import LogIngest.Proofs.Json.Members

/-!
Values of any shape and their texts. Main statements: a value that was read is nested no deeper than its
reader goes, and the members of its objects stand in the order of their keys; and such a value, if all its
numbers are whole, is read back from its text.
-/

namespace LogIngest.Json

variable {α : Type}

/-! ### Shapes of values -/

/-- A whole number within bounds. -/
def Number.IsWhole (bounds : Bounds) : Number → Prop
  | .integer n => bounds.admits n = true
  | .double _ => False

instance (bounds : Bounds) : DecidablePred (Number.IsWhole bounds)
  | .integer n => inferInstanceAs (Decidable (bounds.admits n = true))
  | .double _ => inferInstanceAs (Decidable False)

namespace Value

/-- All the numbers in a value have a property, at every depth. -/
inductive Numbers (p : Number → Prop) : Value → Prop where
  | null : Numbers p .null
  | bool (b : Bool) : Numbers p (.bool b)
  | number {n : Number} (h : p n) : Numbers p (.number n)
  | string (s : String) : Numbers p (.string s)
  | array {items : List Value} (h : ∀ item ∈ items, Numbers p item) : Numbers p (.array items)
  | object {members : List (String × Value)} (h : ∀ member ∈ members, Numbers p member.2) :
      Numbers p (.object members)

section

variable {p : Number → Prop}

/-- The numbers of a number are itself. -/
theorem numbers_number_iff {n : Number} : Numbers p (.number n) ↔ p n := by
  refine ⟨fun hNumbers => ?_, .number⟩
  cases hNumbers with
  | number h => exact h

/-- The numbers of an array are those of its elements. -/
theorem numbers_array_iff {items : List Value} :
    Numbers p (.array items) ↔ ∀ item ∈ items, item.Numbers p := by
  refine ⟨fun hNumbers => ?_, .array⟩
  cases hNumbers with
  | array h => exact h

/-- The numbers of an object are those of the values of its members. -/
theorem numbers_object_iff {members : List (String × Value)} :
    Numbers p (.object members) ↔ ∀ member ∈ members, member.2.Numbers p := by
  refine ⟨fun hNumbers => ?_, .object⟩
  cases hNumbers with
  | object h => exact h

end

/-- A value with so many containers one within the other at most. The members of each object stand in the
order of their keys, each key once. -/
inductive Formed : Nat → Value → Prop where
  | null (levels : Nat) : Formed levels .null
  | bool (levels : Nat) (b : Bool) : Formed levels (.bool b)
  | number (levels : Nat) (n : Number) : Formed levels (.number n)
  | string (levels : Nat) (s : String) : Formed levels (.string s)
  | array {levels : Nat} {items : List Value} (h : ∀ item ∈ items, Formed levels item) :
      Formed (levels + 1) (.array items)
  | object {levels : Nat} {members : List (String × Value)} (order : Ascending members)
      (h : ∀ member ∈ members, Formed levels member.2) : Formed (levels + 1) (.object members)

/-- A value may stand where more levels are left. -/
theorem Formed.mono {levels : Nat} {v : Value} (h : v.Formed levels) {more : Nat} (hMore : levels ≤ more) :
    v.Formed more := by
  induction h generalizing more with
  | null => exact .null more
  | bool _ b => exact .bool more b
  | number _ n => exact .number more n
  | string _ s => exact .string more s
  | array _ ih =>
      obtain ⟨below, rfl⟩ : ∃ below, more = below + 1 := ⟨more - 1, by omega⟩
      exact .array fun item hItem => ih item hItem (by omega)
  | object order _ ih =>
      obtain ⟨below, rfl⟩ : ∃ below, more = below + 1 := ⟨more - 1, by omega⟩
      exact .object order fun member hMember => ih member hMember (by omega)

/-- The members of an object stand in the order of their keys. -/
theorem Formed.ascending {levels : Nat} {members : List (String × Value)}
    (h : (Value.object members).Formed levels) : Ascending members := by
  cases h with
  | object order _ => exact order

end Value

/-! ### What readers of values yield -/

/-- What was read inside a container was left by its closing bracket. -/
theorem within_eq_ok {leave : List Char → Except Fault (List Char)} {body : Step α} {a : α}
    {rest : List Char} (h : within leave body = .ok (a, rest)) :
    ∃ between, body = .ok (a, between) ∧ leave between = .ok rest := by
  cases body with
  | error fault => cases h
  | ok read =>
      obtain ⟨_, hLeave, ⟨⟩⟩ := map_eq_ok h
      exact ⟨_, rfl, hLeave⟩

/-- A whole text is read if nothing but white space follows the value. -/
theorem readWhole_eq_ok_iff {read : List Char → Step α} {text : List Char} {a : α} :
    readWhole read text = .ok a ↔ ∃ rest, read text = .ok (a, rest) ∧ skipSpace rest = [] := by
  refine ⟨fun h => ?_, ?_⟩
  · obtain ⟨⟨found, rest⟩, hRead, h⟩ := bind_eq_ok h
    dsimp only at h
    split at h
    · next hEnd =>
        obtain rfl := Except.ok.inj h
        exact ⟨rest, hRead, hEnd⟩
    · cases h
  · rintro ⟨rest, hRead, hEnd⟩
    simp only [readWhole, hRead, bind, Except.bind, hEnd]
    rfl

/-- Nothing is collected if there are to be no calls, or if the first one yields nothing. -/
theorem collect_eq_nil {next : Bool → List Char → Step (Option α)} {bound : Nat} {first : Bool}
    {text rest : List Char} (h : collect next bound first text = .ok ([], rest)) :
    (bound = 0 ∧ rest = text) ∨ ∃ fewer, bound = fewer + 1 ∧ next first text = .ok (none, rest) := by
  cases bound with
  | zero => exact .inl ⟨rfl, (Prod.mk.inj (Except.ok.inj h)).2.symm⟩
  | succ bound =>
      rw [collect] at h
      split at h
      · cases h
      · next hNext =>
          obtain ⟨-, rfl⟩ := Prod.mk.inj (Except.ok.inj h)
          exact .inr ⟨bound, rfl, hNext⟩
      · split at h <;> cases h

/-- Several items are collected by reading the first one and then the others. -/
theorem collect_eq_cons {next : Bool → List Char → Step (Option α)} {bound : Nat} {first : Bool}
    {text rest : List Char} {a : α} {as : List α} (h : collect next bound first text = .ok (a :: as, rest)) :
    ∃ fewer between, bound = fewer + 1 ∧ next first text = .ok (some a, between) ∧
      collect next fewer false between = .ok (as, rest) := by
  cases bound with
  | zero => cases h
  | succ bound =>
      rw [collect] at h
      split at h
      · cases h
      · cases h
      · next between hNext =>
          split at h
          · cases h
          · next hRest =>
              obtain ⟨hCons, rfl⟩ := Prod.mk.inj (Except.ok.inj h)
              obtain ⟨rfl, rfl⟩ := List.cons.inj hCons
              exact ⟨bound, between, rfl, hNext, hRest⟩

/-- All that is collected was yielded by some call of the reader. -/
theorem exists_next_of_mem_collect {next : Bool → List Char → Step (Option α)} {bound : Nat} {first : Bool}
    {text rest : List Char} {as : List α} (h : collect next bound first text = .ok (as, rest)) {a : α}
    (ha : a ∈ as) : ∃ first text rest, next first text = .ok (some a, rest) := by
  induction as generalizing bound first text with
  | nil => cases ha
  | cons b as ih =>
      obtain ⟨fewer, between, -, hNext, hRest⟩ := collect_eq_cons h
      rcases List.mem_cons.mp ha with rfl | hLater
      · exact ⟨_, _, _, hNext⟩
      · exact ih hRest hLater

/-- An element is read from its first character, behind a comma if it is not the first one. -/
theorem due_of_nextElement {element : List Char → Step α} {first : Bool} {text rest : List Char} {a : α}
    (h : nextElement element first text = .ok (some a, rest)) :
    ∃ due, element due = .ok (a, rest) ∧
      if first then skipSpace text = due ∧ ∃ c after, due = c :: after ∧ c ≠ ']'
      else ∃ between, skipSpace text = ',' :: between ∧ skipSpace between = due := by
  have hRead : ∀ due, ((element due).map fun read => (some read.1, read.2)) = .ok (some a, rest) →
      element due = .ok (a, rest) := by
    intro due hDue
    obtain ⟨⟨read, after⟩, hElement, hSame⟩ := map_eq_ok hDue
    obtain ⟨hSome, rfl⟩ := Prod.mk.inj hSame
    exact Option.some.inj hSome ▸ hElement
  unfold nextElement at h
  dsimp only at h
  split at h
  · cases h
  · cases h
  · next hEmpty hEnd =>
      split at h
      · next hFirst =>
          refine ⟨_, hRead _ h, ?_⟩
          rw [if_pos hFirst]
          refine ⟨rfl, ?_⟩
          cases hText : skipSpace text with
          | nil => exact (hEmpty hText).elim
          | cons c after =>
              refine ⟨c, after, rfl, ?_⟩
              rintro rfl
              exact hEnd _ hText
      · next hLater =>
          split at h
          · next between hComma =>
              split at h
              · cases h
              · cases h
              · refine ⟨_, hRead _ h, ?_⟩
                rw [if_neg hLater]
                exact ⟨between, hComma, rfl⟩
          · cases h

/-- The value of a member is read from behind the colon behind its key. -/
theorem due_of_nextMember {value : List Char → Step α} {first : Bool} {text rest : List Char}
    {member : String × α} (h : nextMember value first text = .ok (some member, rest)) :
    ∃ key afterKey due, nextKey first text = .ok (some key, afterKey) ∧ String.ofList key = member.1 ∧
      readColon afterKey = .ok due ∧ value due = .ok (member.2, rest) := by
  obtain ⟨⟨key?, afterKey⟩, hKey, h⟩ := bind_eq_ok h
  cases key? with
  | none => cases h
  | some key =>
      obtain ⟨due, hColon, h⟩ := bind_eq_ok h
      obtain ⟨⟨read, after⟩, hValue, h⟩ := bind_eq_ok h
      cases h
      exact ⟨key, afterKey, due, hKey, rfl, hColon, hValue⟩

/-- Where no member follows, no key does. -/
theorem nextKey_of_nextMember {value : List Char → Step α} {first : Bool} {text rest : List Char}
    (h : nextMember value first text = .ok (none, rest)) : nextKey first text = .ok (none, rest) := by
  obtain ⟨⟨key?, afterKey⟩, hKey, h⟩ := bind_eq_ok h
  cases key? with
  | none =>
      obtain ⟨-, rfl⟩ := Prod.mk.inj (Except.ok.inj h)
      exact hKey
  | some key =>
      obtain ⟨_, -, h⟩ := bind_eq_ok h
      obtain ⟨_, -, ⟨⟩⟩ := bind_eq_ok h

/-- Every element was read from somewhere in the text. -/
theorem exists_of_mem_readElements {element : List Char → Step α} {text rest : List Char} {as : List α}
    (h : readElements element text = .ok (as, rest)) {a : α} (ha : a ∈ as) :
    ∃ text rest, element text = .ok (a, rest) := by
  obtain ⟨between, hBody, -⟩ := within_eq_ok h
  obtain ⟨_, _, _, hNext⟩ := exists_next_of_mem_collect hBody ha
  obtain ⟨due, hElement, -⟩ := due_of_nextElement hNext
  exact ⟨due, _, hElement⟩

/-- Every value of a member was read from somewhere in the text. -/
theorem exists_of_mem_readMembers {value : List Char → Step α} {text rest : List Char}
    {members : List (String × α)} (h : readMembers value text = .ok (members, rest)) {member : String × α}
    (hMember : member ∈ members) : ∃ text rest, value text = .ok (member.2, rest) := by
  obtain ⟨between, hBody, -⟩ := within_eq_ok h
  obtain ⟨_, _, _, hNext⟩ := exists_next_of_mem_collect hBody hMember
  obtain ⟨_, _, due, -, -, -, hValue⟩ := due_of_nextMember hNext
  exact ⟨due, _, hValue⟩

/-- What a reader yields is formed, if what it reads one level deeper is. -/
theorem formed_of_readValueWith {deeper : Option (List Char → Step Value)} {levels : Nat}
    (hDeeper : ∀ value, deeper = some value → ∃ below, levels = below + 1 ∧
      ∀ text v rest, value text = .ok (v, rest) → v.Formed below)
    {text rest : List Char} {v : Value} (h : readValueWith deeper text = .ok (v, rest)) : v.Formed levels := by
  unfold readValueWith at h
  split at h
  · cases h
  · obtain ⟨_, -, ⟨⟩⟩ := map_eq_ok h
    exact .null levels
  · obtain ⟨_, -, ⟨⟩⟩ := map_eq_ok h
    exact .bool levels true
  · obtain ⟨_, -, ⟨⟩⟩ := map_eq_ok h
    exact .bool levels false
  · obtain ⟨_, -, ⟨⟩⟩ := map_eq_ok h
    exact .string levels _
  · obtain ⟨_, -, ⟨⟩⟩ := map_eq_ok h
    exact .number levels _
  · split at h
    · cases h
    · next value =>
        obtain ⟨below, rfl, hBelow⟩ := hDeeper value rfl
        obtain ⟨⟨items, after⟩, hItems, ⟨⟩⟩ := map_eq_ok h
        refine .array fun item hItem => ?_
        obtain ⟨text, rest, hRead⟩ := exists_of_mem_readElements hItems hItem
        exact hBelow text item rest hRead
  · split at h
    · cases h
    · next value =>
        obtain ⟨below, rfl, hBelow⟩ := hDeeper value rfl
        obtain ⟨⟨members, after⟩, hMembers, ⟨⟩⟩ := map_eq_ok h
        refine .object (ascending_sortPairs members) fun member hMember => ?_
        obtain ⟨text, rest, hRead⟩ := exists_of_mem_readMembers hMembers (mem_of_mem_sortPairs hMember)
        exact hBelow text member.2 rest hRead
  · split at h
    · obtain ⟨_, -, ⟨⟩⟩ := map_eq_ok h
      exact .number levels _
    · cases h

/-- A value is nested no deeper than its reader goes. -/
theorem formed_of_readValue {levels : Nat} {text rest : List Char} {v : Value}
    (h : readValue levels text = .ok (v, rest)) : v.Formed levels := by
  induction levels generalizing text rest v with
  | zero => exact @formed_of_readValueWith none 0 nofun text rest v h
  | succ levels ih =>
      refine formed_of_readValueWith (fun value hValue => ⟨levels, rfl, ?_⟩) h
      obtain rfl := Option.some.inj hValue
      intro text v rest hRead
      exact ih hRead

/-! ### Reading what was written -/

/-- A value is read with a reader of the values in it, if levels are left. -/
theorem exists_readValueWith (levels : Nat) : ∃ deeper, readValue levels = readValueWith deeper := by
  cases levels with
  | zero => exact ⟨none, rfl⟩
  | succ levels => exact ⟨some (readValue levels), rfl⟩

/-- A digit starts a number. -/
theorem readValueWith_digit (deeper : Option (List Char → Step Value)) {c : Char} (h : c.isDigit = true)
    (text : List Char) :
    readValueWith deeper (c :: text) = (readNumber true (c :: text)).map fun (n, rest) => (.number n, rest) := by
  have hNot : ∀ {d : Char} {rest : List Char}, d.isDigit = false → c :: text ≠ d :: rest := by
    rintro d rest hDigit ⟨⟩
    cases h.symm.trans hDigit
  unfold readValueWith
  rw [skipSpace_cons (isSpace_of_isDigit h)]
  split
  · next hText => cases hText
  iterate 7
    · next hText => exact absurd hText (hNot rfl)
  · next hText =>
      obtain ⟨rfl, rfl⟩ := List.cons.inj hText
      rw [if_pos h]

namespace Reads

variable {levels : Nat}

/-- Null is read from its word. -/
theorem null (levels : Nat) : Reads (readValue levels) Value.null.compact .null where
  opens := ⟨'n', _, rfl, rfl, by decide⟩
  reads rest _ := by
    obtain ⟨deeper, hReader⟩ := exists_readValueWith levels
    rw [hReader]
    rfl

/-- A truth value is read from its word. -/
theorem bool (levels : Nat) (b : Bool) : Reads (readValue levels) (Value.bool b).compact (.bool b) := by
  obtain ⟨deeper, hReader⟩ := exists_readValueWith levels
  rw [hReader]
  cases b with
  | false => exact ⟨⟨'f', _, rfl, rfl, by decide⟩, fun rest _ => rfl⟩
  | true => exact ⟨⟨'t', _, rfl, rfl, by decide⟩, fun rest _ => rfl⟩

/-- A whole number of 64 bits is read from its digits. -/
theorem wholeNumber (levels : Nat) {n : Int} (h : Bounds.int64.admits n = true) :
    Reads (readValue levels) (Value.number (.integer n)).compact (.number (.integer n)) := by
  obtain ⟨deeper, hReader⟩ := exists_readValueWith levels
  obtain ⟨hLeast, hGreatest⟩ := Bounds.admits_iff.mp h
  have hFits : n ≤ Bounds.word64.greatest := Int.le_trans hGreatest (by decide)
  rw [hReader]
  refine numeral hLeast hFits (fun text rest hRead => ?_) fun c text rest hDigit hRead => ?_
  · have hMinus : readValueWith deeper ('-' :: text) =
        (readNumber false text).map fun (n, rest) => (.number n, rest) := rfl
    rw [hMinus, hRead]
    rfl
  · rw [readValueWith_digit deeper hDigit, hRead]
    rfl

/-- What a reader does with a text is decided by its first character. -/
theorem ofFirst {read other : List Char → Step α} {c : Char} {text : List Char} {a : α}
    (h : Reads other (c :: text) a) (hSame : ∀ more, read (c :: more) = other (c :: more)) :
    Reads read (c :: text) a where
  opens := h.opens
  reads rest hRest := by
    rw [List.cons_append, hSame]
    exact h.reads rest hRest

/-- An array is read from what its elements are read from. -/
theorem arrayValue {items : List Value} (h : ∀ item ∈ items, Reads (readValue levels) item.compact item) :
    Reads (readValue (levels + 1)) (Value.array items).compact (.array items) := by
  have hList : Reads (Decoder.list Decoder.value (levels + 1))
      ('[' :: Text.join [','] (items.map Value.compact) ++ [']']) items :=
    list h
  rw [Value.compact, Value.compactItems_eq_map]
  exact (hList.map Value.array).ofFirst fun _ => rfl

/-- An object whose keys are in order is read from what its members are read from. -/
theorem objectValue {members : List (String × Value)} (hOrder : Ascending members)
    (h : ∀ member ∈ members, Reads (readValue levels) member.2.compact member.2) :
    Reads (readValue (levels + 1)) (Value.object members).compact (.object members) := by
  have hDictionary : Reads (Decoder.dictionary Decoder.value (levels + 1))
      ('{' :: Text.join [','] (members.map fun member => memberText member.1 member.2.compact) ++ ['}'])
      (.ofList members) :=
    dictionary h
  have hEntries : (Dictionary.ofList members).entries = members := sortPairs_of_ascending hOrder
  have hObject := hDictionary.map fun dictionary => Value.object dictionary.entries
  rw [hEntries] at hObject
  rw [Value.compact, Value.compactMembers_eq_map]
  refine hObject.ofFirst fun more => ?_
  have hBrace : readValue (levels + 1) ('{' :: more) =
      (readMembers (Decoder.value levels) more).map fun members =>
        (.object (sortPairs members.1), members.2) :=
    rfl
  rw [hBrace, Decoder.dictionary_brace]
  cases readMembers (Decoder.value levels) more <;> rfl

/-- A value is read back from its text, if its numbers are whole. -/
theorem compact {v : Value} (hFormed : v.Formed levels) (hNumbers : v.Numbers (Number.IsWhole .int64)) :
    Reads (readValue levels) v.compact v := by
  induction hFormed with
  | null levels => exact null levels
  | bool levels b => exact bool levels b
  | number levels n =>
      cases hNumbers with
      | number h =>
          cases n with
          | integer n => exact wholeNumber levels h
          | double x => cases h
  | string levels s => exact stringValue levels s
  | array _ ih =>
      cases hNumbers with
      | array h => exact arrayValue fun item hItem => ih item hItem (h item hItem)
  | object order _ ih =>
      cases hNumbers with
      | object h => exact objectValue order fun member hMember => ih member hMember (h member hMember)

end Reads

/-- A value that is not nested too deeply and has whole numbers only is read from its text. -/
theorem Value.read_text {v : Value} (hFormed : v.Formed maxDepth) (hNumbers : v.Numbers (Number.IsWhole .int64)) :
    Value.read v.text.toList = .ok v := by
  rw [text, String.toList_ofList]
  exact (Reads.compact hFormed hNumbers).whole

end LogIngest.Json
