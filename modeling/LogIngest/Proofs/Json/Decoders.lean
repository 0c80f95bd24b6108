import LogIngest.Json.Decoder
import LogIngest.Proofs.Dictionary
import LogIngest.Proofs.Json.Lexemes

/-!
Readers of values invert writers of values. Main statements: for strings, whole numbers, arrays and
objects with values of one type, what was written is read back up to its end, at any depth at which it
may stand.
-/

namespace LogIngest.Json

variable {α β : Type}

theorem isSpace_of_isDigit {c : Char} (h : c.isDigit = true) : isSpace c = false := by
  have hNot : ∀ d, d.isDigit = false → c ≠ d := by
    intro d hd hSame
    rw [hSame, hd] at h
    cases h
  simp [isSpace, hNot ' ' rfl, hNot '\n' rfl, hNot '\t' rfl, hNot '\r' rfl]

/-- What starts with no white space is not shortened. -/
theorem skipSpace_cons {c : Char} (h : isSpace c = false) (rest : List Char) :
    skipSpace (c :: rest) = c :: rest := by
  simp [skipSpace, h]

/-- A reader finds a value in a text, wherever the text ends as values do. The text begins with no white
space and is not taken for the end of an array. -/
structure Reads (read : List Char → Step α) (text : List Char) (a : α) : Prop where
  opens : ∃ c tail, text = c :: tail ∧ isSpace c = false ∧ c ≠ ']'
  reads : ∀ rest, Closed rest → read (text ++ rest) = .ok (a, rest)

/-! ### Items between brackets -/

/-- A text as one of several items: all but the first stand behind a comma. -/
def item (first : Bool) (text : List Char) : List Char :=
  if first then text else ',' :: text

/-- Texts as items one behind the other. -/
def items : Bool → List (List Char) → List Char
  | _, [] => []
  | first, text :: texts => item first text ++ items false texts

/-- The items of a container are joined by commas, which is how they are read one by one. -/
theorem join_eq_items (texts : List (List Char)) : Text.join [','] texts = items true texts := by
  induction texts with
  | nil => rfl
  | cons text texts ih =>
      cases texts with
      | nil => simp [Text.join, items, item]
      | cons next texts =>
          rw [Text.join, ih]
          · simp [items, item]
          · simp

/-- There are no more items than characters, so a bound on the characters bounds the loop. -/
theorem length_le_length_items (first : Bool) (texts : List (List Char)) :
    texts.length ≤ (items first texts).length + 1 := by
  have hLater : ∀ texts : List (List Char), texts.length ≤ (items false texts).length := by
    intro texts
    induction texts with
    | nil => exact Nat.le_refl 0
    | cons text texts ih =>
        simp only [items, item, List.length_append, List.length_cons, Bool.false_eq_true, if_false]
        omega
  cases texts with
  | nil => exact Nat.zero_le _
  | cons text texts =>
      have hRest := hLater texts
      simp only [items, List.length_append, List.length_cons]
      omega

/-- What follows an item closes it: a comma or what comes behind all items. -/
theorem closed_items {closing : List Char} (h : Closed closing) (texts : List (List Char)) :
    Closed (items false texts ++ closing) := by
  cases texts with
  | nil => exact h
  | cons text texts => exact .comma _

/-- Items are collected up to the closing bracket or brace, if each of them is read from its text. -/
theorem collect_items {next : Bool → List Char → Step (Option α)} {write : α → List Char}
    {closing : List Char} (hClosed : Closed closing)
    (hEnd : ∀ first, next first closing = .ok (none, closing)) {as : List α}
    (hNext : ∀ a ∈ as, ∀ first rest, Closed rest →
      next first (item first (write a) ++ rest) = .ok (some a, rest))
    {bound : Nat} (hBound : as.length < bound) (first : Bool) :
    collect next bound first (items first (as.map write) ++ closing) = .ok (as, closing) := by
  induction as generalizing bound first with
  | nil =>
      cases bound with
      | zero => cases hBound
      | succ bound => simp only [List.map_nil, items, List.nil_append, collect, hEnd]
  | cons a as ih =>
      cases bound with
      | zero => cases hBound
      | succ bound =>
          have hFirst := hNext a List.mem_cons_self first _ (closed_items hClosed (as.map write))
          have hRest := ih (fun b hb => hNext b (List.mem_cons_of_mem a hb))
            (Nat.lt_of_succ_lt_succ hBound) false
          simp only [List.map_cons, items, List.append_assoc, collect, hFirst, hRest]

/-- The number of items is within the bound that the length of the text gives. -/
theorem length_lt_bound (write : α → List Char) (as : List α) (c : Char) (rest : List Char) :
    as.length < (items true (as.map write) ++ c :: rest).length + 1 := by
  have hLength := length_le_length_items true (as.map write)
  rw [List.length_map] at hLength
  rw [List.length_append, List.length_cons]
  omega

/-! ### Elements and members -/

/-- A written string opens with a quote, and another one closes it. -/
theorem stringText_append (s rest : List Char) :
    stringText s ++ rest = '"' :: (s.flatMap escaped ++ '"' :: rest) := by
  simp [stringText]

/-- Behind a comma the next element has to follow. -/
theorem nextElement_comma (element : List Char → Step α) (rest : List Char) :
    nextElement element false (',' :: rest) =
      match skipSpace rest with
      | [] => stopPast .eofValue []
      | ']' :: rest => stopPast .trailingComma (']' :: rest)
      | rest => (element rest).map fun (a, rest) => (some a, rest) :=
  rfl

/-- An element is read behind its comma, or at the beginning. -/
theorem nextElement_item {element : List Char → Step α} {text : List Char} {a : α}
    (h : Reads element text a) (first : Bool) {rest : List Char} (hRest : Closed rest) :
    nextElement element first (item first text ++ rest) = .ok (some a, rest) := by
  obtain ⟨c, tail, rfl, hSpace, hEnd⟩ := h.opens
  have hRead := h.reads rest hRest
  rw [List.cons_append] at hRead
  cases first with
  | true =>
      simp only [item, if_true, List.cons_append, nextElement, skipSpace_cons hSpace]
      split
      · next h => cases h
      · next h => exact absurd (List.cons.inj h).1 hEnd
      · rw [hRead]
        rfl
  | false =>
      simp only [item, Bool.false_eq_true, if_false, List.cons_append, nextElement_comma,
        skipSpace_cons hSpace]
      split
      · next h => cases h
      · next h => exact absurd (List.cons.inj h).1 hEnd
      · rw [hRead]
        rfl

/-- The key of the first member stands at once. -/
theorem nextKey_quote (text : List Char) :
    nextKey true ('"' :: text) = (readString text).map fun (key, rest) => (some key, rest) :=
  rfl

/-- The keys of the other members stand behind a comma. -/
theorem nextKey_comma_quote (text : List Char) :
    nextKey false (',' :: '"' :: text) =
      (readString text).map fun (key, rest) => (some key, rest) :=
  rfl

/-- A key is read behind its comma, or at the beginning. -/
theorem nextKey_item (key : List Char) (first : Bool) (rest : List Char) :
    nextKey first (item first (stringText key) ++ rest) = .ok (some key, rest) := by
  cases first with
  | true =>
      rw [item, if_pos rfl, stringText_append, nextKey_quote, readString_escaped]
      rfl
  | false =>
      rw [item, if_neg Bool.false_ne_true, List.cons_append, stringText_append, nextKey_comma_quote,
        readString_escaped]
      rfl

/-- The text of a member: its key and the text of its value. -/
def memberText (key : String) (text : List Char) : List Char :=
  stringText key.toList ++ ':' :: text

/-- A member is its key, a colon and its value. -/
theorem item_memberText (first : Bool) (key : String) (text rest : List Char) :
    item first (memberText key text) ++ rest =
      item first (stringText key.toList) ++ ':' :: (text ++ rest) := by
  cases first <;> simp [item, memberText]

theorem readColon_cons (rest : List Char) : readColon (':' :: rest) = .ok rest :=
  rfl

/-- A written member is read as its key with the value that its text is read as. -/
theorem nextMember_item {value : List Char → Step α} {key : String} {text : List Char} {a : α}
    (h : Reads value text a) (first : Bool) {rest : List Char} (hRest : Closed rest) :
    nextMember value first (item first (memberText key text) ++ rest) =
      .ok (some (key, a), rest) := by
  rw [item_memberText, nextMember, nextKey_item]
  simp only [bind, Except.bind, readColon_cons, h.reads rest hRest, String.ofList_toList]
  rfl

/-! ### Decoders -/

/-- A quote starts a string among the values. -/
theorem readValue_quote (levels : Nat) (text : List Char) :
    readValue levels ('"' :: text) =
      (readString text).map fun (s, rest) => (.string (String.ofList s), rest) := by
  cases levels <;> rfl

namespace Decoder

/-- A quote starts what the reader of strings reads. -/
theorem string_quote (levels : Nat) (text : List Char) :
    Decoder.string levels ('"' :: text) =
      (readString text).map fun (s, rest) => (String.ofList s, rest) :=
  rfl

/-- A brace starts the members of a dictionary. -/
theorem dictionary_brace (decoder : Decoder α) (levels : Nat) (text : List Char) :
    Decoder.dictionary decoder (levels + 1) ('{' :: text) =
      (readMembers (decoder levels) text).map fun (members, rest) => (.ofList members, rest) :=
  rfl

theorem list_bracket (decoder : Decoder α) (levels : Nat) (text : List Char) :
    Decoder.list decoder (levels + 1) ('[' :: text) = readElements (decoder levels) text :=
  rfl

section

variable {expected : String} {accept : Number → Except Cause α} {n : Number} {a : α}
  {text rest : List Char}

/-- A minus sign starts a number. -/
theorem number_minus (levels : Nat) (h : readNumber false text = .ok (n, rest))
    (hAccept : accept n = .ok a) :
    Decoder.number expected accept levels ('-' :: text) = .ok (a, rest) := by
  have hMinus : skipSpace ('-' :: text) = '-' :: text := skipSpace_cons rfl text
  simp only [Decoder.number, hMinus, h, bind, Except.bind, hAccept]

/-- A digit starts a number without a sign. -/
theorem number_digit (levels : Nat) {c : Char} (hDigit : c.isDigit = true)
    (h : readNumber true (c :: text) = .ok (n, rest)) (hAccept : accept n = .ok a) :
    Decoder.number expected accept levels (c :: text) = .ok (a, rest) := by
  simp only [Decoder.number, skipSpace_cons (isSpace_of_isDigit hDigit)]
  split
  · next hText => cases hText
  · next hText =>
      obtain ⟨rfl, -⟩ := List.cons.inj hText
      cases hDigit
  · next hText =>
      obtain ⟨rfl, rfl⟩ := List.cons.inj hText
      simp only [hDigit, if_true, h, bind, Except.bind, hAccept]

end
end Decoder

namespace Reads

variable {read : List Char → Step α} {text : List Char} {a : α} {levels : Nat}

/-- What is read back is read to the end of its text. -/
theorem whole (h : Reads read text a) : readWhole read text = .ok a := by
  have hReads := h.reads [] .done
  rw [List.append_nil] at hReads
  rw [readWhole, hReads]
  rfl

/-- A reader that goes on with what was read reads the same texts. -/
theorem map (f : α → β) (h : Reads read text a) :
    Reads (fun text => (read text).map fun (a, rest) => (f a, rest)) text (f a) where
  opens := h.opens
  reads rest hRest := by rw [h.reads rest hRest]; rfl

/-- A text is read as the meaning of its value, if that has one. -/
theorem interpret {decoder : Decoder α} (h : Reads (decoder levels) text a)
    {meaning : α → Except String β} {b : β} (hMeaning : meaning a = .ok b) :
    Reads (decoder.interpret meaning levels) text b where
  opens := h.opens
  reads rest hRest := by
    simp only [Decoder.interpret, h.reads rest hRest, bind, Except.bind, hMeaning]
    rfl

/-- Every string is read from the text that is written of it. -/
theorem string (levels : Nat) (s : String) :
    Reads (Decoder.string levels) (stringText s.toList) s where
  opens := ⟨'"', _, rfl, rfl, by decide⟩
  reads rest _ := by
    rw [stringText_append, Decoder.string_quote, readString_escaped]
    simp only [Except.map, String.ofList_toList]

/-- A string is a value as well. -/
theorem stringValue (levels : Nat) (s : String) :
    Reads (readValue levels) (Value.string s).compact (.string s) where
  opens := ⟨'"', _, rfl, rfl, by decide⟩
  reads rest _ := by
    rw [Value.compact, stringText_append, readValue_quote, readString_escaped]
    simp only [Except.map, String.ofList_toList]

/-- A whole number of 64 bits is read from its digits, behind a minus sign if it is negative. -/
theorem numeral {n : Int} (hLeast : Bounds.int64.least ≤ n) (hGreatest : n ≤ Bounds.word64.greatest)
    (hMinus : ∀ text rest, readNumber false text = .ok (.integer n, rest) →
      read ('-' :: text) = .ok (a, rest))
    (hDigit : ∀ c text rest, c.isDigit = true → readNumber true (c :: text) = .ok (.integer n, rest) →
      read (c :: text) = .ok (a, rest)) :
    Reads read (intText n) a := by
  rcases Int.lt_or_le n 0 with hn | hn
  · have hText : intText n = '-' :: natText n.natAbs := if_pos hn
    refine ⟨⟨'-', _, hText, rfl, by decide⟩, fun rest hRest => ?_⟩
    rw [hText, List.cons_append]
    exact hMinus _ _ (readNumber_of_neg hn hLeast hRest)
  · have hText : intText n = natText n.natAbs := if_neg (Int.not_lt.mpr hn)
    obtain ⟨c, digits, hCons⟩ := List.exists_cons_of_ne_nil (natText_ne_nil n.natAbs)
    have hFirst : c.isDigit = true := isDigit_of_mem_natText (by rw [hCons]; exact List.mem_cons_self)
    have hEnd : c ≠ ']' := by
      rintro rfl
      cases hFirst
    refine ⟨⟨c, digits, hText.trans hCons, isSpace_of_isDigit hFirst, hEnd⟩, fun rest hRest => ?_⟩
    have hRead := readNumber_of_nonneg hn hGreatest hRest
    rw [hCons, List.cons_append] at hRead
    rw [hText, hCons, List.cons_append]
    exact hDigit _ _ _ hFirst hRead

/-- A whole number of 64 bits reaches the function that takes it. -/
theorem number {expected : String} {accept : Number → Except Cause α} {n : Int}
    (hLeast : Bounds.int64.least ≤ n) (hGreatest : n ≤ Bounds.word64.greatest)
    (hAccept : accept (.integer n) = .ok a) :
    Reads (Decoder.number expected accept levels) (intText n) a := by
  refine numeral hLeast hGreatest (fun text rest hRead => ?_) fun c text rest hDigit hRead => ?_
  · exact Decoder.number_minus levels hRead hAccept
  · exact Decoder.number_digit levels hDigit hRead hAccept

/-- A whole number is read within the bounds of its type and those of all numbers that are written. -/
theorem integer {expected : String} {bounds : Bounds} {n : Int} (hAdmits : bounds.admits n = true)
    (hLeast : Bounds.int64.least ≤ n) (hGreatest : n ≤ Bounds.word64.greatest) :
    Reads (Decoder.integer expected bounds levels) (intText n) n :=
  number hLeast hGreatest (by simp only [hAdmits, if_true])

/-- A value is told from the null that stands for none. -/
theorem option {decoder : Decoder α} (h : Reads (decoder levels) text a)
    (hNull : ∀ tail, text ≠ 'n' :: tail) :
    Reads (Decoder.option decoder levels) text (some a) where
  opens := h.opens
  reads rest hRest := by
    obtain ⟨c, tail, rfl, hSpace, -⟩ := h.opens
    have hRead := h.reads rest hRest
    rw [List.cons_append] at hRead ⊢
    simp only [Decoder.option, skipSpace_cons hSpace]
    split
    · next h => exact absurd (congrArg (· :: tail) (List.cons.inj h).1) (hNull tail)
    · rw [hRead]
      rfl

/-- An array is read if each of its elements is, one level deeper. -/
theorem list {decoder : Decoder α} {write : α → List Char} {as : List α}
    (h : ∀ a ∈ as, Reads (decoder levels) (write a) a) :
    Reads (Decoder.list decoder (levels + 1)) ('[' :: Text.join [','] (as.map write) ++ [']']) as where
  opens := ⟨'[', _, rfl, rfl, by decide⟩
  reads rest _ := by
    have hItems := collect_items (.bracket rest) (fun _ => rfl)
      (fun a ha first rest hRest => nextElement_item (h a ha) first hRest)
      (length_lt_bound write as ']' rest) true
    rw [join_eq_items, List.cons_append, List.cons_append, Decoder.list_bracket, List.append_assoc,
      List.singleton_append, readElements, hItems]
    rfl

/-- Members are read up to the closing brace if the value of each of them is. -/
theorem members {read : List Char → Step α} {write : α → List Char} {members : List (String × α)}
    (h : ∀ member ∈ members, Reads read (write member.2) member.2) (rest : List Char) :
    readMembers read
        (Text.join [','] (members.map fun member => memberText member.1 (write member.2)) ++ '}' :: rest) =
      .ok (members, rest) := by
  let writeMember (member : String × α) : List Char := memberText member.1 (write member.2)
  have hItems := collect_items (.brace rest) (fun _ => rfl)
    (fun member hMember first rest hRest => nextMember_item (h member hMember) first hRest)
    (length_lt_bound writeMember members '}' rest) true
  rw [join_eq_items, readMembers, hItems]
  rfl

/-- An object is read as a dictionary if the value of each member is read, one level deeper. -/
theorem dictionary {decoder : Decoder α} {write : α → List Char} {members : List (String × α)}
    (h : ∀ member ∈ members, Reads (decoder levels) (write member.2) member.2) :
    Reads (Decoder.dictionary decoder (levels + 1))
      ('{' :: Text.join [','] (members.map fun member => memberText member.1 (write member.2)) ++ ['}'])
      (.ofList members) where
  opens := ⟨'{', _, rfl, rfl, by decide⟩
  reads rest _ := by
    rw [List.cons_append, List.cons_append, Decoder.dictionary_brace, List.append_assoc, List.singleton_append,
      Reads.members h]
    rfl

end Reads

/-- A number does not look like null. -/
theorem intText_ne_null (n : Int) (tail : List Char) : intText n ≠ 'n' :: tail := by
  intro h
  unfold intText at h
  split at h
  · cases h
  · have hDigit : 'n'.isDigit = true := isDigit_of_mem_natText (by rw [h]; exact List.mem_cons_self)
    cases hDigit

/-! ### Texts of values -/

namespace Value

/-- Elements are written one by one. -/
theorem compactItems_eq_map (values : List Value) : compactItems values = values.map compact := by
  induction values with
  | nil => rfl
  | cons value values ih => rw [compactItems, ih, List.map_cons]

/-- Members are written one by one, each with its key. -/
theorem compactMembers_eq_map (members : List (String × Value)) :
    compactMembers members = members.map fun member => memberText member.1 member.2.compact := by
  induction members with
  | nil => rfl
  | cons member members ih =>
      obtain ⟨key, value⟩ := member
      rw [compactMembers, ih, List.map_cons, memberText]

end Value

namespace Reads

variable {levels : Nat}

/-- An array is read back if its elements are. -/
theorem array {decoder : Decoder α} {toJson : α → Value} {as : List α}
    (h : ∀ a ∈ as, Reads (decoder levels) (toJson a).compact a) :
    Reads (Decoder.list decoder (levels + 1)) (Value.array (as.map toJson)).compact as := by
  have hItems : Value.compactItems (as.map toJson) = as.map fun a => (toJson a).compact := by
    rw [Value.compactItems_eq_map, List.map_map]
    rfl
  rw [Value.compact, hItems]
  exact list h

/-- An object is read back if the values of its members are. -/
theorem object {decoder : Decoder α} {toJson : α → Value} {members : List (String × α)}
    (h : ∀ member ∈ members, Reads (decoder levels) (toJson member.2).compact member.2) :
    Reads (Decoder.dictionary decoder (levels + 1))
      (Value.object (members.map fun member => (member.1, toJson member.2))).compact
      (.ofList members) := by
  have hMembers : Value.compactMembers (members.map fun member => (member.1, toJson member.2)) =
      members.map fun member => memberText member.1 (toJson member.2).compact := by
    rw [Value.compactMembers_eq_map, List.map_map]
    rfl
  rw [Value.compact, hMembers]
  exact @dictionary α levels decoder (fun a => (toJson a).compact) members h

end Reads
end LogIngest.Json
