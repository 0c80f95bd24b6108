import LogIngest.Proofs.Decimal.Numeral
import LogIngest.Proofs.Parser.Documents
import LogIngest.Proofs.Parser.FirstNumerals

/-!
Strings in messages that are JSON objects. Main statement: a message keeps its shape, its keys and all values
that are no strings when it is stored, at every depth; and each string in it becomes the date that it stands
for, or else the whole number that it stands for, or else stays as it is.
-/

namespace LogIngest

open Calendar (Instant)
open Json (Value member?)

/-! ### What a string stands for -/

namespace StringHints

/-- A string stands for a date if it matches the pattern of dates and is a date of the format. -/
inductive IsDate (hints : StringHints) (s : String) (instant : Instant) : Prop where
  | intro {pattern : Pattern} (hPattern : hints.date = some pattern)
      (hMatch : pattern.occursIn s = true) (hFormat : hints.format.read? s.toList = some instant)

/-- Where a string that matches the pattern of whole numbers has its number: in the first group, or
anywhere in the string if that group took no part in the match. -/
inductive Designates (hints : StringHints) (s : String) : (digits : List Char) → Prop where
  | captured {pattern : Pattern} {captures : Pattern.Captures} {text : String}
      (hPattern : hints.long = some pattern) (hMatch : pattern.find? s = some captures)
      (hGroup : captures.group? 1 = some text) : hints.Designates s text.toList
  | first {pattern : Pattern} {captures : Pattern.Captures} {digits : List Char}
      (hPattern : hints.long = some pattern) (hMatch : pattern.find? s = some captures)
      (hGroup : captures.group? 1 = none) (hFirst : FirstNumeral s.toList digits) :
      hints.Designates s digits

/-- A string stands for a whole number of 64 bits if it has its numeral at that place. -/
inductive IsLong (hints : StringHints) (s : String) (n : Int64) : Prop where
  | intro {digits : List Char} (hDigits : hints.Designates s digits)
      (hNumeral : IsNumeral digits n.toInt)

/-- What becomes of a string: a date, or else a whole number, or else the string itself. -/
inductive StandsFor (hints : StringHints) (s : String) : FieldValue → Prop where
  | date {instant : Instant} (h : hints.IsDate s instant) : hints.StandsFor s (.date instant)
  | long {n : Int64} (hDate : ∀ instant, ¬hints.IsDate s instant) (h : hints.IsLong s n) :
      hints.StandsFor s (.long n)
  | string (hDate : ∀ instant, ¬hints.IsDate s instant) (hLong : ∀ n, ¬hints.IsLong s n) :
      hints.StandsFor s (.string s)

variable {hints : StringHints} {s : String}

theorem date?_eq_some_iff {instant : Instant} :
    hints.date? s = some instant ↔ hints.IsDate s instant := by
  simp only [date?, Option.ite_none_right_eq_some, Option.any_eq_true]
  constructor
  · rintro ⟨⟨pattern, hPattern, hMatch⟩, hFormat⟩
    exact ⟨hPattern, hMatch, hFormat⟩
  · rintro ⟨hPattern, hMatch, hFormat⟩
    exact ⟨⟨_, hPattern, hMatch⟩, hFormat⟩

/-- The whole number of 64 bits that is written in a text. -/
def readLong? (text : List Char) : Option Int64 :=
  match Bounds.int64.read text with
  | .ok n => some (Int64.ofInt n)
  | .error _ => none

theorem readLong?_eq_some_iff {text : List Char} {n : Int64} :
    readLong? text = some n ↔ IsNumeral text n.toInt := by
  have hRead {m : Int} : Bounds.int64.read text = .ok m ↔ IsNumeral text m ∧ Bounds.int64.admits m = true :=
    Bounds.read_eq_ok_iff (by decide) (by decide)
  unfold readLong?
  constructor
  · intro h
    split at h
    · next m hText =>
        obtain rfl := Option.some.inj h
        obtain ⟨hNumeral, hAdmits⟩ := hRead.mp hText
        obtain ⟨hLeast, hGreatest⟩ := Bounds.admits_iff.mp hAdmits
        rwa [Int64.toInt_ofInt_of_le hLeast (Int.lt_add_one_of_le hGreatest)]
    · cases h
  · intro h
    have hAdmits : Bounds.int64.admits n.toInt = true :=
      Bounds.admits_iff.mpr ⟨n.le_toInt, Int.le_of_lt_add_one n.toInt_lt⟩
    simp [hRead.mpr ⟨h, hAdmits⟩]

theorem long?_eq (hints : StringHints) (s : String) :
    hints.long? s = hints.long.bind fun pattern => (pattern.find? s).bind fun captures =>
      match captures.group? 1 with
      | some text => readLong? text.toList
      | none => (firstNumeral? s.toList).bind readLong? := by
  rfl

theorem long?_eq_some_iff {n : Int64} : hints.long? s = some n ↔ hints.IsLong s n := by
  simp only [long?_eq, Option.bind_eq_some_iff]
  constructor
  · rintro ⟨pattern, hPattern, captures, hMatch, h⟩
    cases hGroup : captures.group? 1 with
    | some text =>
        rw [hGroup] at h
        exact ⟨.captured hPattern hMatch hGroup, readLong?_eq_some_iff.mp h⟩
    | none =>
        rw [hGroup] at h
        obtain ⟨digits, hFirst, hRead⟩ := Option.bind_eq_some_iff.mp h
        have hDesignates := Designates.first hPattern hMatch hGroup (firstNumeral?_eq_some_iff.mp hFirst)
        exact ⟨hDesignates, readLong?_eq_some_iff.mp hRead⟩
  · rintro ⟨hDesignates, hNumeral⟩
    have hRead := readLong?_eq_some_iff.mpr hNumeral
    cases hDesignates with
    | captured hPattern hMatch hGroup =>
        refine ⟨_, hPattern, _, hMatch, ?_⟩
        rw [hGroup]
        exact hRead
    | first hPattern hMatch hGroup hFirst =>
        refine ⟨_, hPattern, _, hMatch, ?_⟩
        rw [hGroup]
        exact Option.bind_eq_some_iff.mpr ⟨_, firstNumeral?_eq_some_iff.mpr hFirst, hRead⟩

/-- Every string stands for exactly one value. -/
theorem standsFor_iff {value : FieldValue} : hints.StandsFor s value ↔ value = hints.ofString s := by
  constructor
  · intro h
    cases h with
    | date hDate => simp only [ofString, date?_eq_some_iff.mpr hDate]
    | long hNoDate hLong =>
        have hDate : hints.date? s = none :=
          Option.eq_none_iff_forall_ne_some.mpr fun instant h => hNoDate instant (date?_eq_some_iff.mp h)
        simp only [ofString, hDate, long?_eq_some_iff.mpr hLong]
    | string hNoDate hNoLong =>
        have hDate : hints.date? s = none :=
          Option.eq_none_iff_forall_ne_some.mpr fun instant h => hNoDate instant (date?_eq_some_iff.mp h)
        have hLong : hints.long? s = none :=
          Option.eq_none_iff_forall_ne_some.mpr fun n h => hNoLong n (long?_eq_some_iff.mp h)
        simp only [ofString, hDate, hLong]
  · rintro rfl
    unfold ofString
    cases hDate : hints.date? s with
    | some instant => exact .date (date?_eq_some_iff.mp hDate)
    | none =>
        have hNoDate (instant) : ¬hints.IsDate s instant := fun h =>
          nomatch hDate.symm.trans (date?_eq_some_iff.mpr h)
        cases hLong : hints.long? s with
        | some n => exact .long hNoDate (long?_eq_some_iff.mp hLong)
        | none =>
            exact .string hNoDate fun n h => nomatch hLong.symm.trans (long?_eq_some_iff.mpr h)

end StringHints

/-! ### Strings inside of values -/

/-- Two values of one shape that differ only in their strings: each string of the first is related to what
stands in its place in the second. -/
inductive FieldValue.Replaces (leaf : String → FieldValue → Prop) : FieldValue → FieldValue → Prop where
  | string {s : String} {value : FieldValue} (h : leaf s value) : Replaces leaf (.string s) value
  | integer (n : Int32) : Replaces leaf (.integer n) (.integer n)
  | long (n : Int64) : Replaces leaf (.long n) (.long n)
  | double (x : Float) : Replaces leaf (.double x) (.double x)
  | boolean (b : Bool) : Replaces leaf (.boolean b) (.boolean b)
  | date (instant : Instant) : Replaces leaf (.date instant) (.date instant)
  | null : Replaces leaf .null .null
  | array {items others : List FieldValue} (h : List.Forall₂ (Replaces leaf) items others) :
      Replaces leaf (.array items) (.array others)
  | object {members others : List (String × FieldValue)}
      (keys : members.map Prod.fst = others.map Prod.fst)
      (values : List.Forall₂ (Replaces leaf) (members.map Prod.snd) (others.map Prod.snd)) :
      Replaces leaf (.object members) (.object others)

namespace StringHints

open FieldValue (Replaces)

theorem replaces_ofNumber (leaf : String → FieldValue → Prop) (n : Json.Number) :
    Replaces leaf (.ofNumber n) (.ofNumber n) := by
  unfold FieldValue.ofNumber
  split
  · split
    · exact .integer _
    · split
      · exact .long _
      · exact .double _
  · exact .double _

theorem keys_ofJsonMembers (hints : StringHints) (members : List (String × Value)) :
    (FieldValue.ofJsonMembers members).map Prod.fst = (hints.ofJsonMembers members).map Prod.fst := by
  rw [FieldValue.ofJsonMembers_eq_map, hints.ofJsonMembers_eq_map, List.map_map, List.map_map]
  rfl

mutual

theorem replaces_ofJson (hints : StringHints) (v : Value) :
    Replaces hints.StandsFor (.ofJson v) (hints.ofJson v) := by
  cases v with
  | null => exact .null
  | bool b => exact .boolean b
  | number n => exact replaces_ofNumber hints.StandsFor n
  | string s => exact .string (standsFor_iff.mpr rfl)
  | array items => exact .array (replaces_ofJsonItems hints items)
  | object members =>
      exact .object (hints.keys_ofJsonMembers members) (replaces_ofJsonMembers hints members)

theorem replaces_ofJsonItems (hints : StringHints) (items : List Value) :
    List.Forall₂ (Replaces hints.StandsFor) (FieldValue.ofJsonItems items)
      (hints.ofJsonItems items) := by
  cases items with
  | nil => exact .nil
  | cons v rest => exact .cons (replaces_ofJson hints v) (replaces_ofJsonItems hints rest)

theorem replaces_ofJsonMembers (hints : StringHints) (members : List (String × Value)) :
    List.Forall₂ (Replaces hints.StandsFor) ((FieldValue.ofJsonMembers members).map Prod.snd)
      ((hints.ofJsonMembers members).map Prod.snd) := by
  cases members with
  | nil => exact .nil
  | cons member rest =>
      exact .cons (replaces_ofJson hints member.2) (replaces_ofJsonMembers hints rest)

end

/-- In every entry that is stored, the members of the message take the place of those that came with it. -/
theorem get?_of_parse {hints : StringHints} {core : ParserCore} {entry : RawEntry} {result : Result}
    (h : (hints.toParser core).parse entry = .ok result) (key : String) :
    result.entry.fields.get? key = hints.valueOf? entry key := by
  have hPolicies := hints.allOrNothing_parse core entry
  have hSame : core.withPolicy core.policy = core := rfl
  cases hPolicy : core.policy <;> rw [hPolicy] at hSame <;> rw [hSame] at hPolicies
  · exact hPolicies.fields result (.inl h) key
  · exact hPolicies.fields result (.inl (hPolicies.rejecting_eq ▸ h)) key
  · exact hPolicies.fields result (.inr h) key

end StringHints

namespace Strategy

variable {repository : RepositoryConfig} {parser : ParserConfig} {tokenizer : Tokenizer}
  {built : EntryParser}

/-- In whatever value a parser of objects is given, only strings are replaced, by what they stand for: the
value that comes out has the shape, the keys and the other values of the one that went in. So every member of
the message of an entry is stored under its key. -/
theorem string_leaves (hBuild : json.build repository parser tokenizer = .ok built) :
    ∃ hints, StringHints.ofConfig parser = .ok hints ∧
      (∀ v, FieldValue.Replaces hints.StandsFor (.ofJson v) (hints.ofJson v)) ∧
      ∀ entry result, built.parse entry = .ok result → ∀ key v, member? entry.message key = some v →
        ∃ stored, result.entry.fields.get? key = some stored ∧
          FieldValue.Replaces hints.StandsFor (.ofJson v) stored := by
  obtain ⟨hints, core, hHints, -, rfl⟩ := build_json_eq_ok_iff.mp hBuild
  refine ⟨hints, hHints, hints.replaces_ofJson, ?_⟩
  intro entry result hParse key v hMember
  refine ⟨hints.ofJson v, ?_, hints.replaces_ofJson v⟩
  rw [StringHints.get?_of_parse hParse, StringHints.valueOf?, hMember]
  rfl

end Strategy

/-- A parser of objects that takes eight digits for a date, and texts such as Long(12) and #12n for whole
numbers. -/
def ParserConfig.hinted : ParserConfig where
  name := "api"
  strategy := "json"
  properties := Dictionary.ofList [(Property.datePattern, "[0-9]+"), (Property.dateFormat, "yyyyMMdd"),
    (Property.longSuffix, "Long.(-?[0-9]+).|#-?[0-9]+n|[0-9]+")]

/-- An entry with strings at several depths of its message. -/
def RawEntry.nested : RawEntry where
  timestamp := "2024-01-15T10:30:00.000Z"
  source := "proxy"
  host := "web-1"
  severity := "info"
  message := "\x7b\"ids\":[\"Long(-42)\",\x7b\"at\":\"20240203\"\x7d,\"#-7n\",\"20241303\",\"12\",\"x\",true]\x7d"

/-- A date of 13 months is a whole number, and a numeral without a group counts from its hyphen. -/
theorem Strategy.string_leaves_nested :
    ∃ built hints result v stored, json.build (.named "web") .hinted Keywords.words = .ok built ∧
      StringHints.ofConfig .hinted = .ok hints ∧ built.parse .nested = .ok result ∧
      member? RawEntry.nested.message "ids" = some v ∧
      result.entry.fields.get? "ids" = some stored ∧
      FieldValue.Replaces hints.StandsFor (.ofJson v) stored ∧
      stored.text =
        "[-42,\x7b\"at\":\"2024-02-03T00:00:00.000Z\"\x7d,-7,20241303,12,\"x\",true]" := by
  have hRun : ((json.build (.named "web") .hinted Keywords.words).toOption.bind fun built =>
      (built.parse .nested).toOption.bind fun result =>
        (result.entry.fields.get? "ids").map FieldValue.text) =
      some "[-42,\x7b\"at\":\"2024-02-03T00:00:00.000Z\"\x7d,-7,20241303,12,\"x\",true]" := by
    decide +kernel
  have hMember : (member? RawEntry.nested.message "ids").isSome = true := by decide +kernel
  obtain ⟨built, hBuilt, hRun⟩ := Option.bind_eq_some_iff.mp hRun
  obtain ⟨result, hResult, hText⟩ := Option.bind_eq_some_iff.mp hRun
  obtain ⟨v, hMember⟩ := Option.isSome_iff_exists.mp hMember
  have hBuild := eq_ok_of_toOption hBuilt
  have hParse := eq_ok_of_toOption hResult
  obtain ⟨hints, hHints, -, hMembers⟩ := string_leaves hBuild
  obtain ⟨stored, hStored, hReplaces⟩ := hMembers .nested result hParse "ids" v hMember
  rw [hStored] at hText
  exact ⟨built, hints, result, v, stored, hBuild, hHints, hParse, hMember, hStored, hReplaces,
    Option.some.inj hText⟩

end LogIngest
