import Mathlib.Data.List.TakeWhile
import LogIngest.Calendar.Timezone
import LogIngest.Proofs.Calendar.Scanning
import LogIngest.Proofs.Text.Bytes
import LogIngest.Proofs.Text.Trimming

/-!
Specifiers of time zones. Main statement: a specifier is accepted exactly when it is, with white space around
it and in any case, a name of universal time, or an offset of at most eighteen hours and fifty-nine minutes that
may follow such a name; it then is the zone at this distance, and else it is reported as it was given.
-/

namespace LogIngest.Calendar.Timezone

/-- A number of one or two digits. -/
structure IsShort (digits : List Char) : Prop where
  isDigit : ∀ c ∈ digits, c.isDigit = true
  length : digits.length = 1 ∨ digits.length = 2

/-- The ways to write hours and minutes: hours alone, two digits of each, or each with a colon between them. -/
inductive Tells : (text : List Char) → (hours minutes : Nat) → Prop where
  | hours {hours : List Char} (hHours : IsShort hours) : Tells hours (digitsValue hours) 0
  | pairs {hours minutes : List Char} (hHours : IsShort hours) (hMinutes : IsShort minutes)
      (hLength : hours.length = 2 ∧ minutes.length = 2) :
      Tells (hours ++ minutes) (digitsValue hours) (digitsValue minutes)
  | colon {hours minutes : List Char} (hHours : IsShort hours) (hMinutes : IsShort minutes) :
      Tells (hours ++ ':' :: minutes) (digitsValue hours) (digitsValue minutes)

/-- The distance from universal time in seconds. -/
def signedSeconds (negative : Bool) (hours minutes : Nat) : Int :=
  let seconds : Int := (hours * 3600 + minutes * 60 : Nat)
  if negative then -seconds else seconds

/-- The specifiers in capital letters, and the distance from universal time in seconds that each stands for. -/
inductive StandsFor : (text : List Char) → (seconds : Int) → Prop where
  | name {name : String} (hName : name ∈ ["UTC", "GMT", "UT", "Z"]) : StandsFor name.toList 0
  | offset {name : String} {sign : Char} {text : List Char} {negative : Bool} {hours minutes : Nat}
      (hName : name ∈ ["", "UTC", "GMT"]) (hSign : sign = if negative then '-' else '+')
      (hText : Tells text hours minutes) (hHours : hours ≤ 18) (hMinutes : minutes ≤ 59) :
      StandsFor (name.toList ++ sign :: text) (signedSeconds negative hours minutes)

/-- The ASCII characters that are white space. -/
def asciiBlanks : List Char :=
  ['\t', '\n', '\x0b', '\x0c', '\r', ' ']

/-- A specifier stands for a distance from universal time, whatever its case and the white space around it. -/
def Specifies (specifier : List Char) (seconds : Int) : Prop :=
  ∃ before core after, specifier = before ++ core ++ after ∧ (∀ c ∈ before ++ after, c ∈ asciiBlanks) ∧
    StandsFor (core.map Char.toUpper) seconds

variable {text : List Char} {hours minutes : Nat} {offset : Offset}

/-! ### Hours and minutes -/

/-- One or two digits are read as their value, and nothing else is. -/
theorem shortNumber?_eq_some_iff {n : Nat} :
    shortNumber? text = some n ↔ IsShort text ∧ n = digitsValue text := by
  unfold shortNumber?
  split
  · next h =>
      simp only [Bool.and_eq_true, Bool.or_eq_true, beq_iff_eq, List.all_eq_true] at h
      rw [Option.some.injEq, eq_comm]
      exact ⟨fun hn => ⟨⟨h.2, h.1⟩, hn⟩, And.right⟩
  · next h =>
      simp only [Bool.and_eq_true, Bool.or_eq_true, beq_iff_eq, List.all_eq_true] at h
      exact ⟨nofun, fun hShort => absurd ⟨hShort.1.length, hShort.1.isDigit⟩ h⟩

/-- A number does not reach over a colon. -/
theorem IsShort.ne_colon (h : IsShort text) : ∀ c ∈ text, (c != ':') = true := by
  intro c hc
  have hColon : c ≠ ':' := by
    rintro rfl
    cases h.isDigit _ hc
  simpa using hColon

/-- A number counts as many bytes as digits. -/
theorem IsShort.isAscii (h : IsShort text) : Text.IsAscii text := by
  intro c hc
  have hCode := toNat_of_isDigit (h.isDigit c hc)
  omega

/-- Hours and minutes are found where they are written, whichever way that is. -/
theorem Tells.numbers (h : Tells text hours minutes) : ∃ halves, hoursAndMinutes text = .ok halves ∧
    shortNumber? halves.1 = some hours ∧ shortNumber? halves.2 = some minutes := by
  simp only [shortNumber?_eq_some_iff]
  cases h with
  | hours hHours =>
      have hNone : text.dropWhile (· != ':') = [] := List.dropWhile_eq_nil_iff.mpr hHours.ne_colon
      have hSize : (Text.byteSize text == 4) = false := by
        have := hHours.length
        rw [Text.byteSize_of_isAscii hHours.isAscii, beq_eq_false_iff_ne]
        omega
      have hZero : IsShort ['0'] := ⟨List.all_eq_true.mp (by decide), by decide⟩
      refine ⟨(text, ['0']), ?_, ⟨hHours, rfl⟩, hZero, rfl⟩
      simp only [hoursAndMinutes, hNone, hSize, Bool.false_eq_true, if_false]
  | @pairs hours minutes hHours hMinutes hLength =>
      have hNone : (hours ++ minutes).dropWhile (· != ':') = [] := by
        rw [List.dropWhile_append_of_pos hHours.ne_colon]
        exact List.dropWhile_eq_nil_iff.mpr hMinutes.ne_colon
      have hFirst := Text.byteSize_of_isAscii hHours.isAscii
      have hSecond := Text.byteSize_of_isAscii hMinutes.isAscii
      have hSize : (Text.byteSize (hours ++ minutes) == 4) = true := by
        rw [Text.byteSize_append, hFirst, hSecond, hLength.1, hLength.2]
        rfl
      refine ⟨(hours, minutes), ?_, ⟨hHours, rfl⟩, hMinutes, rfl⟩
      simp only [hoursAndMinutes, hNone, hSize, if_true]
      exact Text.cut_eq_ok_iff.mpr ⟨rfl, by rw [hFirst, hLength.1]⟩
  | @colon hours minutes hHours hMinutes =>
      refine ⟨(hours, minutes), ?_, ⟨hHours, rfl⟩, hMinutes, rfl⟩
      simp [hoursAndMinutes, List.dropWhile_append_of_pos hHours.ne_colon,
        List.takeWhile_append_of_pos hHours.ne_colon]

/-- Where hours and minutes are found, the text tells them. -/
theorem tells_of_numbers {halves : List Char × List Char} (hHalves : hoursAndMinutes text = .ok halves)
    (hHours : shortNumber? halves.1 = some hours) (hMinutes : shortNumber? halves.2 = some minutes) :
    Tells text hours minutes := by
  rw [shortNumber?_eq_some_iff] at hHours hMinutes
  obtain ⟨hHours, rfl⟩ := hHours
  obtain ⟨hMinutes, rfl⟩ := hMinutes
  unfold hoursAndMinutes at hHalves
  split at hHalves
  · next c behind hColon =>
      obtain rfl := Except.ok.inj hHalves
      have hText : text.takeWhile (· != ':') ++ c :: behind = text := by
        rw [← hColon, List.takeWhile_append_dropWhile]
      obtain rfl : c = ':' := by simpa using Text.head?_dropWhile (congrArg List.head? hColon)
      have hTells := Tells.colon hHours hMinutes
      rwa [hText] at hTells
  · split at hHalves
    · next hFour =>
        obtain ⟨hText, hPlace⟩ := Text.cut_eq_ok_iff.mp hHalves
        have hSize : Text.byteSize text = 4 := eq_of_beq hFour
        rw [hText, Text.byteSize_append, ← hPlace, Text.byteSize_of_isAscii hMinutes.isAscii] at hSize
        rw [Text.byteSize_of_isAscii hHours.isAscii] at hPlace
        rw [hText]
        exact .pairs hHours hMinutes ⟨hPlace.symm, by omega⟩
    · obtain rfl := Except.ok.inj hHalves
      exact .hours hHours

/-- Hours and minutes in ASCII can be taken apart. -/
theorem exists_hoursAndMinutes (hAscii : Text.IsAscii text) : ∃ halves, hoursAndMinutes text = .ok halves := by
  unfold hoursAndMinutes
  split
  · exact ⟨_, rfl⟩
  · split
    · next hFour =>
        have hSize : Text.byteSize text = 4 := eq_of_beq hFour
        rw [Text.byteSize_of_isAscii hAscii] at hSize
        exact ⟨_, Text.cut_of_isAscii hAscii (by omega)⟩
    · exact ⟨_, rfl⟩

/-! ### Offsets -/

/-- Offsets at the same distance are the same. -/
theorem eq_of_seconds_eq {other : Offset} (h : 60 * offset.minutes = 60 * other.minutes) : offset = other := by
  obtain ⟨minutes, _⟩ := offset
  obtain ⟨other, _⟩ := other
  obtain rfl : minutes = other := by
    dsimp only at h
    omega
  rfl

/-- An offset lies within a day of universal time. -/
theorem exists_ofMinutes? (negative : Bool) (hHours : hours ≤ 18) (hMinutes : minutes ≤ 59) :
    ∃ offset, Offset.ofMinutes? (if negative then -((hours * 60 + minutes : Nat) : Int)
      else ((hours * 60 + minutes : Nat) : Int)) = some offset ∧
        60 * offset.minutes = signedSeconds negative hours minutes := by
  unfold signedSeconds
  cases negative
  all_goals
    refine ⟨⟨_, ?_⟩, dif_pos ?_, ?_⟩
    all_goals
      simp only [Bool.false_eq_true, if_false, if_true]
      omega

/-- Two short numbers make an offset exactly if neither is too large. -/
theorem ofNumbers?_eq_some_iff {negative : Bool} {first second : List Char} :
    ofNumbers? negative first second = some offset ↔
      ∃ hours minutes, shortNumber? first = some hours ∧ shortNumber? second = some minutes ∧
        hours ≤ 18 ∧ minutes ≤ 59 ∧ 60 * offset.minutes = signedSeconds negative hours minutes := by
  constructor
  · intro h
    obtain ⟨hours, hHours, h⟩ := Option.bind_eq_some_iff.mp h
    obtain ⟨minutes, hMinutes, h⟩ := Option.bind_eq_some_iff.mp h
    split at h
    · cases h
    · next hBounds =>
        simp only [Bool.or_eq_true, decide_eq_true_eq, not_or, Nat.not_lt] at hBounds
        obtain ⟨found, hFound, hSeconds⟩ := exists_ofMinutes? negative hBounds.1 hBounds.2
        rw [hFound] at h
        obtain rfl := Option.some.inj h
        exact ⟨hours, minutes, hHours, hMinutes, hBounds.1, hBounds.2, hSeconds⟩
  · rintro ⟨hours, minutes, hFirst, hSecond, hHours, hMinutes, hOffset⟩
    obtain ⟨found, hFound, hSeconds⟩ := exists_ofMinutes? negative hHours hMinutes
    obtain rfl := eq_of_seconds_eq (hSeconds.trans hOffset.symm)
    have hBounds : ¬(decide (18 < hours) || decide (59 < minutes)) = true := by
      simp only [Bool.or_eq_true, decide_eq_true_eq]
      omega
    exact Option.bind_eq_some_iff.mpr ⟨hours, hFirst, Option.bind_eq_some_iff.mpr ⟨minutes, hSecond,
      (if_neg hBounds).trans hFound⟩⟩

/-- What stands behind a sign makes an offset exactly if it tells hours and minutes that are not too large. -/
theorem ofMagnitude_eq_some_iff {negative : Bool} : ofMagnitude negative text = .ok (some offset) ↔
    ∃ hours minutes, Tells text hours minutes ∧ hours ≤ 18 ∧ minutes ≤ 59 ∧
      60 * offset.minutes = signedSeconds negative hours minutes := by
  rw [ofMagnitude, map_eq_ok_iff]
  constructor
  · rintro ⟨halves, hHalves, h⟩
    obtain ⟨hours, minutes, hFirst, hSecond, hBounds⟩ := ofNumbers?_eq_some_iff.mp h
    exact ⟨hours, minutes, tells_of_numbers hHalves hFirst hSecond, hBounds⟩
  · rintro ⟨hours, minutes, hTells, hBounds⟩
    obtain ⟨halves, hHalves, hFirst, hSecond⟩ := hTells.numbers
    exact ⟨halves, hHalves, ofNumbers?_eq_some_iff.mpr ⟨hours, minutes, hFirst, hSecond, hBounds⟩⟩

/-- In ASCII nothing is split inside a character. -/
theorem exists_ofMagnitude (negative : Bool) (hAscii : Text.IsAscii text) :
    ∃ offset?, ofMagnitude negative text = .ok offset? := by
  obtain ⟨halves, hHalves⟩ := exists_hoursAndMinutes hAscii
  exact ⟨_, map_eq_ok_iff.mpr ⟨halves, hHalves, rfl⟩⟩

/-! ### Specifiers -/

/-- Hours and minutes are written with digits and a colon. -/
theorem Tells.isDigit_or_colon (h : Tells text hours minutes) :
    ∀ c ∈ text, c.isDigit = true ∨ c = ':' := by
  cases h with
  | hours hHours => exact fun c hc => .inl (hHours.isDigit c hc)
  | pairs hHours hMinutes hLength =>
      intro c hc
      exact .inl ((List.mem_append.mp hc).elim (hHours.isDigit c) (hMinutes.isDigit c))
  | colon hHours hMinutes =>
      intro c hc
      simp only [List.mem_append, List.mem_cons] at hc
      rcases hc with hc | rfl | hc
      · exact .inl (hHours.isDigit c hc)
      · exact .inr rfl
      · exact .inl (hMinutes.isDigit c hc)

/-- A specifier has no white space in it, so trimming stops at its ends. -/
theorem StandsFor.not_isBlankChar {seconds : Int} (h : StandsFor text seconds) :
    ∀ c ∈ text, Text.isBlankChar c = false := by
  have hNames : ∀ name ∈ ["", "UTC", "GMT", "UT", "Z"], ∀ c ∈ name.toList, Text.isBlankChar c = false := by
    have hAll : ∀ name ∈ ["", "UTC", "GMT", "UT", "Z"],
        (name.toList.all fun c => !Text.isBlankChar c) = true := by decide
    exact fun name hName c hc => Bool.not_eq_true' _ ▸ List.all_eq_true.mp (hAll name hName) c hc
  cases h with
  | @name name hName => exact hNames name (List.mem_cons_of_mem _ hName)
  | @offset name sign text negative hours minutes hName hSign hText hHours hMinutes =>
      intro c hc
      simp only [List.mem_append, List.mem_cons] at hc
      rcases hc with hc | rfl | hc
      · have hOptional : ["", "UTC", "GMT"] ⊆ ["", "UTC", "GMT", "UT", "Z"] := by decide
        exact hNames name (hOptional hName) c hc
      · subst hSign
        cases negative <;> rfl
      · rcases hText.isDigit_or_colon c hc with hDigit | rfl
        · exact Text.isBlankChar_of_isDigit hDigit
        · rfl

/-- What a specifier in capital letters is read as. -/
def readCapitals (text : List Char) : Except Text.CutFault (Option Offset) :=
  if universalNames.contains (String.ofList text) then .ok (some .zero)
  else match dropName text with
    | '+' :: rest => ofMagnitude false rest
    | '-' :: rest => ofMagnitude true rest
    | _ => .ok none

theorem read_eq_readCapitals (specifier : List Char) :
    read specifier = readCapitals ((Text.trim specifier).map Char.toUpper) :=
  rfl

/-- The name in front of a sign is dropped. -/
theorem dropName_append {name : String} {sign : Char} (hName : name ∈ ["", "UTC", "GMT"])
    (hSign : sign = '+' ∨ sign = '-') (text : List Char) :
    dropName (name.toList ++ sign :: text) = sign :: text := by
  simp only [List.mem_cons, List.not_mem_nil, or_false] at hName
  rcases hName with rfl | rfl | rfl <;> rcases hSign with rfl | rfl <;> rfl

/-- A text is what is left of it behind the name that is dropped, if there is one. -/
theorem exists_name (text : List Char) : ∃ name ∈ ["", "UTC", "GMT"], text = name.toList ++ dropName text := by
  unfold dropName
  split
  · next h =>
      simp only [Bool.or_eq_true, List.isPrefixOf_iff_prefix] at h
      rcases h with ⟨rest, rfl⟩ | ⟨rest, rfl⟩
      · exact ⟨"UTC", by decide, rfl⟩
      · exact ⟨"GMT", by decide, rfl⟩
  · exact ⟨"", by decide, rfl⟩

/-- Whatever is read stands for the distance of its offset. -/
theorem standsFor_of_readCapitals (h : readCapitals text = .ok (some offset)) :
    StandsFor text (60 * offset.minutes) := by
  unfold readCapitals at h
  split at h
  · next hName =>
      obtain rfl := Option.some.inj (Except.ok.inj h)
      have hStands := StandsFor.name (List.contains_iff_mem.mp hName)
      rwa [String.toList_ofList] at hStands
  · obtain ⟨name, hName, hText⟩ := exists_name text
    have hOffset {sign : Char} {rest : List Char} (negative : Bool)
        (hSign : sign = if negative then '-' else '+') (hRest : dropName text = sign :: rest)
        (h : ofMagnitude negative rest = .ok (some offset)) : StandsFor text (60 * offset.minutes) := by
      obtain ⟨hours, minutes, hTells, hHours, hMinutes, hSeconds⟩ := ofMagnitude_eq_some_iff.mp h
      rw [hText, hRest, hSeconds]
      exact .offset hName hSign hTells hHours hMinutes
    split at h
    · next hRest => exact hOffset false rfl hRest h
    · next hRest => exact hOffset true rfl hRest h
    · cases h

/-- A text with a sign in it is no name. -/
theorem readCapitals_sign {name : String} {negative : Bool} (hName : name ∈ ["", "UTC", "GMT"])
    (text : List Char) : readCapitals (name.toList ++ (if negative then '-' else '+') :: text) =
      ofMagnitude negative text := by
  have hLetters : ∀ other ∈ universalNames, '+' ∉ other.toList ∧ '-' ∉ other.toList := by decide
  have hNot : ¬universalNames.contains
      (String.ofList (name.toList ++ (if negative then '-' else '+') :: text)) = true := by
    intro hContains
    have hSigns := hLetters _ (List.contains_iff_mem.mp hContains)
    rw [String.toList_ofList] at hSigns
    cases negative <;> simp at hSigns
  rw [readCapitals, if_neg hNot]
  cases negative with
  | false =>
      rw [if_neg Bool.false_ne_true, dropName_append hName (.inl rfl)]
      rfl
  | true =>
      rw [if_pos rfl, dropName_append hName (.inr rfl)]
      rfl

/-- Specifiers in capital letters are read as the distances for which they stand, and no others are. -/
theorem readCapitals_eq_some_iff :
    readCapitals text = .ok (some offset) ↔ StandsFor text (60 * offset.minutes) := by
  refine ⟨standsFor_of_readCapitals, fun h => ?_⟩
  generalize hSeconds : 60 * offset.minutes = seconds at h
  cases h with
  | @name name hName =>
      have hZero : Offset.zero = offset := eq_of_seconds_eq (by rw [hSeconds]; rfl)
      have hContains : universalNames.contains (String.ofList name.toList) = true := by
        rw [String.ofList_toList]
        exact List.contains_iff_mem.mpr hName
      rw [readCapitals, if_pos hContains, hZero]
  | @offset name sign text negative hours minutes hName hSign hText hHours hMinutes =>
      rw [hSign, readCapitals_sign hName]
      exact ofMagnitude_eq_some_iff.mpr ⟨hours, minutes, hText, hHours, hMinutes, hSeconds⟩

/-- In ASCII reading does not stop, for the names and the sign have one byte for each character. -/
theorem exists_readCapitals (hAscii : Text.IsAscii text) : ∃ offset?, readCapitals text = .ok offset? := by
  have hRest {sign : Char} {rest : List Char} (h : dropName text = sign :: rest) : Text.IsAscii rest := by
    obtain ⟨name, -, hText⟩ := exists_name text
    rw [hText, h] at hAscii
    exact fun c hc => hAscii c (List.mem_append_right _ (List.mem_cons_of_mem _ hc))
  unfold readCapitals
  split
  · exact ⟨_, rfl⟩
  · split
    · next h => exact exists_ofMagnitude false (hRest h)
    · next h => exact exists_ofMagnitude true (hRest h)
    · exact ⟨none, rfl⟩

/-! ### White space and case -/

/-- The white space of ASCII, checked over all of its characters. -/
theorem mem_asciiBlanks_iff {c : Char} (hAscii : c.toNat < 0x80) :
    c ∈ asciiBlanks ↔ Text.isBlankChar c = true := by
  have hTable : ∀ n < 0x80, Char.ofNat n ∈ asciiBlanks ↔ Text.isBlankChar (Char.ofNat n) = true := by
    decide +kernel
  have hChar := hTable c.toNat hAscii
  rwa [Char.ofNat_toNat] at hChar

/-- White space has no case. -/
theorem toUpper_of_isBlankChar {c : Char} (h : Text.isBlankChar c = true) : c.toUpper = c := by
  have hLetter : ¬(c.val ≥ 'a'.val ∧ c.val ≤ 'z'.val) := by
    rintro ⟨hFirst, hLast⟩
    simp only [ge_iff_le, UInt32.le_iff_toNat_le] at hFirst hLast
    change 97 ≤ c.toNat at hFirst
    change c.toNat ≤ 122 at hLast
    simp only [Text.isBlankChar, Bool.or_eq_true, Bool.and_eq_true, decide_eq_true_eq, beq_iff_eq] at h
    omega
  exact dif_neg hLetter

/-- A specifier is not shortened by trimming, whatever its case. -/
theorem trim_of_standsFor {core : List Char} {seconds : Int}
    (h : StandsFor (core.map Char.toUpper) seconds) : Text.trim core = core := by
  have hChars : ∀ c ∈ core, Text.isBlankChar c = false := by
    intro c hc
    rw [Bool.eq_false_iff]
    intro hBlank
    have hUpper := h.not_isBlankChar c.toUpper (List.mem_map_of_mem hc)
    rw [toUpper_of_isBlankChar hBlank, hBlank] at hUpper
    cases hUpper
  exact Text.trim_of_ends (fun c hc => hChars c (List.mem_of_head? hc))
    (fun c hc => hChars c (List.mem_of_getLast? hc))

/-- A zone of a configuration is one that is specified. -/
theorem ofSpecifier_eq_ok_iff {specifier : String} (hAscii : ∀ c ∈ specifier.toList, c.toNat < 0x80) :
    ofSpecifier specifier = .ok offset ↔ Specifies specifier.toList (60 * offset.minutes) := by
  have hRead : ofSpecifier specifier = .ok offset ↔
      StandsFor ((Text.trim specifier.toList).map Char.toUpper) (60 * offset.minutes) := by
    rw [← readCapitals_eq_some_iff, ← read_eq_readCapitals, ofSpecifier]
    rcases read specifier.toList with fault | _ | found <;> simp
  rw [hRead]
  constructor
  · intro h
    obtain ⟨before, after, hBefore, hAfter, hText⟩ := Text.exists_trim specifier.toList
    refine ⟨before, _, after, hText, ?_, h⟩
    intro c hc
    have hBlank : Text.isBlankChar c = true :=
      (List.mem_append.mp hc).elim (List.all_eq_true.mp hBefore c) (List.all_eq_true.mp hAfter c)
    refine (mem_asciiBlanks_iff (hAscii c ?_)).mpr hBlank
    rw [hText, List.append_assoc, List.mem_append, List.mem_append]
    exact (List.mem_append.mp hc).imp_right .inr
  · rintro ⟨before, core, after, hText, hBlanks, h⟩
    have hBlank : ∀ c ∈ before ++ after, Text.isBlankChar c = true := by
      have hAll : ∀ c ∈ asciiBlanks, Text.isBlankChar c = true := List.all_eq_true.mp (by decide)
      exact fun c hc => hAll c (hBlanks c hc)
    rw [hText, Text.trim_around (List.all_eq_true.mpr fun c hc => hBlank c (List.mem_append_left _ hc))
      (List.all_eq_true.mpr fun c hc => hBlank c (List.mem_append_right _ hc)), trim_of_standsFor h]
    exact h

/-- Capital letters of ASCII are in ASCII, checked over all of its characters. -/
theorem toUpper_ascii {c : Char} (h : c.toNat < 0x80) : c.toUpper.toNat < 0x80 := by
  have hTable : ∀ n < 0x80, (Char.ofNat n).toUpper.toNat < 0x80 := by
    decide +kernel
  have hChar := hTable c.toNat h
  rwa [Char.ofNat_toNat] at hChar

/-- A specifier in ASCII is read to the end. -/
theorem exists_read {specifier : List Char} (hAscii : Text.IsAscii specifier) :
    ∃ offset?, read specifier = .ok offset? := by
  rw [read_eq_readCapitals]
  refine exists_readCapitals (List.forall_mem_map.mpr fun c hc => toUpper_ascii (hAscii c ?_))
  obtain ⟨before, after, -, -, hText⟩ := Text.exists_trim specifier
  rw [hText]
  exact List.mem_append_left _ (List.mem_append_right _ hc)

/-- Every distance that a specifier can stand for is that of a zone. -/
theorem StandsFor.exists_offset {seconds : Int} (h : StandsFor text seconds) :
    ∃ offset : Offset, 60 * offset.minutes = seconds := by
  cases h with
  | name hName => exact ⟨.zero, rfl⟩
  | @offset name sign text negative hours minutes hName hSign hText hHours hMinutes =>
      obtain ⟨offset, -, hSeconds⟩ := exists_ofMinutes? negative hHours hMinutes
      exact ⟨offset, hSeconds⟩

/-- The zones of specifiers in ASCII. One that stands for a distance from universal time, which is less than a
day, is the zone at that distance, and only such a one is a zone. Any other is refused as it was given. -/
theorem ofSpecifier_of_ascii {specifier : String} (hAscii : ∀ c ∈ specifier.toList, c.toNat < 0x80) :
    (∀ seconds, Specifies specifier.toList seconds → -86400 < seconds ∧ seconds < 86400 ∧
      ∃ offset, ofSpecifier specifier = .ok offset ∧ 60 * offset.minutes = seconds) ∧
    (∀ offset, ofSpecifier specifier = .ok offset → Specifies specifier.toList (60 * offset.minutes)) ∧
    ((∀ seconds, ¬Specifies specifier.toList seconds) →
      ofSpecifier specifier = .error (.invalidTimezone specifier)) := by
  refine ⟨?_, fun offset => (ofSpecifier_eq_ok_iff hAscii).mp, ?_⟩
  · intro seconds h
    obtain ⟨offset, rfl⟩ : ∃ offset : Offset, 60 * offset.minutes = seconds := by
      obtain ⟨_, _, _, -, -, hStands⟩ := h
      exact hStands.exists_offset
    have hDay := offset.minutes_mem
    exact ⟨by omega, by omega, offset, (ofSpecifier_eq_ok_iff hAscii).mpr h, rfl⟩
  · intro hNone
    obtain ⟨offset?, hRead⟩ := exists_read hAscii
    cases offset? with
    | none => rw [ofSpecifier, hRead]
    | some offset =>
        have hOk : ofSpecifier specifier = .ok offset := by rw [ofSpecifier, hRead]
        exact absurd ((ofSpecifier_eq_ok_iff hAscii).mp hOk) (hNone _)

theorem ofSpecifier_of_ascii_padded : (∀ c ∈ " gmt-3:30\n".toList, c.toNat < 0x80) ∧
    Specifies " gmt-3:30\n".toList (-12600) ∧
    ∃ offset, ofSpecifier " gmt-3:30\n" = .ok offset ∧ 60 * offset.minutes = -12600 := by
  have hAscii : ∀ c ∈ " gmt-3:30\n".toList, c.toNat < 0x80 := by simp
  have hSpecifies : Specifies " gmt-3:30\n".toList (-12600) := by
    refine ⟨[' '], "gmt-3:30".toList, ['\n'], by decide, by simp [asciiBlanks], ?_⟩
    have hHours : IsShort ['3'] := ⟨List.all_eq_true.mp (by decide), by decide⟩
    have hMinutes : IsShort ['3', '0'] := ⟨List.all_eq_true.mp (by decide), by decide⟩
    exact @StandsFor.offset "GMT" '-' "3:30".toList true 3 30 (by decide) rfl
      (.colon hHours hMinutes) (by decide) (by decide)
  exact ⟨hAscii, hSpecifies, ((ofSpecifier_of_ascii hAscii).1 _ hSpecifies).2.2⟩

end LogIngest.Calendar.Timezone
