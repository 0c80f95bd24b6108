import LogIngest.Proofs.Calendar.Components
import LogIngest.Proofs.Calendar.Scanning

/-!
Texts that go on behind a point. Main statement: the items that patterns of letters stand for take a text from
its start, and take the same of it whatever follows behind a point.
-/

namespace LogIngest.Calendar

variable {α β : Type}

/-- A reader takes something from the start of a text, and takes the same when a point and more follow. -/
structure StopsAtPoint (reader : List Char → Except Fault (α × List Char)) : Prop where
  suffix : ∀ {text value rest}, reader text = .ok (value, rest) → rest <:+ text
  append : ∀ {text value rest}, reader text = .ok (value, rest) → ∀ more,
    reader (text ++ '.' :: more) = .ok (value, rest ++ '.' :: more)

/-! ### Characters -/

section

variable {p : Char → Bool}

/-- A run that no point belongs to ends at the point. -/
theorem takeWhile_append_point (h : p '.' = false) (text more : List Char) :
    (text ++ '.' :: more).takeWhile p = text.takeWhile p := by
  induction text with
  | nil => simp [h]
  | cons c text ih => cases hc : p c <;> simp [hc, ih]

/-- Behind such a run, the point and what follows it are left. -/
theorem dropWhile_append_point (h : p '.' = false) (text more : List Char) :
    (text ++ '.' :: more).dropWhile p = text.dropWhile p ++ '.' :: more := by
  induction text with
  | nil => simp [h]
  | cons c text ih => cases hc : p c <;> simp [hc, ih]

/-- White space does not reach over a point. -/
theorem trimStart_append_point (text more : List Char) :
    Text.trimStart (text ++ '.' :: more) = Text.trimStart text ++ '.' :: more :=
  dropWhile_append_point (by decide) text more

end

namespace StopsAtPoint

variable {reader : List Char → Except Fault (α × List Char)}

/-- What is made of a value stops where the value does. -/
theorem map (h : StopsAtPoint reader) (f : α → β) :
    StopsAtPoint fun text => (reader text).map fun taken => (f taken.1, taken.2) := by
  constructor
  · intro text value rest hTaken
    obtain ⟨⟨first, behind⟩, hRead, hSame⟩ := map_eq_ok hTaken
    obtain ⟨-, rfl⟩ := Prod.mk.inj hSame
    exact h.suffix hRead
  · intro text value rest hTaken more
    obtain ⟨⟨first, behind⟩, hRead, hSame⟩ := map_eq_ok hTaken
    obtain ⟨rfl, rfl⟩ := Prod.mk.inj hSame
    simp only [h.append hRead more, Except.map]

/-- White space in front makes no difference to where a reader stops. -/
theorem trimStart (h : StopsAtPoint reader) : StopsAtPoint fun text => reader (Text.trimStart text) := by
  constructor
  · intro text value rest hTaken
    exact (h.suffix hTaken).trans (List.dropWhile_suffix _)
  · intro text value rest hTaken more
    rw [trimStart_append_point]
    exact h.append hTaken more

end StopsAtPoint

/-! ### Numbers -/

/-- The digits that are taken as a number. -/
def leadingDigits (most : Option Nat) (text : List Char) : List Char :=
  most.elim (text.takeWhile Char.isDigit) fun most => (text.takeWhile Char.isDigit).take most

/-- The leading digits are some of the characters. -/
theorem length_leadingDigits_le (most : Option Nat) (text : List Char) :
    (leadingDigits most text).length ≤ text.length := by
  have hRun : (text.takeWhile Char.isDigit).length ≤ text.length := (List.takeWhile_prefix _).length_le
  cases most with
  | none => exact hRun
  | some bound => exact Nat.le_trans (List.take_prefix bound _).length_le hRun

/-- A number is taken as its leading digits if they are enough and their value can be held. -/
theorem takeNumber_eq_ok_iff {least n : Nat} {most : Option Nat} {text rest : List Char} :
    takeNumber least most text = .ok (n, rest) ↔
      least ≤ (leadingDigits most text).length ∧
        digitsValue (leadingDigits most text) ≤ Bounds.int64.greatest ∧
        n = digitsValue (leadingDigits most text) ∧ rest = text.drop (leadingDigits most text).length := by
  have hDigits : takeNumber least most text =
      if (leadingDigits most text).length < least then .error .mismatch
      else if Bounds.int64.greatest < digitsValue (leadingDigits most text) then .error .outOfRange
      else .ok (digitsValue (leadingDigits most text), text.drop (leadingDigits most text).length) := by
    cases most <;> rfl
  rw [hDigits]
  split
  · next hFew => exact ⟨nofun, fun h => absurd hFew (Nat.not_lt.mpr h.1)⟩
  · next hLeast =>
      split
      · next hLarge => exact ⟨nofun, fun h => absurd hLarge (Int.not_lt.mpr h.2.1)⟩
      · next hFits =>
          simp only [Except.ok.injEq, Prod.mk.injEq]
          constructor
          · rintro ⟨rfl, rfl⟩
            exact ⟨Nat.not_lt.mp hLeast, Int.not_lt.mp hFits, rfl, rfl⟩
          · rintro ⟨-, -, rfl, rfl⟩
            exact ⟨rfl, rfl⟩

/-- Digits stop at a point. -/
theorem stopsAtPoint_takeNumber (least : Nat) (most : Option Nat) :
    StopsAtPoint (takeNumber least most) := by
  constructor
  · intro text value rest hTaken
    obtain ⟨-, -, -, rfl⟩ := takeNumber_eq_ok_iff.mp hTaken
    exact List.drop_suffix _ _
  · intro text value rest hTaken more
    have hDigits : leadingDigits most (text ++ '.' :: more) = leadingDigits most text := by
      unfold leadingDigits
      rw [takeWhile_append_point (by decide)]
    obtain ⟨hLeast, hFits, rfl, rfl⟩ := takeNumber_eq_ok_iff.mp hTaken
    rw [takeNumber_eq_ok_iff, hDigits, List.drop_append_of_le_length (length_leadingDigits_le most text)]
    exact ⟨hLeast, hFits, rfl, rfl⟩

/-- A number stops at a point with a sign or without, and with white space before it. -/
theorem Numeric.stopsAtPoint_take (numeric : Numeric) : StopsAtPoint numeric.take := by
  constructor
  · intro text value rest hTaken
    obtain ⟨written, rfl, -⟩ := exists_written_of_take hTaken
    exact List.suffix_append _ _
  · intro text value rest hTaken more
    have hPlain {most : Option Nat} {negative : Bool} {digits : List Char}
        (h : (takeNumber 1 most digits).map (fun taken : Nat × List Char =>
          ((if negative then -(taken.1 : Int) else taken.1), taken.2)) = .ok (value, rest)) :
        (takeNumber 1 most (digits ++ '.' :: more)).map (fun taken : Nat × List Char =>
          ((if negative then -(taken.1 : Int) else taken.1), taken.2)) =
            .ok (value, rest ++ '.' :: more) :=
      ((stopsAtPoint_takeNumber 1 most).map fun n : Nat =>
        if negative then -(n : Int) else n).append h more
    unfold take at hTaken ⊢
    dsimp only at hTaken ⊢
    rw [trimStart_append_point]
    generalize Text.trimStart text = start at hTaken
    split at hTaken
    · next digits =>
        split at hTaken
        · next hSigned =>
            rw [List.cons_append]
            simp only [hSigned, if_true]
            exact hPlain hTaken
        · cases hTaken
    · next digits =>
        split at hTaken
        · next hSigned =>
            rw [List.cons_append]
            simp only [hSigned, if_true]
            exact hPlain hTaken
        · cases hTaken
    · next hMinus hPlus =>
        have hUnsigned := hPlain hTaken
        cases start with
        | nil => exact hUnsigned
        | cons c digits =>
            have hNotMinus : c ≠ '-' := fun h => hMinus digits (h ▸ rfl)
            have hNotPlus : c ≠ '+' := fun h => hPlus digits (h ▸ rfl)
            simpa [hNotMinus, hNotPlus] using hUnsigned

/-! ### Letters -/

/-- Letters are dropped from the start of a text. -/
theorem dropLetters?_suffix {letters : String} {text rest : List Char}
    (h : dropLetters? letters text = some rest) : rest <:+ text := by
  unfold dropLetters? at h
  dsimp only at h
  split at h
  · obtain rfl := Option.some.inj h
    exact List.drop_suffix _ _
  · cases h

/-- Letters are found in a text, or not, before the point behind it. -/
theorem dropLetters?_append {letters : String} (hLetters : '.' ∉ letters.toList) (text more : List Char) :
    dropLetters? letters (text ++ '.' :: more) =
      (dropLetters? letters text).map (· ++ '.' :: more) := by
  unfold dropLetters?
  dsimp only
  by_cases hLength : letters.toList.length ≤ text.length
  · rw [List.take_append_of_le_length hLength, List.drop_append_of_le_length hLength]
    split <;> rfl
  · have hShort : ¬((text.take letters.toList.length).map Char.toLower == letters.toList) = true := by
      intro hSame
      have hSize := congrArg List.length (beq_iff_eq.mp hSame)
      rw [List.length_map, List.length_take] at hSize
      omega
    have hPoint : ¬(((text ++ '.' :: more).take letters.toList.length).map Char.toLower ==
        letters.toList) = true := by
      intro hSame
      apply hLetters
      rw [← beq_iff_eq.mp hSame]
      refine List.mem_map.mpr ⟨'.', ?_, rfl⟩
      obtain ⟨extra, hExtra⟩ : ∃ extra, letters.toList.length = text.length + (extra + 1) :=
        ⟨letters.toList.length - text.length - 1, by omega⟩
      rw [hExtra, List.take_length_add_append]
      exact List.mem_append_right _ List.mem_cons_self
    rw [if_neg hShort, if_neg hPoint]
    rfl

/-- The text behind letters that need not be there. -/
theorem dropLetters?_getD_append {letters : String} (hLetters : '.' ∉ letters.toList)
    (text more : List Char) :
    (dropLetters? letters (text ++ '.' :: more)).getD (text ++ '.' :: more) =
      (dropLetters? letters text).getD text ++ '.' :: more := by
  rw [dropLetters?_append hLetters]
  cases dropLetters? letters text <;> rfl

theorem dropLetters?_getD_suffix (letters : String) (text : List Char) :
    (dropLetters? letters text).getD text <:+ text := by
  cases hDrop : dropLetters? letters text with
  | none => exact List.suffix_refl text
  | some rest => exact dropLetters?_suffix hDrop

/-- Names without a point in them. -/
def WithoutPoint (names : List (String × String)) : Prop :=
  ∀ name ∈ names, '.' ∉ name.1.toList ∧ '.' ∉ name.2.toList

instance (names : List (String × String)) : Decidable (WithoutPoint names) :=
  inferInstanceAs (Decidable (∀ name ∈ names, _))

/-- No name that may be asked for has a point in it. -/
theorem WithoutPoint.getD {names : List (String × String)} (h : WithoutPoint names) (place : Nat) :
    '.' ∉ (names.getD place ("", "")).1.toList ∧ '.' ∉ (names.getD place ("", "")).2.toList := by
  rw [List.getD_eq_getElem?_getD]
  cases hName : names[place]? with
  | none => exact ⟨by decide, by decide⟩
  | some name => exact h name (List.mem_of_getElem? hName)

/-- Which name comes first is decided in front of the point. -/
theorem WithoutPoint.findIdx?_append {names : List (String × String)} (h : WithoutPoint names)
    (text more : List Char) :
    (names.findIdx? fun name => (dropLetters? name.1 (text ++ '.' :: more)).isSome) =
      names.findIdx? fun name => (dropLetters? name.1 text).isSome := by
  induction names with
  | nil => rfl
  | cons name names ih =>
      obtain ⟨hName, hNames⟩ := List.forall_mem_cons.mp h
      rw [List.findIdx?_cons, List.findIdx?_cons, ih hNames, dropLetters?_append hName.1,
        Option.isSome_map]

/-- The text behind a name, of which the long form is taken where it is allowed. -/
def afterName (name : String × String) (long : Bool) (text : List Char) : List Char :=
  let rest := (dropLetters? name.1 text).getD text
  if long then (dropLetters? name.2 rest).getD rest else rest

/-- A name is taken as the first one of its list that the text starts with. -/
theorem takeName_eq_ok_iff {names : List (String × String)} {long : Bool} {text rest : List Char}
    {place : Nat} : takeName names long text = .ok (place, rest) ↔
      (names.findIdx? fun name => (dropLetters? name.1 text).isSome) = some place ∧
        rest = afterName (names.getD place ("", "")) long text := by
  unfold takeName
  split
  · next hNone =>
      change (names.findIdx? fun name => (dropLetters? name.1 text).isSome) = none at hNone
      simp [hNone]
  · next found hFound =>
      change (names.findIdx? fun name => (dropLetters? name.1 text).isSome) = some found at hFound
      simp only [hFound, Except.ok.injEq, Prod.mk.injEq, Option.some.injEq]
      constructor
      · rintro ⟨rfl, rfl⟩
        exact ⟨rfl, rfl⟩
      · rintro ⟨rfl, rfl⟩
        exact ⟨rfl, rfl⟩

/-- Names of months and weekdays stop at a point. -/
theorem stopsAtPoint_takeName {names : List (String × String)} (hNames : WithoutPoint names) (long : Bool) :
    StopsAtPoint (takeName names long) := by
  constructor
  · intro text place rest hTaken
    obtain ⟨-, rfl⟩ := takeName_eq_ok_iff.mp hTaken
    cases long
    · exact dropLetters?_getD_suffix _ text
    · exact (dropLetters?_getD_suffix _ _).trans (dropLetters?_getD_suffix _ text)
  · intro text place rest hTaken more
    obtain ⟨hPlace, rfl⟩ := takeName_eq_ok_iff.mp hTaken
    obtain ⟨hShort, hLong⟩ := hNames.getD place
    rw [takeName_eq_ok_iff, hNames.findIdx?_append]
    refine ⟨hPlace, ?_⟩
    unfold afterName
    rw [dropLetters?_getD_append hShort]
    cases long
    · rfl
    · exact (dropLetters?_getD_append hLong _ more).symm

/-- The half of a day stops at a point. -/
theorem stopsAtPoint_takeHalf : StopsAtPoint takeHalf := by
  constructor
  · intro text value rest hTaken
    unfold takeHalf at hTaken
    split at hTaken
    · next hAm =>
        obtain ⟨-, rfl⟩ := Prod.mk.inj (Except.ok.inj hTaken)
        exact dropLetters?_suffix hAm
    · next hPm =>
        obtain ⟨-, rfl⟩ := Prod.mk.inj (Except.ok.inj hTaken)
        exact dropLetters?_suffix hPm
    · cases hTaken
  · intro text value rest hTaken more
    unfold takeHalf at hTaken ⊢
    rw [dropLetters?_append (by decide), dropLetters?_append (by decide)]
    cases hAm : dropLetters? "am" text with
    | some behind =>
        rw [hAm] at hTaken
        obtain ⟨rfl, rfl⟩ := Prod.mk.inj (Except.ok.inj hTaken)
        rfl
    | none =>
        rw [hAm] at hTaken
        cases hPm : dropLetters? "pm" text with
        | some behind =>
            rw [hPm] at hTaken
            obtain ⟨rfl, rfl⟩ := Prod.mk.inj (Except.ok.inj hTaken)
            rfl
        | none =>
            rw [hPm] at hTaken
            cases hTaken

/-! ### Offsets -/

/-- A sign stands at the start, whatever follows. -/
theorem takeSign?_eq_some {text rest : List Char} {negative : Bool}
    (h : takeSign? text = some (negative, rest)) :
    rest <:+ text ∧ ∀ more, takeSign? (text ++ more) = some (negative, rest ++ more) := by
  unfold takeSign? at h
  split at h
  case h_1 | h_2 | h_3 =>
    obtain ⟨rfl, rfl⟩ := Prod.mk.inj (Option.some.inj h)
    exact ⟨List.suffix_cons _ _, fun _ => rfl⟩
  case h_4 => cases h

/-- Two numbers of two digits stand at the start, whatever follows. -/
theorem takePair?_eq_some {text rest : List Char} {a b : Nat} (h : takePair? text = some (a, b, rest)) :
    rest <:+ text ∧ ∀ more, takePair? (text ++ more) = some (a, b, rest ++ more) := by
  unfold takePair? at h
  split at h
  · next c d behind =>
      obtain ⟨first, hFirst, h⟩ := Option.bind_eq_some_iff.mp h
      obtain ⟨second, hSecond, h⟩ := Option.bind_eq_some_iff.mp h
      obtain ⟨rfl, rfl, rfl⟩ : first = a ∧ second = b ∧ behind = rest := by simpa using h
      refine ⟨(List.suffix_cons d behind).trans (List.suffix_cons c _), fun more => ?_⟩
      simp only [takePair?, List.cons_append, hFirst, hSecond, bind, Option.bind]
  · cases h

/-- Offsets from universal time stop at a point. -/
theorem stopsAtPoint_takeSignedOffset : StopsAtPoint (takeSignedOffset false) := by
  -- Both numbers have to be there, so that nothing is left to what follows.
  have hTaken {text rest : List Char} {minutes : Int}
      (h : takeSignedOffset false text = .ok (minutes, rest)) : rest <:+ text ∧
        ∀ more, takeSignedOffset false (text ++ '.' :: more) = .ok (minutes, rest ++ '.' :: more) := by
    unfold takeSignedOffset at h
    split at h
    · cases h
    · next negative digits hSign =>
        obtain ⟨hSignSuffix, hSignAppend⟩ := takeSign?_eq_some hSign
        split at h
        · cases h
        · next h₁ h₂ behind hHours =>
            obtain ⟨hHoursSuffix, hHoursAppend⟩ := takePair?_eq_some hHours
            dsimp only at h
            split at h
            · next m₁ m₂ after hMinutes =>
                obtain ⟨hMinutesSuffix, hMinutesAppend⟩ := takePair?_eq_some hMinutes
                split at h
                · cases h
                · next hSixty =>
                    obtain ⟨hTotal, rfl⟩ := Prod.mk.inj (Except.ok.inj h)
                    refine ⟨hMinutesSuffix.trans ((List.dropWhile_suffix _).trans
                      (hHoursSuffix.trans hSignSuffix)), fun more => ?_⟩
                    unfold takeSignedOffset
                    rw [hSignAppend]
                    dsimp only
                    rw [hHoursAppend]
                    dsimp only
                    rw [dropWhile_append_point (by decide), hMinutesAppend]
                    dsimp only
                    rw [if_neg hSixty, hTotal]
            · cases h
  exact ⟨fun h => (hTaken h).1, fun h => (hTaken h).2⟩

/-! ### Items -/

/-- The progress made with a text that goes on behind a point. -/
def Progress.before (progress : Progress) (more : List Char) : Progress :=
  { progress with rest := progress.rest ++ '.' :: more }

namespace Item

variable {item : Item} {items : List Item} {progress next : Progress} {part : Part}

/-- Whether an item is one of those that patterns of letters stand for. -/
def isOfPattern : Item → Bool
  | space | literal _ | number _ | monthName _ | weekdayName _ | half | offset .full => true
  | _ => false

/-- An item whose reader stops at points goes on alike in front of one. -/
theorem advance_before {reader : List Char → Except Fault (Int × List Char)}
    (hReader : StopsAtPoint reader) (h : advance progress part (reader progress.rest) = .ok next) :
    next.rest <:+ progress.rest ∧ ∀ more,
      advance (progress.before more) part (reader (progress.before more).rest) = .ok (next.before more) := by
  obtain ⟨⟨value, rest⟩, hTaken, h⟩ := bind_eq_ok h
  obtain ⟨components, hSet, h⟩ := bind_eq_ok h
  obtain rfl := Except.ok.inj h
  refine ⟨hReader.suffix hTaken, fun more => ?_⟩
  have hMore := hReader.append hTaken more
  simp only [advance, Progress.before, hMore, hSet, bind, Except.bind, pure, Except.pure]

/-- What an item takes of a text is at its start, and the same when a point and more follow. -/
theorem take_before (hItem : item.isOfPattern = true) (h : item.take progress = .ok next) :
    next.rest <:+ progress.rest ∧ ∀ more, item.take (progress.before more) = .ok (next.before more) := by
  cases item with
  | space =>
      obtain rfl := Except.ok.inj h
      refine ⟨List.dropWhile_suffix _, fun more => ?_⟩
      simp only [take, Progress.before, trimStart_append_point]
  | literal c =>
      obtain ⟨components, text⟩ := progress
      cases text with
      | nil => cases h
      | cons d rest =>
          simp only [take] at h
          split at h
          · next hSame =>
              obtain rfl := Except.ok.inj h
              exact ⟨List.suffix_cons d rest, fun more => by simp [take, Progress.before, hSame]⟩
          · cases h
  | number numeric =>
      obtain ⟨⟨value, rest⟩, hTaken, h⟩ := bind_eq_ok h
      obtain ⟨components, hStore, h⟩ := bind_eq_ok h
      obtain rfl := Except.ok.inj h
      refine ⟨numeric.stopsAtPoint_take.suffix hTaken, fun more => ?_⟩
      have hMore := numeric.stopsAtPoint_take.append hTaken more
      simp only [take, Progress.before, hMore, hStore, bind, Except.bind, pure, Except.pure]
  | monthName long =>
      have hName := stopsAtPoint_takeName (show WithoutPoint monthNames by decide) long
      exact advance_before (hName.map fun n : Nat => ((n + 1 : Nat) : Int)) h
  | weekdayName long =>
      have hName := stopsAtPoint_takeName (show WithoutPoint weekdayNames by decide) long
      exact advance_before (hName.map fun n : Nat => ((n + 0 : Nat) : Int)) h
  | half => exact advance_before (stopsAtPoint_takeHalf.map fun n : Nat => ((n + 0 : Nat) : Int)) h
  | offset form =>
      cases form with
      | full => exact advance_before stopsAtPoint_takeSignedOffset.trimStart h
      | lenient | named => cases hItem
  | fraction | places | zoneName | separator => cases hItem

/-- The items of a pattern take the same of a text whatever follows behind a point, by induction on the items.
-/
theorem takeAll_before (hItems : ∀ item ∈ items, item.isOfPattern = true)
    (h : takeAll items progress = .ok next) :
    next.rest <:+ progress.rest ∧
      ∀ more, takeAll items (progress.before more) = .ok (next.before more) := by
  induction items generalizing progress with
  | nil =>
      obtain rfl := Except.ok.inj h
      exact ⟨List.suffix_refl _, fun _ => rfl⟩
  | cons item items ih =>
      obtain ⟨hItem, hItems⟩ := List.forall_mem_cons.mp hItems
      obtain ⟨between, hTake, h⟩ := bind_eq_ok h
      obtain ⟨hFirst, hFirstMore⟩ := take_before hItem hTake
      obtain ⟨hRest, hRestMore⟩ := ih hItems h
      refine ⟨hRest.trans hFirst, fun more => ?_⟩
      exact bind_eq_ok_iff.mpr ⟨_, hFirstMore more, hRestMore more⟩

end Item

end LogIngest.Calendar
