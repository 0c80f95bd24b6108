import LogIngest.Proofs.Calendar.Filling
import LogIngest.Proofs.Calendar.Later
import LogIngest.Proofs.Calendar.MillisPatterns
import LogIngest.Proofs.Calendar.Timestamps
import LogIngest.Proofs.Text.Trimming

/-!
Milliseconds behind the second. Main statement: a number of milliseconds behind a text leads to the instant so
much later than that of the text; but within a leap second, which is lost where milliseconds are read.
-/

namespace LogIngest.Calendar

namespace Components

variable {components next known : Components} {part other : Part} {value : Int} {clock : Clock} {n : Nat}

/-- Two components can be put in either order. -/
theorem put_comm (h : part ≠ other) (components : Components) (first second : Int) :
    (components.put part first).put other second = (components.put other second).put part first := by
  unfold put
  congr 1
  funext p
  dsimp only
  split
  · next hOther => rw [if_neg (fun hPart => h (hPart.symm.trans hOther))]
  · rfl

/-! ### Steps that leave a component alone -/

/-- A step that leaves a component alone: it makes others known, and the same ones where that one is known. -/
structure Frames (part : Part) (step : Components → Except Fault Components) : Prop where
  learns : ∀ {components next}, step components = .ok next →
    ∃ parts, Learns parts components next ∧ part ∉ parts
  put : ∀ {components next}, step components = .ok next → ∀ value,
    step (components.put part value) = .ok (next.put part value)

namespace Frames

variable {step others : Components → Except Fault Components}

/-- Steps that leave a component alone do so one after another. -/
theorem bind (h : Frames part step) (hOthers : Frames part others) :
    Frames part fun components => step components >>= others := by
  constructor
  · intro components last hLast
    obtain ⟨next, hNext, hLast⟩ := bind_eq_ok hLast
    obtain ⟨parts, hLearns, hPart⟩ := h.learns hNext
    obtain ⟨more, hMore, hPartMore⟩ := hOthers.learns hLast
    exact ⟨parts ++ more, hLearns.append hMore, List.not_mem_append hPart hPartMore⟩
  · intro components last hLast value
    obtain ⟨next, hNext, hLast⟩ := bind_eq_ok hLast
    exact bind_eq_ok_iff.mpr ⟨_, h.put hNext value, hOthers.put hLast value⟩

theorem none : Frames part (.ok ·) where
  learns h := ⟨[], Except.ok.inj h ▸ .nil _, List.not_mem_nil⟩
  put h value := by rw [Except.ok.inj h]

/-- Setting another component leaves this one alone. -/
theorem set (hOther : part ≠ other) (value : Int) :
    Frames part fun components => components.set other value := by
  constructor
  · intro components next hNext
    exact ⟨[other], .single hNext, by simpa using hOther⟩
  · intro components next hNext told
    obtain ⟨hRange, ⟨hKnown, rfl⟩ | ⟨hUnknown, rfl⟩⟩ := set_eq_ok_iff.mp hNext
    · exact set_eq_ok_iff.mpr ⟨hRange, .inl ⟨(get_put_of_ne hOther.symm).trans hKnown, rfl⟩⟩
    · rw [put_comm hOther.symm]
      exact set_eq_ok_iff.mpr ⟨hRange, .inr ⟨(get_put_of_ne hOther.symm).trans hUnknown, rfl⟩⟩

/-- Setting the hour leaves all components alone but the half of the day and the hour in it. -/
theorem setHour (hHalf : part ≠ .half) (hHour : part ≠ .hourOfHalf) (value : Int) :
    Frames part fun components => components.setHour value := by
  unfold Components.setHour
  split
  · exact ⟨nofun, nofun⟩
  · exact (set hHalf _).bind (set hHour _)

/-- Filling in another component leaves this one alone. -/
theorem fill (hOther : part ≠ other) (supplied : Bool) (value : Int) :
    Frames part fun components => DateFormat.fill components supplied other value := by
  cases supplied
  · exact set hOther value
  · exact none

/-- Whatever is filled in, nothing is for the nanosecond. -/
theorem complete (supply : Supply) : Frames .nano (DateFormat.complete supply) := by
  have hNext {others : Components → Except Fault Components} {part : Part} (hPart : .nano ≠ part)
      (supplied : Bool) (value : Int) (hOthers : Frames .nano others) :
      Frames .nano fun known => DateFormat.fill known supplied part value >>= others :=
    (fill hPart supplied value).bind hOthers
  unfold DateFormat.complete
  refine hNext (by decide) _ _ <| hNext (by decide) _ _ <| hNext (by decide) _ _ <|
    hNext (by decide) _ _ ?_
  have hLast := hNext (show .nano ≠ Part.minute by decide) supply.minute 0
    (fill (show .nano ≠ Part.second by decide) supply.second 0)
  split
  · exact none.bind hLast
  · exact (setHour (by decide) (by decide) 0).bind hLast

end Frames

/-! ### Dates and times with a nanosecond -/

/-- The date does not depend on the nanosecond. -/
theorem toDate_put_nano (components : Components) (value : Int) :
    (components.put .nano value).toDate = components.toDate := by
  have hGet {part : Part} (h : part ≠ .nano) : (components.put .nano value).get part = components.get part :=
    get_put_of_ne h
  simp only [toDate, candidate, fitsCivil, fitsCentury, fitsIsoWeek, fitsOrdinal, fits, ne_eq, reduceCtorEq,
    not_false_eq_true, hGet]
  rfl

theorem toOffset_put_nano (components : Components) (value : Int) :
    (components.put .nano value).toOffset = components.toOffset := by
  simp only [toOffset, need, get_put_of_ne (show Part.offset ≠ .nano by decide)]

end Components

namespace Numeric.Writes

variable {numeric : Numeric} {written : List Char} {value : Int}

/-- Numbers are written without points. -/
theorem point_not_mem (h : numeric.Writes written value) : '.' ∉ written := by
  have hBlank {blank : List Char} (h : Text.isBlank blank = true) : '.' ∉ blank := fun hPoint =>
    absurd (List.all_eq_true.mp h '.' hPoint) (by decide)
  have hDigits {digits : List Char} (h : ∀ c ∈ digits, c.isDigit = true) : '.' ∉ digits := fun hPoint =>
    absurd (h '.' hPoint) (by decide)
  cases h with
  | unsigned h hSome hAll => exact List.not_mem_append (hBlank h) (hDigits hAll)
  | positive hSigned h hSome hAll | negative hSigned h hSome hAll =>
      exact List.not_mem_append (hBlank h) (List.not_mem_cons_of_ne_of_not_mem (by decide) (hDigits hAll))

/-- A written number ends in a digit. -/
theorem exists_getLast? (h : numeric.Writes written value) :
    ∃ c, written.getLast? = some c ∧ c.isDigit = true := by
  have hDigits {digits : List Char} (before : List Char) (hSome : digits ≠ [])
      (hAll : ∀ c ∈ digits, c.isDigit = true) :
      ∃ c, (before ++ digits).getLast? = some c ∧ c.isDigit = true := by
    refine ⟨digits.getLast hSome, ?_, hAll _ (List.getLast_mem hSome)⟩
    rw [List.getLast?_append, List.getLast?_eq_some_getLast hSome, Option.some_or]
  cases h with
  | unsigned h hSome hAll => exact hDigits _ hSome hAll
  | @positive blank digits hSigned h hSome hAll =>
      obtain ⟨c, hLast, hDigit⟩ := hDigits (blank ++ ['+']) hSome hAll
      exact ⟨c, by simpa using hLast, hDigit⟩
  | @negative blank digits hSigned h hSome hAll =>
      obtain ⟨c, hLast, hDigit⟩ := hDigits (blank ++ ['-']) hSome hAll
      exact ⟨c, by simpa using hLast, hDigit⟩

end Numeric.Writes

/-- A number that ends a text is all that was left of it. -/
theorem Item.exists_writes_of_takeAll {numeric : Numeric} {components last : Components} {text : List Char}
    (h : takeAll [.number numeric] ⟨components, text⟩ = .ok ⟨last, []⟩) :
    ∃ value, numeric.Writes text value := by
  obtain ⟨next, hTake, hLast⟩ := bind_eq_ok h
  obtain rfl := Except.ok.inj hLast
  obtain ⟨⟨value, rest⟩, hTaken, hStored⟩ := bind_eq_ok hTake
  obtain ⟨stored, -, hSame⟩ := bind_eq_ok hStored
  obtain rfl : rest = [] := congrArg Progress.rest (Except.ok.inj hSame)
  obtain ⟨written, rfl, hWrites⟩ := Numeric.exists_written_of_take hTaken
  exact ⟨value, (List.append_nil written).symm ▸ hWrites⟩

/-- The last point of a text parts it in one way only. -/
theorem eq_of_append_point {before other after behind : List Char}
    (h : before ++ '.' :: after = other ++ '.' :: behind) (hAfter : '.' ∉ after) (hBehind : '.' ∉ behind) :
    before = other ∧ after = behind := by
  rcases List.append_eq_append_iff.mp h with ⟨between, rfl, hBetween⟩ | ⟨between, rfl, hBetween⟩
  · cases between with
    | nil => exact ⟨(List.append_nil _).symm, (List.cons.inj hBetween).2⟩
    | cons c between =>
        refine absurd ?_ hAfter
        rw [(List.cons.inj hBetween).2]
        exact List.mem_append_right _ List.mem_cons_self
  · cases between with
    | nil => exact ⟨List.append_nil _, (List.cons.inj hBetween).2.symm⟩
    | cons c between =>
        refine absurd ?_ hBehind
        rw [(List.cons.inj hBetween).2]
        exact List.mem_append_right _ List.mem_cons_self

/-- A time of day that is made without a nanosecond is at the start of a second. With one it lies within that
second. -/
theorem Clock.startsSecond_of_of? {hour minute second n : Nat} {clock : Clock} (hBound : n < 1000000000)
    (h : of? hour minute second 0 = some clock) : clock.StartsSecond ∧
      ∃ finer, of? hour minute second n = some finer ∧ finer.second = clock.second := by
  obtain ⟨hMade, hSame⟩ := Option.dite_none_right_eq_some.mp h
  obtain rfl := Option.some.inj hSame
  obtain ⟨hParts, hDay, -, hLeapEnd⟩ := hMade
  unfold StartsSecond
  dsimp only at hLeapEnd ⊢
  constructor
  · split <;> simp
  · refine ⟨_, Option.dite_none_right_eq_some.mpr ⟨⟨hParts, hDay, ?_, ?_⟩, rfl⟩, rfl⟩
    · split <;> omega
    · by_cases hLeap : (second == 60) = true
      · rw [if_pos hLeap] at hLeapEnd
        intro _
        exact hLeapEnd (by omega)
      · rw [if_neg hLeap]
        omega

/-- The time that components show without a nanosecond, and what is made of it with a number of milliseconds. -/
theorem Components.shownTime_put_nano {known : Components} {shown : DateTime} {n : Nat}
    (hNano : known.get .nano = none) (hSecond : known.Knows .second) (hBound : n < 1000000000)
    (h : DateFormat.shownTime false known = .ok shown) : shown.clock.StartsSecond ∧
      ∀ moved, DateFormat.shownTime true (known.put .nano n) = .ok moved ↔
        shown.addMillis? n = some moved := by
  obtain ⟨second, hSecond⟩ := hSecond
  obtain ⟨hDate, hClock⟩ := DateFormat.shownTime_false_eq_ok_iff.mp h
  obtain ⟨-, half, hour, minute, hHalf, hHour, hMinute, hOf⟩ := toClock_eq_ok_iff.mp hClock
  rw [hNano] at hOf
  obtain ⟨hStarts, finer, hFiner, hSame⟩ := Clock.startsSecond_of_of? hBound hOf
  have hGet {part : Part} (h : part ≠ .nano) : (known.put .nano n).get part = known.get part :=
    get_put_of_ne h
  have hFinerClock : (known.put .nano n).toClock = .ok finer := by
    refine toClock_eq_ok_iff.mpr ⟨fun hNone => ?_, half, hour, minute, ?_⟩
    · rw [hGet (by decide), hSecond] at hNone
      cases hNone
    · rw [hGet (by decide), hGet (by decide), hGet (by decide), hGet (by decide), get_put_self]
      exact ⟨hHalf, hHour, hMinute, hFiner⟩
  have hFinerDate : (known.put .nano n).toDate = .ok shown.date := (toDate_put_nano known n).trans hDate
  have hMillis : (⟨shown.date, finer⟩ : DateTime).addMillis? n = shown.addMillis? n := by
    simp only [DateTime.addMillis?, hSame]
  refine ⟨hStarts, fun moved => ?_⟩
  rw [← hMillis]
  simp only [DateFormat.shownTime, hFinerDate, hFinerClock, get_put_self, bind, Except.bind, if_true,
    Int.toNat_natCast]
  cases (⟨shown.date, finer⟩ : DateTime).addMillis? n with
  | none => exact iff_of_false (fun h => by cases h) (fun h => by cases h)
  | some found => exact ⟨fun h => congrArg some (Except.ok.inj h), fun h => congrArg Except.ok (Option.some.inj h)⟩

end LogIngest.Calendar

namespace LogIngest.DateFormat

open Calendar

variable {format : DateFormat} {text digits : List Char} {components : Components} {instant later : Instant}

/-- The offset at which a format without a count of seconds takes a time to be shown. -/
def offsetFor (format : DateFormat) (known : Components) : Except Fault Offset :=
  if format.supply.zone then known.toOffset else .ok format.zone

/-- The instant at which a time is shown at an offset. -/
def instantAt (shown : DateTime) (offset : Offset) : Except Fault Instant :=
  match shown.atOffset? offset with
  | some instant => .ok instant
  | none => .error .outOfRange

/-- An instant is what is shown, at its offset from universal time. -/
theorem instantAt_eq_ok_iff {shown : DateTime} {offset : Offset} :
    instantAt shown offset = .ok instant ↔ shown.atOffset? offset = some instant := by
  unfold instantAt
  cases shown.atOffset? offset <;> simp

/-- Unless a count of seconds is told, an instant comes from what is filled in, what is then shown and the
offset. -/
theorem resolve_eq_ok_iff (hStamp : format.supply.stamp = false) : format.resolve components = .ok instant ↔
    ∃ known shown offset, complete format.supply components = .ok known ∧
      shownTime format.millis known = .ok shown ∧ format.offsetFor known = .ok offset ∧
      shown.atOffset? offset = some instant := by
  have hResolve : format.resolve components = (do
      let known ← complete format.supply components
      let shown ← shownTime format.millis known
      let offset ← format.offsetFor known
      instantAt shown offset) := by
    unfold resolve offsetFor
    rw [hStamp, if_neg Bool.false_ne_true]
    cases format.supply.zone <;> rfl
  simp only [hResolve, bind_eq_ok_iff, instantAt_eq_ok_iff]
  constructor
  · rintro ⟨known, hKnown, shown, hShown, offset, hOffset, h⟩
    exact ⟨known, shown, offset, hKnown, hShown, hOffset, h⟩
  · rintro ⟨known, shown, offset, hKnown, hShown, hOffset, h⟩
    exact ⟨known, hKnown, shown, hShown, offset, hOffset, h⟩

/-- A text is read by scanning it and resolving what was found. -/
theorem read?_eq_some_iff : format.read? text = some instant ↔ ∃ components,
    Item.scan format.items (normalize format.supply text) = .ok components ∧
      format.resolve components = .ok instant := by
  unfold read?
  rw [← bind_eq_ok_iff]
  exact ⟨eq_ok_of_toOption, fun h => by rw [h]; rfl⟩

/-- What a text shows is what its components show when they are filled in. -/
theorem shown?_eq_some_iff {shown : DateTime} : format.shown? text = some shown ↔ ∃ components known,
    Item.scan format.items (normalize format.supply text) = .ok components ∧
      complete format.supply components = .ok known ∧ shownTime format.millis known = .ok shown := by
  have hShown {computed : Except Fault DateTime} : computed.toOption = some shown ↔ computed = .ok shown :=
    ⟨eq_ok_of_toOption, fun h => by rw [h]; rfl⟩
  simp only [shown?, hShown, bind_eq_ok_iff, exists_and_left]

/-- Digits of milliseconds, up to nine of them. -/
structure IsMillis (digits : List Char) : Prop where
  all : ∀ c ∈ digits, c.isDigit = true
  some : digits ≠ []
  atMostNine : digits.length ≤ 9

namespace IsMillis

theorem bound (h : IsMillis digits) : digitsValue digits < 1000000000 :=
  Nat.lt_of_lt_of_le (digitsValue_lt h.all) (Nat.pow_le_pow_right (by decide) h.atMostNine)

theorem point_not_mem (h : IsMillis digits) : '.' ∉ digits := by
  intro hPoint
  cases h.all '.' hPoint

/-- A text with milliseconds behind it ends in a digit, so that no letter of a zone is cut off. -/
theorem isDigit_of_getLast? (h : IsMillis digits) {c : Char}
    (hLast : (text ++ '.' :: digits).getLast? = .some c) : c.isDigit = true := by
  rw [List.getLast?_append, List.getLast?_cons_of_ne_nil h.some] at hLast
  cases hDigit : digits.getLast? with
  | none => exact absurd (List.getLast?_eq_none_iff.mp hDigit) h.some
  | some d =>
      rw [hDigit, Option.some_or] at hLast
      obtain rfl := Option.some.inj hLast
      exact h.all _ (List.mem_of_getLast? hDigit)

/-- Milliseconds are taken as a number to the end of the text. -/
theorem take (h : IsMillis digits) : Numeric.nano.take digits = .ok (digitsValue digits, []) := by
  have hWrites : Numeric.nano.Writes ([] ++ digits) (digitsValue digits) :=
    .unsigned rfl h.some h.all (by simpa [Numeric.width?] using h.atMostNine)
  have hBound := h.bound
  have hTake := @Numeric.take_written .nano [] _ _ hWrites (by simp) (by simp only [Bounds.int64]; omega)
  rwa [List.append_nil, List.nil_append] at hTake

end IsMillis

/-- The text is taken as it is where it ends in milliseconds. -/
theorem normalize_millis (hText : Text.trim text = text) (hDigits : IsMillis digits) (supply : Supply) :
    normalize supply (text ++ '.' :: digits) = text ++ '.' :: digits := by
  have hTrim : Text.trim (text ++ '.' :: digits) = text ++ '.' :: digits := by
    refine Text.trim_of_ends (fun c hc => ?_) fun c hc =>
      Text.isBlankChar_of_isDigit (hDigits.isDigit_of_getLast? hc)
    cases hFirst : text.head? with
    | none =>
        rw [List.head?_append, hFirst, Option.none_or] at hc
        obtain rfl := Option.some.inj hc
        rfl
    | some d =>
        rw [List.head?_append, hFirst, Option.some_or] at hc
        obtain rfl := Option.some.inj hc
        exact Text.isBlankChar_of_head?_trim (hText.symm ▸ hFirst)
  have hNotZ : (text ++ '.' :: digits).getLast? ≠ some 'Z' := by
    intro hLast
    cases hDigits.isDigit_of_getLast? hLast
  simp only [normalize, hTrim, beq_eq_false_iff_ne.mpr hNotZ, Bool.and_false, Bool.false_eq_true, if_false]

namespace ReadsSecondLast

variable (h : format.ReadsSecondLast)
include h

/-- The items of such a format are items of patterns of letters. -/
theorem isOfPattern : ∀ item ∈ format.items, item.isOfPattern = true := by
  obtain ⟨front, hItems, hFront⟩ := h.items
  rw [hItems]
  exact List.forall_mem_append.mpr ⟨fun item hItem => (hFront item hItem).1,
    List.forall_mem_singleton.mpr rfl⟩

/-- A text tells its second, and nothing finer. -/
theorem told_of_scan (hScan : Item.scan format.items text = .ok components) :
    components.get .nano = none ∧ components.Knows .second := by
  obtain ⟨front, hItems, hFront⟩ := h.items
  rw [hItems] at hScan
  constructor
  · cases hNano : components.get .nano with
    | none => rfl
    | some value =>
        obtain ⟨item, hItem, hPart⟩ := Item.exists_item_of_scan hScan hNano
        rcases List.mem_append.mp hItem with hItem | hItem
        · exact absurd hPart (hFront item hItem).2
        · obtain rfl := List.mem_singleton.mp hItem
          exact absurd hPart (by decide)
  · exact Item.known_of_scan hScan (List.mem_append_right front (List.mem_singleton.mpr rfl)) nofun
      List.mem_cons_self

/-- With milliseconds behind it the text tells the same, and the milliseconds. -/
theorem scan_millis (hDigits : IsMillis digits) (hScan : Item.scan format.items text = .ok components) :
    Item.scan format.withMillis.items (text ++ '.' :: digits) =
      .ok (components.put .nano (digitsValue digits)) := by
  obtain ⟨hNano, -⟩ := h.told_of_scan hScan
  have hBefore := (Item.takeAll_before h.isOfPattern (Item.takeAll_of_scan hScan)).2 digits
  have hStore : Numeric.nano.store (digitsValue digits) components =
      .ok (components.put .nano (digitsValue digits)) := by
    have hBound := hDigits.bound
    refine Components.set_of_unknown .nano ?_ hNano
    simp only [Part.range]
    omega
  have hMillis : Item.takeAll [.literal '.', .number .nano] ⟨components, '.' :: digits⟩ =
      .ok ⟨components.put .nano (digitsValue digits), []⟩ := by
    rw [Item.takeAll_literal, Item.takeAll_number hDigits.take hStore]
    rfl
  have hAll : Item.takeAll format.withMillis.items ⟨.unknown, text ++ '.' :: digits⟩ =
      .ok ⟨components.put .nano (digitsValue digits), []⟩ := by
    unfold Item.takeAll withMillis at *
    rw [List.foldlM_append]
    exact bind_eq_ok_iff.mpr ⟨_, hBefore, hMillis⟩
  rw [Item.scan, hAll]
  rfl

/-- Where a point and milliseconds have been read, a digit stands before the point. -/
theorem isDigit_of_scan_millis (hDigits : IsMillis digits)
    (hScan : Item.scan format.withMillis.items (text ++ '.' :: digits) = .ok components) :
    ∃ c, text.getLast? = some c ∧ c.isDigit = true := by
  obtain ⟨front, hItems, hFront⟩ := h.items
  have hSplit : format.withMillis.items = front ++ [.number .second, .literal '.', .number .nano] := by
    rw [withMillis, hItems, List.append_assoc]
    rfl
  have hAll := Item.takeAll_of_scan hScan
  rw [hSplit, Item.takeAll, List.foldlM_append] at hAll
  obtain ⟨⟨known, rest⟩, hBefore, hAll⟩ := bind_eq_ok hAll
  obtain ⟨before, hText⟩ := (Item.takeAll_before (fun item hItem => (hFront item hItem).1) hBefore).1
  obtain ⟨seconds, value, behind, next, rfl, hSeconds, -, hAll⟩ := Item.exists_written_of_takeAll hAll
  obtain ⟨millis, hMillis⟩ := Item.exists_writes_of_takeAll hAll
  rw [← List.append_assoc] at hText
  obtain ⟨rfl, -⟩ := eq_of_append_point hText hMillis.point_not_mem hDigits.point_not_mem
  obtain ⟨c, hLast, hDigit⟩ := hSeconds.exists_getLast?
  exact ⟨c, by rw [List.getLast?_append, hLast, Option.some_or], hDigit⟩

/-- A text that ends in a Z is not read with milliseconds behind it. -/
theorem read?_millis_of_zone (hText : Text.trim text = text) (hDigits : IsMillis digits)
    (hZone : text.getLast? = some 'Z') : format.withMillis.read? (text ++ '.' :: digits) = none := by
  refine Option.eq_none_iff_forall_ne_some.mpr fun later hRead => ?_
  obtain ⟨components, hScan, -⟩ := read?_eq_some_iff.mp hRead
  rw [normalize_millis hText hDigits] at hScan
  obtain ⟨c, hLast, hDigit⟩ := h.isDigit_of_scan_millis hDigits hScan
  rw [hZone] at hLast
  obtain rfl := Option.some.inj hLast
  cases hDigit

/-- Milliseconds behind a text are added to the time that it shows, which is the start of a second. -/
theorem read?_millis_eq_some_iff (hText : Text.trim text = text) (hDigits : IsMillis digits)
    (hNormal : normalize format.supply text = text) (hRead : format.read? text = some instant) :
    ∃ shown offset, format.shown? text = some shown ∧ shown.IsShownAt offset instant ∧
      shown.clock.StartsSecond ∧ ∀ later, format.withMillis.read? (text ++ '.' :: digits) = some later ↔
        ((shown.addMillis? (digitsValue digits)).bind fun moved => moved.atOffset? offset) = some later := by
  obtain ⟨components, hScan, hResolve⟩ := read?_eq_some_iff.mp hRead
  obtain ⟨known, shown, offset, hKnown, hShown, hOffset, hAt⟩ := (resolve_eq_ok_iff h.stamp).mp hResolve
  refine ⟨shown, offset, shown?_eq_some_iff.mpr ⟨components, known, hScan, hKnown, hShown⟩,
    DateTime.isShownAt_of_atOffset? hAt, ?_⟩
  rw [hNormal] at hScan
  obtain ⟨hNano, second, hSecond⟩ := h.told_of_scan hScan
  -- What is filled in has nothing to do with the milliseconds.
  have hFrames := Components.Frames.complete format.supply
  obtain ⟨parts, hLearns, hParts⟩ := hFrames.learns hKnown
  have hMillisKnown : complete format.withMillis.supply (components.put .nano (digitsValue digits)) =
      .ok (known.put .nano (digitsValue digits)) := hFrames.put hKnown _
  rw [h.millis] at hShown
  obtain ⟨hStarts, hMillisShown⟩ := Components.shownTime_put_nano
    ((hLearns.get_of_not_mem hParts).trans hNano) ⟨second, hLearns.get_of_known hSecond⟩ hDigits.bound hShown
  have hMillisOffset : format.withMillis.offsetFor (known.put .nano (digitsValue digits)) = .ok offset := by
    rw [offsetFor, Components.toOffset_put_nano]
    exact hOffset
  refine ⟨hStarts, fun later => ?_⟩
  have hMillisStamp : format.withMillis.supply.stamp = false := h.stamp
  rw [read?_eq_some_iff, normalize_millis hText hDigits, h.scan_millis hDigits hScan]
  simp only [Except.ok.injEq, exists_eq_left', resolve_eq_ok_iff hMillisStamp, hMillisKnown,
    Option.bind_eq_some_iff]
  constructor
  · rintro ⟨_, moved, other, rfl, hMoved, hOther, hLater⟩
    obtain rfl := Except.ok.inj (hMillisOffset.symm.trans hOther)
    exact ⟨moved, (hMillisShown moved).mp hMoved, hLater⟩
  · rintro ⟨moved, hMoved, hLater⟩
    exact ⟨_, moved, offset, rfl, (hMillisShown moved).mpr hMoved, hMillisOffset, hLater⟩

/-- A text with milliseconds leads to the instant so much later where they count from the start of a second. -/
theorem read?_millis (hText : Text.trim text = text) (hRead : format.read? text = some instant)
    (hDigits : IsMillis digits) (hLater : instant.IsLater (digitsValue digits) later) :
    ∃ shown, format.shown? text = some shown ∧
      (format.withMillis.read? (text ++ '.' :: digits) = some later ↔
        (instant.clock.isLeap = true → 1000 ≤ digitsValue digits) ∧
          InCalendar (shown.seconds + (digitsValue digits / 1000 : Nat)) ∧
          ¬(format.supply.zone = true ∧ text.getLast? = some 'Z')) := by
  by_cases hZone : format.supply.zone = true ∧ text.getLast? = some 'Z'
  · obtain ⟨components, hScan, hResolve⟩ := read?_eq_some_iff.mp hRead
    obtain ⟨known, shown, -, hKnown, hShown, -⟩ := (resolve_eq_ok_iff h.stamp).mp hResolve
    refine ⟨shown, shown?_eq_some_iff.mpr ⟨components, known, hScan, hKnown, hShown⟩, ?_⟩
    rw [h.read?_millis_of_zone hText hDigits hZone.2]
    exact ⟨nofun, fun hNot => absurd hZone hNot.2.2⟩
  · have hNormal : normalize format.supply text = text := by
      unfold normalize
      simp only [hText, Bool.and_eq_true, beq_iff_eq, hZone, if_false]
    obtain ⟨shown, offset, hShown, hAt, hStarts, hMillis⟩ :=
      h.read?_millis_eq_some_iff hText hDigits hNormal hRead
    have hInstantStarts : instant.clock.StartsSecond := by rwa [Clock.StartsSecond, hAt.nano]
    refine ⟨shown, hShown, ?_⟩
    rw [hMillis, DateTime.addMillis?_atOffset?_eq_some_iff hAt hInstantStarts hLater]
    simp only [hZone, not_false_eq_true, and_true]

end ReadsSecondLast

/-- A pattern that ends in the second reads a text as the start of a second. With milliseconds behind both, what
is read is the instant so much later, as long as clocks can show it; but where the second is a leap second it
has to be over by then, for milliseconds are added to the second before it. Nor is a Z at the end of the text
any longer the name of a zone. -/
theorem read_millis {pattern text digits : String} {zone? : Option String}
    (hEnds : Layout.EndsInSecond pattern.toList) (hFormat : ofPattern pattern zone? = .ok format)
    (hText : trimmed text = text) (hRead : format.read text = .ok instant) (hDigits : IsMillis digits.toList)
    (hLater : instant.IsLater (digitsValue digits.toList) later) : ∃ fine shown,
      ofPattern (pattern ++ ".SSS") zone? = .ok fine ∧ format.shown? text.toList = some shown ∧
      (fine.read (text ++ "." ++ digits) = .ok later ↔
        (instant.clock.isLeap = true → 1000 ≤ digitsValue digits.toList) ∧
          InCalendar (shown.seconds + (digitsValue digits.toList / 1000 : Nat)) ∧
          ¬(format.supply.zone = true ∧ text.toList.getLast? = some 'Z')) := by
  obtain ⟨hSecond, hFine⟩ := ofPattern_millis hEnds hFormat
  have hTrim : Text.trim text.toList = text.toList := by
    rw [← String.toList_ofList (l := Text.trim text.toList)]
    exact congrArg String.toList hText
  rw [read_eq_ok_iff] at hRead
  obtain ⟨shown, hShown, hMillis⟩ := hSecond.read?_millis hTrim hRead hDigits hLater
  have hAll : (text ++ "." ++ digits).toList = text.toList ++ '.' :: digits.toList := by
    rw [String.toList_append, String.toList_append, List.append_assoc]
    rfl
  refine ⟨format.withMillis, shown, hFine, hShown, ?_⟩
  rw [read_eq_ok_iff, hAll]
  exact hMillis

/-- The format of seconds. -/
def secondFormat (zone : Offset) : DateFormat where
  pattern := "yyyy-MM-dd HH:mm:ss"
  items := Item.isoDate ++ .space :: Item.time
  supply := .ofLayout "%Y-%m-%d %H:%M:%S".toList
  millis := false
  zone

/-- A common layout that ends in the second. -/
theorem endsInSecond_secondFormat : Layout.EndsInSecond "yyyy-MM-dd HH:mm:ss".toList where
  letters := by decide
  second := by decide
  nothingFiner := by decide

/-- Half a second after a leap day. -/
def marchStart : DateTime where
  date := (Date.of? 2024 3 1).get (by decide)
  clock := (Clock.of? 0 0 0 500000000).get (by decide)

/-- Two and a half seconds lead from a leap day to the month after it, in a zone where that has come already. -/
theorem read_millis_leapDay : Layout.EndsInSecond "yyyy-MM-dd HH:mm:ss".toList ∧ ∃ format fine,
    ofPattern "yyyy-MM-dd HH:mm:ss" (some "GMT+1") = .ok format ∧
      trimmed "2024-03-01 00:59:58" = "2024-03-01 00:59:58" ∧
      format.read "2024-03-01 00:59:58" = .ok leapDayEnd ∧ IsMillis "2500".toList ∧
      leapDayEnd.IsLater (digitsValue "2500".toList) marchStart ∧
      ofPattern ("yyyy-MM-dd HH:mm:ss" ++ ".SSS") (some "GMT+1") = .ok fine ∧
      fine.read ("2024-03-01 00:59:58" ++ "." ++ "2500") = .ok marchStart := by
  have hFormat : ofPattern "yyyy-MM-dd HH:mm:ss" (some "GMT+1") = .ok (secondFormat ⟨60, by decide⟩) := rfl
  have hText : trimmed "2024-03-01 00:59:58" = "2024-03-01 00:59:58" := by decide +kernel
  have hRead : (secondFormat ⟨60, by decide⟩).read "2024-03-01 00:59:58" = .ok leapDayEnd :=
    read_eq_ok_iff.mpr (by decide +kernel)
  have hDigits : IsMillis "2500".toList := ⟨List.all_eq_true.mp (by decide), by decide, by decide⟩
  have hLater : leapDayEnd.IsLater (digitsValue "2500".toList) marchStart :=
    .ordinary (by decide +kernel) (by decide +kernel) (by decide +kernel)
  obtain ⟨fine, shown, hFine, hShown, hMillis⟩ :=
    read_millis endsInSecond_secondFormat hFormat hText hRead hDigits hLater
  have hShownSeconds : ((secondFormat ⟨60, by decide⟩).shown? "2024-03-01 00:59:58".toList).map
      DateTime.seconds = some 1709254798 := by
    decide +kernel
  rw [hShown, Option.map_some, Option.some.injEq] at hShownSeconds
  refine ⟨endsInSecond_secondFormat, _, fine, hFormat, hText, hRead, hDigits, hLater, hFine, hMillis.mpr ?_⟩
  rw [hShownSeconds]
  exact ⟨nofun, by decide +kernel, by decide +kernel⟩

/-- With milliseconds behind a pattern that ends in the second, and behind the texts that it reads, all the
instants so much later are read. -/
def AddsMillis (pattern : String) (zone? : Option String) : Prop :=
  ∀ format text digits instant later, Layout.EndsInSecond pattern.toList →
    ofPattern pattern zone? = .ok format → trimmed text = text → format.read text = .ok instant →
    IsMillis digits.toList → instant.IsLater (digitsValue digits.toList) later →
    ∃ fine, ofPattern (pattern ++ ".SSS") zone? = .ok fine ∧ fine.read (text ++ "." ++ digits) = .ok later

/-- The leap second at the end of the year 2016, from its start on. -/
def leapSecond (nano : Nat) (h : (Clock.of? 23 59 60 nano).isSome = true) : DateTime where
  date := (Date.of? 2016 12 31).get (by decide)
  clock := (Clock.of? 23 59 60 nano).get h

/-- A quarter of a second after the start of a leap second, a quarter of the second before it is read. -/
theorem not_addsMillis_leapSecond : ¬AddsMillis "yyyy-MM-dd HH:mm:ss" none := by
  intro h
  have hFormat : ofPattern "yyyy-MM-dd HH:mm:ss" none = .ok (secondFormat .zero) := rfl
  have hText : trimmed "2016-12-31 23:59:60" = "2016-12-31 23:59:60" := by decide +kernel
  have hRead : (secondFormat .zero).read "2016-12-31 23:59:60" = .ok (leapSecond 0 (by decide)) :=
    read_eq_ok_iff.mpr (by decide +kernel)
  have hDigits : IsMillis "250".toList := ⟨List.all_eq_true.mp (by decide), by decide, by decide⟩
  have hLater : (leapSecond 0 (by decide)).IsLater (digitsValue "250".toList)
      (leapSecond 250000000 (by decide)) :=
    .withinLeap (by decide +kernel) (by decide +kernel) rfl (by decide +kernel)
  obtain ⟨fine, hFine, hMillis⟩ := h _ _ _ _ _ endsInSecond_secondFormat hFormat hText hRead hDigits hLater
  obtain rfl : (secondFormat .zero).withMillis = fine := Except.ok.inj hFine
  have hBefore : ((secondFormat .zero).withMillis.read?
      ("2016-12-31 23:59:60" ++ "." ++ "250").toList).map DateTime.millisText =
        some "2016-12-31T23:59:59.250Z" := by
    decide +kernel
  rw [read_eq_ok_iff.mp hMillis] at hBefore
  revert hBefore
  decide +kernel

end LogIngest.DateFormat
