import LogIngest.Proofs.Calendar.Determination
import LogIngest.Proofs.Calendar.Zones

/-!
Components that are filled in. Main statement: where a text tells a date and a time of day by itself, it is
read as just these if they agree with what is filled in for the components that the format does not count as
supplied, and is refused otherwise; no other time is read of it.
-/

namespace LogIngest

open Calendar

namespace DateFormat

variable {supply : Supply} {components known : Components} {part other : Part} {value : Int} {date : Date}
  {clock : Clock}

/-! ### Filling in -/

/-- Components with a value for one of them, unless it is supplied. -/
def fillWith (components : Components) (supplied : Bool) (part : Part) (value : Int) : Components :=
  if supplied then components else components.put part value

/-- A part is filled in unless it is supplied. -/
theorem get_fillWith_self (supplied : Bool) : (fillWith components supplied part value).get part =
    if supplied then components.get part else some value := by
  cases supplied
  · exact Components.get_put_self
  · rfl

/-- Filling in one part leaves the others alone. -/
theorem get_fillWith_of_ne (supplied : Bool) (h : other ≠ part) :
    (fillWith components supplied part value).get other = components.get other := by
  cases supplied
  · exact Components.get_put_of_ne h
  · rfl

/-- Components do not speak against a value for one of them that is not supplied. -/
def Admits (components : Components) (supplied : Bool) (part : Part) (value : Int) : Prop :=
  supplied = false → components.get part = none ∨ components.get part = some value

/-- A part can be filled in exactly if what is there admits it. -/
theorem fill_eq_ok_iff {supplied : Bool} (hRange : part.range.1 ≤ value ∧ value ≤ part.range.2) :
    fill components supplied part value = .ok known ↔
      Admits components supplied part value ∧ known = fillWith components supplied part value := by
  unfold fill Admits fillWith
  cases supplied with
  | true => simp [eq_comm]
  | false =>
      simp only [Bool.false_eq_true, if_false, forall_const, Components.set_eq_ok_iff, hRange, true_and]
      constructor
      · rintro (⟨hKnown, rfl⟩ | ⟨hUnknown, rfl⟩)
        · exact ⟨.inr hKnown, (Components.put_of_known hKnown).symm⟩
        · exact ⟨.inl hUnknown, rfl⟩
      · rintro ⟨hUnknown | hKnown, rfl⟩
        · exact .inr ⟨hUnknown, rfl⟩
        · exact .inl ⟨hKnown, Components.put_of_known hKnown⟩

/-- Components with all that is filled in for those that are not supplied, where an hour and a minute are. -/
def filled (supply : Supply) (components : Components) : Components :=
  let known := fillWith components supply.year .year 1970
  let known := fillWith known (supply.ordinal || supply.month) .month 1
  let known := fillWith known (supply.ordinal || supply.day) .day 1
  let known := fillWith known (!supply.hourOfHalf || supply.half) .half 0
  fillWith known supply.second .second 0

/-- Components do not speak against anything that is filled in. -/
structure AdmitsAll (supply : Supply) (components : Components) : Prop where
  year : Admits components supply.year .year 1970
  month : Admits components (supply.ordinal || supply.month) .month 1
  day : Admits components (supply.ordinal || supply.day) .day 1
  half : Admits components (!supply.hourOfHalf || supply.half) .half 0
  second : Admits components supply.second .second 0

/-- This is how a step of filling in is taken apart in a longer computation. -/
theorem fill_bind_eq_ok_iff {supplied : Bool} {next : Components → Except Fault Components}
    (hRange : part.range.1 ≤ value ∧ value ≤ part.range.2) :
    (fill components supplied part value >>= next) = .ok known ↔
      Admits components supplied part value ∧
        next (fillWith components supplied part value) = .ok known := by
  constructor
  · intro h
    obtain ⟨between, hFill, h⟩ := bind_eq_ok h
    obtain ⟨hAdmits, rfl⟩ := (fill_eq_ok_iff hRange).mp hFill
    exact ⟨hAdmits, h⟩
  · rintro ⟨hAdmits, h⟩
    rw [(fill_eq_ok_iff hRange).mpr ⟨hAdmits, rfl⟩]
    exact h

/-- Whether a part admits its value does not depend on other parts that were filled in. -/
theorem admits_fillWith_iff {supplied given : Bool} {fixed : Int} (h : part ≠ other) :
    Admits (fillWith components given other fixed) supplied part value ↔
      Admits components supplied part value := by
  unfold Admits
  rw [get_fillWith_of_ne given h]

/-- Filling in succeeds exactly if all parts admit their values, and its result is then fixed. -/
theorem complete_eq_ok_iff (hHour : supply.hour = true ∨ supply.hourOfHalf = true)
    (hMinute : supply.minute = true) : complete supply components = .ok known ↔
      AdmitsAll supply components ∧ known = filled supply components := by
  have hHours : (supply.hour || supply.hourOfHalf) = true := Bool.or_eq_true_iff.mpr hHour
  have hOk {x : Components} {next : Components → Except Fault Components} : (.ok x >>= next) = next x := rfl
  have hMinutes (known : Components) : fill known true .minute 0 = .ok known := rfl
  unfold complete
  rw [hHours, hMinute]
  simp only [if_true, pure_bind, hMinutes]
  rw [fill_bind_eq_ok_iff (by decide), fill_bind_eq_ok_iff (by decide), fill_bind_eq_ok_iff (by decide),
    fill_bind_eq_ok_iff (by decide), hOk, fill_eq_ok_iff (by decide)]
  -- What is filled in for one component has no bearing on the others.
  simp (disch := decide) only [admits_fillWith_iff]
  constructor
  · rintro ⟨hYear, hMonth, hDay, hHalf, hSecond, hKnown⟩
    exact ⟨⟨hYear, hMonth, hDay, hHalf, hSecond⟩, hKnown⟩
  · rintro ⟨h, hKnown⟩
    exact ⟨h.year, h.month, h.day, h.half, h.second, hKnown⟩

/-- What is known stays known. -/
theorem get_fillWith_of_known {supplied : Bool} {told : Int} (hAdmits : Admits components supplied part value)
    (h : components.get other = some told) :
    (fillWith components supplied part value).get other = some told := by
  by_cases hSame : other = part
  · subst hSame
    rw [get_fillWith_self]
    split
    · exact h
    · next hNot =>
        rcases hAdmits (Bool.eq_false_iff.mpr hNot) with hUnknown | hKnown
        · rw [hUnknown] at h
          cases h
        · rw [← h, hKnown]
  · rw [get_fillWith_of_ne supplied hSame, h]

/-- What is known stays known, as it is. -/
theorem AdmitsAll.get_filled {told : Int} (hAdmits : AdmitsAll supply components)
    (h : components.get part = some told) : (filled supply components).get part = some told := by
  unfold filled
  dsimp only
  apply get_fillWith_of_known
  · simp (disch := decide) only [admits_fillWith_iff]
    exact hAdmits.second
  apply get_fillWith_of_known
  · simp (disch := decide) only [admits_fillWith_iff]
    exact hAdmits.half
  apply get_fillWith_of_known
  · simp (disch := decide) only [admits_fillWith_iff]
    exact hAdmits.day
  apply get_fillWith_of_known
  · simp (disch := decide) only [admits_fillWith_iff]
    exact hAdmits.month
  · exact get_fillWith_of_known hAdmits.year h

/-- The year is filled in with that of the epoch. -/
theorem get_filled_year : (filled supply components).get .year =
    if supply.year then components.get .year else some 1970 := by
  simp (disch := decide) only [filled, get_fillWith_of_ne, get_fillWith_self]

/-- The month is filled in with the first one, unless the day of the year is supplied. -/
theorem get_filled_month : (filled supply components).get .month =
    if supply.ordinal || supply.month then components.get .month else some 1 := by
  simp (disch := decide) only [filled, get_fillWith_of_ne, get_fillWith_self]

/-- The day is filled in with the first one, unless the day of the year is supplied. -/
theorem get_filled_day : (filled supply components).get .day =
    if supply.ordinal || supply.day then components.get .day else some 1 := by
  simp (disch := decide) only [filled, get_fillWith_of_ne, get_fillWith_self]

/-- The second is filled in with zero. -/
theorem get_filled_second : (filled supply components).get .second =
    if supply.second then components.get .second else some 0 := by
  simp (disch := decide) only [filled, get_fillWith_of_ne, get_fillWith_self]

/-- No other part is filled in. -/
theorem get_filled_of_ne (h : part ∉ [Part.year, .month, .day, .half, .second]) :
    (filled supply components).get part = components.get part := by
  simp only [List.mem_cons, List.not_mem_nil, or_false, not_or] at h
  obtain ⟨hYear, hMonth, hDay, hHalf, hSecond⟩ := h
  simp only [filled, get_fillWith_of_ne _ hYear, get_fillWith_of_ne _ hMonth, get_fillWith_of_ne _ hDay,
    get_fillWith_of_ne _ hHalf, get_fillWith_of_ne _ hSecond]

/-- A value in the range of its part keeps everything in range. -/
theorem inRange_fillWith {supplied : Bool} (hRange : part.range.1 ≤ value ∧ value ≤ part.range.2)
    (h : components.InRange) : (fillWith components supplied part value).InRange := by
  intro other told hTold
  by_cases hSame : other = part
  · subst hSame
    rw [get_fillWith_self] at hTold
    split at hTold
    · exact h _ _ hTold
    · cases hTold
      exact hRange
  · rw [get_fillWith_of_ne supplied hSame] at hTold
    exact h _ _ hTold

theorem inRange_filled (h : components.InRange) : (filled supply components).InRange :=
  inRange_fillWith (by decide) (inRange_fillWith (by decide) (inRange_fillWith (by decide)
    (inRange_fillWith (by decide) (inRange_fillWith (by decide) h))))

/-! ### What a format supplies of what it reads -/

/-- How the components that a text gives are counted as supplied by the format. -/
structure Supplies (supply : Supply) (components : Components) : Prop where
  inRange : components.InRange
  year : ∀ part ∈ Supply.yearParts, components.Knows part → supply.year = true
  month : supply.month = true → components.Knows .month
  day : supply.day = true → components.Knows .day
  ordinal : supply.ordinal = true → components.Knows .ordinal
  hour : components.Knows .hourOfHalf → supply.hour = true ∨ supply.hourOfHalf = true
  minute : components.Knows .minute → supply.minute = true
  second : components.Knows .second → supply.second = true

/-- A format supplies the parts that it reads, whatever text it reads. -/
theorem supplies_of_scan {layout text : List Char} {items : List Item}
    (hItems : Item.ofLayout? layout = some items) (h : Item.scan items text = .ok components) :
    Supplies (.ofLayout layout) components := by
  have hTold {part : Part} (hKnown : components.Knows part) : ∃ item ∈ items, part ∈ item.parts := by
    obtain ⟨value, hValue⟩ := hKnown
    exact Item.exists_item_of_scan h hValue
  have hKnows {part : Part} (hNano : part ≠ .nano) (hItem : ∃ item ∈ items, part ∈ item.parts) :
      components.Knows part := by
    obtain ⟨item, hItem, hPart⟩ := hItem
    refine Item.known_of_scan h hItem ?_ hPart
    rintro rfl
    exact hNano (List.mem_singleton.mp hPart)
  exact {
    inRange := Item.inRange_of_scan h
    year := fun part hYear hKnown => by
      obtain ⟨item, hItem, hPart⟩ := hTold hKnown
      exact Supply.year_of_mem_parts hItems hItem hYear hPart
    month := fun hMonth => hKnows (by decide) (Supply.month_mem_parts hItems hMonth)
    day := fun hDay => hKnows (by decide) (Supply.day_mem_parts hItems hDay)
    ordinal := fun hOrdinal => hKnows (by decide) (Supply.ordinal_mem_parts hItems hOrdinal)
    hour := fun hKnown => by
      obtain ⟨item, hItem, hPart⟩ := hTold hKnown
      exact Supply.hour_of_mem_parts hItems hItem hPart
    minute := fun hKnown => by
      obtain ⟨item, hItem, hPart⟩ := hTold hKnown
      exact Supply.minute_of_mem_parts hItems hItem hPart
    second := fun hKnown => by
      obtain ⟨item, hItem, hPart⟩ := hTold hKnown
      exact Supply.second_of_mem_parts hItems hItem hPart }

/-! ### Dates -/

/-- What a text shows agrees with what is filled in. The first day of a month, or a first month, goes with the
year that the text gives for days, where it gives one; that may be another year than that of the date, if the
text tells it by a week. -/
structure Agrees (supply : Supply) (components : Components) (shown : DateTime) : Prop where
  year : supply.year = false → shown.date.year = 1970
  month : supply.ordinal = false → supply.month = false → shown.date.month = 1
  day : supply.ordinal = false → supply.day = false → shown.date.day = 1
  yearOfDays : supply.ordinal = false → supply.month = false ∨ supply.day = false → ∀ year,
    resolveYear (components.get .year) (components.get .century) (components.get .yearOfCentury) =
      .ok (some year) → year = shown.date.year
  half : supply.hourOfHalf = true → supply.half = false → shown.clock.hour < 12

/-- Everything agrees with what is filled in if nothing is filled in that a date or the hour depends on. -/
theorem Agrees.of_supplied {shown : DateTime} (hYear : supply.year = true)
    (hDay : supply.ordinal = true ∨ supply.month = true ∧ supply.day = true)
    (hHalf : supply.hourOfHalf = true → supply.half = true) : Agrees supply components shown := by
  constructor
  case year => simp [hYear]
  case month =>
    intro hOrdinal hMonth
    simp [hOrdinal, hMonth] at hDay
  case day =>
    intro hOrdinal hNoDay
    simp [hOrdinal, hNoDay] at hDay
  case yearOfDays =>
    intro hOrdinal hEither
    rcases hEither with hNot | hNot <;> simp [hOrdinal, hNot] at hDay
  case half =>
    intro hHour hNoHalf
    rw [hHalf hHour] at hNoHalf
    cases hNoHalf

/-- A year that is not supplied is told by no part. -/
theorem Supplies.get_of_not {part : Part} (hSupplies : Supplies supply components)
    (hPart : part ∈ Supply.yearParts) (hYear : supply.year = false) : components.get part = none := by
  rw [Option.eq_none_iff_forall_ne_some]
  intro value hValue
  have hSupplied := hSupplies.year part hPart ⟨value, hValue⟩
  rw [hYear] at hSupplied
  cases hSupplied

/-- A date whose year is not counted as supplied is told with a whole year all the same. -/
theorem Supplies.get_year (hSupplies : Supplies supply components) (hDate : components.toDate = .ok date)
    (hYear : supply.year = false) : components.get .year = some date.year := by
  obtain ⟨-, year, isoYear, hResolved, hIsoResolved, hLeads⟩ :=
    (Components.toDate_eq_ok_iff hSupplies.inRange).mp hDate
  have hCentury : components.get .century = none := hSupplies.get_of_not (by decide) hYear
  have hLow : components.get .yearOfCentury = none := hSupplies.get_of_not (by decide) hYear
  have hIsoYear : components.get .isoYear = none := hSupplies.get_of_not (by decide) hYear
  have hIsoLow : components.get .isoYearOfCentury = none := hSupplies.get_of_not (by decide) hYear
  rw [hCentury, hLow] at hResolved
  rw [hIsoYear, hIsoLow] at hIsoResolved
  cases hIsoResolved
  have hKnown : components.get .year = year := by
    cases hGet : components.get .year <;> simpa [hGet, resolveYear] using hResolved
  rcases hLeads with ⟨hSame, -⟩ | ⟨-, hNone, -⟩
  · rw [hKnown, hSame]
  · cases hNone

/-- Whichever year is filled in, the text is not read in another one. -/
theorem Supplies.get_filled_year (hSupplies : Supplies supply components)
    (hAdmits : AdmitsAll supply components) (hDate : components.toDate = .ok date) :
    (filled supply components).get .year = components.get .year := by
  cases hYear : supply.year with
  | true =>
      rw [DateFormat.get_filled_year, hYear]
      rfl
  | false =>
      have hKnown := hSupplies.get_year hDate hYear
      rw [hKnown, hAdmits.get_filled hKnown]

/-- Filling in only adds parts; it changes none that is known. -/
theorem AdmitsAll.tellsNoMore (hAdmits : AdmitsAll supply components) :
    components.TellsNoMore (filled supply components) :=
  fun _ _ _ hValue => hAdmits.get_filled hValue

/-- If filling in leads to a day of the year, there is either a month or a day filled in. -/
theorem Supplies.not_supplied (hSupplies : Supplies supply components) (hDay : ¬components.TellsDay) :
    supply.ordinal = false ∧ (supply.month = false ∨ supply.day = false) := by
  constructor
  · rw [Bool.eq_false_iff]
    exact fun hOrdinal => hDay (.inr (.inl (hSupplies.ordinal hOrdinal)))
  · rw [Bool.eq_false_iff, Bool.eq_false_iff, ← not_and_or]
    exact fun hBoth => hDay (.inl ⟨hSupplies.month hBoth.1, hSupplies.day hBoth.2⟩)

/-- After filling in, a month and a day are known unless the day of the year is supplied. -/
theorem Supplies.tellsDay_filled (hSupplies : Supplies supply components)
    (hAdmits : AdmitsAll supply components) (hDay : supply.ordinal = false) :
    (filled supply components).TellsDay := by
  refine .inl ⟨?_, ?_⟩
  · cases hMonth : supply.month with
    | true => exact hAdmits.tellsNoMore.knows (by decide) (hSupplies.month hMonth)
    | false => exact ⟨1, by rw [get_filled_month, hDay, hMonth]; rfl⟩
  · cases hDay : supply.day with
    | true => exact hAdmits.tellsNoMore.knows (by decide) (hSupplies.day hDay)
    | false => exact ⟨1, by rw [get_filled_day, hDay, ‹supply.ordinal = false›]; rfl⟩

/-- What a date tells of a part is one where the part is filled in. -/
theorem eq_one_of_supplied {supplied : Bool} {told : Option Int} {n : Nat} (hOrdinal : supply.ordinal = false)
    (hSupplied : supplied = false)
    (hTells : ∀ value, (if supply.ordinal || supplied then told else some 1) = some value → value = n) :
    n = 1 := by
  rw [hOrdinal, hSupplied] at hTells
  exact (Int.ofNat_inj.mp (hTells 1 rfl)).symm

/-- A month or a day that is filled in is the first one. -/
theorem month_of_describes (hFilled : (filled supply components).Describes date)
    (hOrdinal : supply.ordinal = false) (hMonth : supply.month = false) : date.month = 1 :=
  eq_one_of_supplied hOrdinal hMonth (get_filled_month ▸ hFilled.month)

theorem day_of_describes (hFilled : (filled supply components).Describes date)
    (hOrdinal : supply.ordinal = false) (hDay : supply.day = false) : date.day = 1 :=
  eq_one_of_supplied hOrdinal hDay (get_filled_day ▸ hFilled.day)

/-- A text that agrees with what is filled in is read as the date that it tells. -/
theorem Agrees.toDate_filled (h : Agrees supply components ⟨date, clock⟩)
    (hSupplies : Supplies supply components) (hAdmits : AdmitsAll supply components)
    (hDate : components.toDate = .ok date) : (filled supply components).toDate = .ok date := by
  obtain ⟨hDescribes, year, isoYear, hYear, hIsoYear, hLeads⟩ :=
    (Components.toDate_eq_ok_iff hSupplies.inRange).mp hDate
  have hSame {part : Part} (hPart : part ∉ [Part.year, .month, .day, .half, .second]) :
      (filled supply components).get part = components.get part := get_filled_of_ne hPart
  have hSameYear := hSupplies.get_filled_year hAdmits hDate
  have hTold {part : Part} {value : Int} (hPart : part ∉ [Part.year, .month, .day, .half, .second])
      (hValue : (filled supply components).get part = some value) : components.get part = some value :=
    (hSame hPart).symm.trans hValue
  refine (Components.toDate_eq_ok_iff (inRange_filled hSupplies.inRange)).mpr ⟨?_, year, isoYear, ?_, ?_, ?_⟩
  · exact {
      year := ⟨fun _ hValue => hDescribes.year.1 _ (hSameYear.symm.trans hValue),
        fun _ hValue => hDescribes.year.2.1 _ (hTold (by decide) hValue),
        fun _ hValue => hDescribes.year.2.2 _ (hTold (by decide) hValue)⟩
      month := fun value hValue => by
        rw [get_filled_month] at hValue
        split at hValue
        · exact hDescribes.month value hValue
        · next hNot =>
            rw [Bool.not_eq_true, Bool.or_eq_false_iff] at hNot
            cases hValue
            exact congrArg Int.ofNat (h.month hNot.1 hNot.2).symm
      day := fun value hValue => by
        rw [get_filled_day] at hValue
        split at hValue
        · exact hDescribes.day value hValue
        · next hNot =>
            rw [Bool.not_eq_true, Bool.or_eq_false_iff] at hNot
            cases hValue
            exact congrArg Int.ofNat (h.day hNot.1 hNot.2).symm
      ordinal := fun _ hValue => hDescribes.ordinal _ (hTold (by decide) hValue)
      weekFromSunday := fun _ hValue => hDescribes.weekFromSunday _ (hTold (by decide) hValue)
      weekFromMonday := fun _ hValue => hDescribes.weekFromMonday _ (hTold (by decide) hValue)
      isoYear := ⟨fun _ hValue => hDescribes.isoYear.1 _ (hTold (by decide) hValue),
        fun _ hValue => hDescribes.isoYear.2 _ (hTold (by decide) hValue)⟩
      isoWeek := fun _ hValue => hDescribes.isoWeek _ (hTold (by decide) hValue)
      weekday := fun _ hValue => hDescribes.weekday _ (hTold (by decide) hValue)
      quarter := fun _ hValue => hDescribes.quarter _ (hTold (by decide) hValue) }
  · rw [hSameYear, hSame (by decide), hSame (by decide), hYear]
  · rw [hSame (by decide), hSame (by decide), hIsoYear]
  · rcases hLeads with ⟨rfl, hDay⟩ | ⟨hNoDay, hIsoYear, hWeek, hWeekday⟩
    · exact .inl ⟨rfl, hAdmits.tellsNoMore.tellsDay hDay⟩
    · by_cases hFilled : year.isSome ∧ (filled supply components).TellsDay
      · obtain ⟨known, rfl⟩ := Option.isSome_iff_exists.mp hFilled.1
        obtain ⟨hOrdinal, hEither⟩ := hSupplies.not_supplied fun hDay => hNoDay ⟨rfl, hDay⟩
        exact .inl ⟨congrArg some (h.yearOfDays hOrdinal hEither known hYear), hFilled.2⟩
      · exact .inr ⟨hFilled, hIsoYear, hAdmits.tellsNoMore.knows (by decide) hWeek,
          hAdmits.tellsNoMore.knows (by decide) hWeekday⟩

/-- No other date is read of a text, and one that is read agrees with what is filled in. -/
theorem AdmitsAll.eq_of_toDate_filled {other : Date} (hAdmits : AdmitsAll supply components)
    (hSupplies : Supplies supply components) (hDate : components.toDate = .ok date)
    (hOther : (filled supply components).toDate = .ok other) : other = date := by
  obtain ⟨hDescribes, year, isoYear, hYear, hIsoYear, hLeads⟩ :=
    (Components.toDate_eq_ok_iff hSupplies.inRange).mp hDate
  obtain ⟨hFilled, otherYear, otherIsoYear, hOtherYear, hOtherIsoYear, hOtherLeads⟩ :=
    (Components.toDate_eq_ok_iff (inRange_filled hSupplies.inRange)).mp hOther
  rw [hSupplies.get_filled_year hAdmits hDate, get_filled_of_ne (by decide), get_filled_of_ne (by decide),
    hYear] at hOtherYear
  rw [get_filled_of_ne (by decide), get_filled_of_ne (by decide), hIsoYear] at hOtherIsoYear
  obtain rfl := Except.ok.inj hOtherYear
  obtain rfl := Except.ok.inj hOtherIsoYear
  have hOtherDescribes := hAdmits.tellsNoMore.describes hFilled
  -- The text tells no two dates, so that it is enough for it to tell the other one.
  have hRead : components.toDate = .ok other := by
    refine (Components.toDate_eq_ok_iff hSupplies.inRange).mpr
      ⟨hOtherDescribes, year, isoYear, hYear, hIsoYear, ?_⟩
    rcases hLeads with ⟨rfl, hDay⟩ | ⟨hNoDay, hIso, hWeek, hWeekday⟩
    · rcases hOtherLeads with ⟨hSame, -⟩ | ⟨hNot, -⟩
      · exact .inl ⟨hSame, hDay⟩
      · exact absurd ⟨rfl, hAdmits.tellsNoMore.tellsDay hDay⟩ hNot
    · rcases hOtherLeads with ⟨rfl, hDay⟩ | ⟨-, hSame, -⟩
      · refine .inr ⟨hNoDay, ?_, hWeek, hWeekday⟩
        obtain ⟨hOrdinal, hEither⟩ := hSupplies.not_supplied fun hDay => hNoDay ⟨rfl, hDay⟩
        subst hIso
        rw [Components.isoYear_eq_of_describes hSupplies.inRange hDescribes hOtherDescribes hYear hIsoYear
          (hEither.imp (month_of_describes hFilled hOrdinal) (day_of_describes hFilled hOrdinal))]
      · exact .inr ⟨hNoDay, hSame, hWeek, hWeekday⟩
  rw [hRead] at hDate
  exact Except.ok.inj hDate

/-! ### Times of day -/

/-- The first half of the day is filled in where the format reads none, and suits times before noon. -/
theorem admits_half_iff (hRange : components.InRange) (hClock : components.toClock = .ok clock) :
    Admits components (!supply.hourOfHalf || supply.half) .half 0 ↔
      (supply.hourOfHalf = true → supply.half = false → clock.hour < 12) := by
  obtain ⟨-, half, hour, minute, hHalf, hHour, -, hFound⟩ := Components.toClock_eq_ok_iff.mp hClock
  have hHalfRange := hRange .half half hHalf
  have hHourRange := hRange .hourOfHalf hour hHour
  simp only [Part.range] at hHalfRange hHourRange
  have hMorning : clock.hour < 12 ↔ half = 0 := by
    rw [Clock.hour_of_of? hFound]
    omega
  unfold Admits
  rw [hMorning, hHalf, Bool.or_eq_false_iff, Bool.not_eq_false', and_imp]
  simp

/-- Filling in leaves the time of day as it is. -/
theorem AdmitsAll.toClock_filled (hAdmits : AdmitsAll supply components)
    (hClock : components.toClock = .ok clock) :
    (filled supply components).toClock = .ok clock := by
  obtain ⟨hFiner, half, hour, minute, hHalf, hHour, hMinute, hFound⟩ :=
    Components.toClock_eq_ok_iff.mp hClock
  have hNano : (filled supply components).get .nano = components.get .nano := get_filled_of_ne (by decide)
  cases hSecond : components.get .second with
  | some second =>
      rw [hSecond] at hFound
      refine Components.toClock_eq_ok_iff.mpr ⟨?_, half, hour, minute, hAdmits.get_filled hHalf,
        hAdmits.get_filled hHour, hAdmits.get_filled hMinute, ?_⟩
      · rw [hAdmits.get_filled hSecond]
        nofun
      · rw [hAdmits.get_filled hSecond, hNano, hFound]
  | none =>
      rw [hSecond] at hFound
      have hFilled : ((filled supply components).get .second).getD 0 = 0 := by
        rw [get_filled_second, hSecond]
        split <;> rfl
      refine Components.toClock_eq_ok_iff.mpr ⟨fun _ => hNano.trans (hFiner hSecond), half, hour, minute,
        hAdmits.get_filled hHalf, hAdmits.get_filled hHour, hAdmits.get_filled hMinute, ?_⟩
      rw [hFilled, hNano]
      exact hFound

/-! ### Reading -/

/-- A text that agrees with the fillings admits them. -/
theorem Agrees.admitsAll (h : Agrees supply components ⟨date, clock⟩) (hSupplies : Supplies supply components)
    (hDate : components.toDate = .ok date) (hClock : components.toClock = .ok clock) :
    AdmitsAll supply components := by
  obtain ⟨hDescribes, -⟩ := (Components.toDate_eq_ok_iff hSupplies.inRange).mp hDate
  have hEither {part : Part} {value : Int}
      (hValue : ∀ known, components.get part = some known → known = value) :
      components.get part = none ∨ components.get part = some value := by
    cases hKnown : components.get part with
    | none => exact .inl rfl
    | some known => exact .inr (congrArg some (hValue known hKnown))
  constructor
  case year => exact fun hYear => .inr (by rw [hSupplies.get_year hDate hYear, h.year hYear])
  case month =>
    intro hMonth
    rw [Bool.or_eq_false_iff] at hMonth
    exact hEither fun known hKnown =>
      (hDescribes.month known hKnown).trans (congrArg Int.ofNat (h.month hMonth.1 hMonth.2))
  case day =>
    intro hDay
    rw [Bool.or_eq_false_iff] at hDay
    exact hEither fun known hKnown =>
      (hDescribes.day known hKnown).trans (congrArg Int.ofNat (h.day hDay.1 hDay.2))
  case half => exact (admits_half_iff hSupplies.inRange hClock).mpr h.half
  case second =>
    intro hSecond
    refine hEither fun known hKnown => ?_
    rw [hSupplies.second ⟨known, hKnown⟩] at hSecond
    cases hSecond

/-- What is read with what is filled in agrees with it. -/
theorem AdmitsAll.agrees (hAdmits : AdmitsAll supply components) (hSupplies : Supplies supply components)
    (hDate : components.toDate = .ok date) (hClock : components.toClock = .ok clock)
    (hFilled : (filled supply components).toDate = .ok date) : Agrees supply components ⟨date, clock⟩ := by
  obtain ⟨hDescribes, year, isoYear, hYear, -, hLeads⟩ :=
    (Components.toDate_eq_ok_iff (inRange_filled hSupplies.inRange)).mp hFilled
  rw [hSupplies.get_filled_year hAdmits hDate, get_filled_of_ne (by decide),
    get_filled_of_ne (by decide)] at hYear
  constructor
  case year =>
    intro hNone
    have hValue := hDescribes.year.1 1970 (by rw [get_filled_year, hNone]; rfl)
    exact hValue.symm
  case month => exact month_of_describes hDescribes
  case day => exact day_of_describes hDescribes
  case yearOfDays =>
    intro hOrdinal _ told hTold
    rw [hTold] at hYear
    obtain rfl := Except.ok.inj hYear
    rcases hLeads with ⟨hSame, -⟩ | ⟨hNot, -⟩
    · exact Option.some.inj hSame
    · exact absurd ⟨rfl, hSupplies.tellsDay_filled hAdmits hOrdinal⟩ hNot
  case half => exact (admits_half_iff hSupplies.inRange hClock).mp hAdmits.half

/-- Without a zone of its own, a time is made of its date and its time of day. -/
theorem shownTime_false_eq_ok_iff {shown : DateTime} : shownTime false components = .ok shown ↔
    components.toDate = .ok shown.date ∧ components.toClock = .ok shown.clock := by
  unfold shownTime
  cases components.toDate with
  | error fault => simp [bind, Except.bind]
  | ok date =>
      cases components.toClock with
      | error fault => simp [bind, Except.bind]
      | ok clock =>
          obtain ⟨shownDate, shownClock⟩ := shown
          cases components.get .nano <;> simp [bind, Except.bind, pure, Except.pure]

/-- What is read of components that tell a date and a time of day: just these, and only if they agree with
what is filled in. -/
theorem shown_eq_ok_iff {shown other : DateTime} (hSupplies : Supplies supply components)
    (hDate : components.toDate = .ok shown.date) (hClock : components.toClock = .ok shown.clock) :
    (complete supply components >>= shownTime false) = .ok other ↔
      Agrees supply components shown ∧ other = shown := by
  obtain ⟨-, half, hour, minute, -, hHour, hMinute, -⟩ := Components.toClock_eq_ok_iff.mp hClock
  have hComplete {known : Components} : complete supply components = .ok known ↔
      AdmitsAll supply components ∧ known = filled supply components :=
    complete_eq_ok_iff (hSupplies.hour ⟨hour, hHour⟩) (hSupplies.minute ⟨minute, hMinute⟩)
  constructor
  · intro h
    obtain ⟨known, hKnown, hShown⟩ := bind_eq_ok h
    obtain ⟨hAdmits, rfl⟩ := hComplete.mp hKnown
    obtain ⟨hOtherDate, hOtherClock⟩ := shownTime_false_eq_ok_iff.mp hShown
    have hSameDate := hAdmits.eq_of_toDate_filled hSupplies hDate hOtherDate
    rw [hAdmits.toClock_filled hClock] at hOtherClock
    rw [hSameDate] at hOtherDate
    refine ⟨hAdmits.agrees hSupplies hDate hClock hOtherDate, ?_⟩
    obtain ⟨otherDate, otherClock⟩ := other
    rw [DateTime.mk.injEq]
    exact ⟨hSameDate, (Except.ok.inj hOtherClock).symm⟩
  · rintro ⟨hAgrees, rfl⟩
    have hAdmits := hAgrees.admitsAll hSupplies hDate hClock
    rw [hComplete.mpr ⟨hAdmits, rfl⟩]
    exact shownTime_false_eq_ok_iff.mpr
      ⟨hAgrees.toDate_filled hSupplies hAdmits hDate, hAdmits.toClock_filled hClock⟩

/-- Formats written with percent signs read a text that tells a date and a time of day by itself as just these
if they agree with what is filled in for the components that are not counted as supplied; if they do not, the
text is refused. -/
theorem read_toldTime {pattern text : String} {format : DateFormat} {shown : DateTime}
    (hPercent : '%' ∈ pattern.toList) (hFormat : ofPattern pattern none = .ok format)
    (hZone : format.supply.zone = false) (hStamp : format.supply.stamp = false)
    (hScan : Item.scan format.items (Text.trim text.toList) = .ok components)
    (hDate : components.toDate = .ok shown.date) (hClock : components.toClock = .ok shown.clock) :
    (Agrees format.supply components shown → format.read text = .ok shown) ∧
      (¬Agrees format.supply components shown →
        format.read text = .error (.invalidDate text pattern)) := by
  obtain ⟨⟨layout, hCompiled⟩, -⟩ := ofPattern_none_eq_ok_iff.mp hFormat
  have hSupplies : Supplies format.supply components := by
    rw [hCompiled.supply]
    exact supplies_of_scan hCompiled.items hScan
  have hMillis : format.millis = false := by
    have hTurned := hCompiled.turned
    rw [layoutOf, List.contains_iff_mem.mpr hPercent, if_pos rfl] at hTurned
    exact (congrArg Prod.snd (Except.ok.inj hTurned)).symm
  have hNormal : normalize format.supply text.toList = Text.trim text.toList := by
    simp [normalize, hZone]
  have hRead : format.read? text.toList =
      (complete format.supply components >>= shownTime false).toOption := by
    rw [read?_universal hFormat hZone hStamp, shown?, hNormal, hScan, hMillis]
    rfl
  constructor
  · intro hAgrees
    rw [read_eq_ok_iff, hRead, (shown_eq_ok_iff hSupplies hDate hClock).mpr ⟨hAgrees, rfl⟩]
    rfl
  · intro hNot
    rw [read_eq_error_iff, hRead, hCompiled.source]
    refine ⟨?_, rfl⟩
    cases hOutcome : complete format.supply components >>= shownTime false with
    | error fault => rfl
    | ok other => exact absurd ((shown_eq_ok_iff hSupplies hDate hClock).mp hOutcome).1 hNot

/-- The components of a date and a time of day, in an order in which they may be read. -/
def componentsOf (year month day hour minute second : Nat) : Components :=
  ((((((Components.unknown.put .day day).put .month month).put .year year).put .half
    (hour / 12)).put .hourOfHalf (hour % 12)).put .minute minute).put .second second

/-- The last second but one of a leap day. -/
def leapDayEnd : DateTime :=
  (DateTime.ofSeconds? 1709251198).get (by decide)

/-- Half past ten on a day of January. -/
def januaryMorning : DateTime :=
  (DateTime.ofSeconds? 1705314600).get (by decide)

/-- A date and a time of day for which nothing is filled in are read as they are. -/
theorem read_toldTime_leapDay : ∃ format, '%' ∈ "%d %m %Y %T".toList ∧
    ofPattern "%d %m %Y %T" none = .ok format ∧ leapDayEnd.millisText = "2024-02-29T23:59:58.000Z" ∧
      format.read " 29 2 2024 23:59:58" = .ok leapDayEnd := by
  have hPercent : '%' ∈ "%d %m %Y %T".toList := by decide
  obtain ⟨format, hFormat⟩ : ∃ format, ofPattern "%d %m %Y %T" none = .ok format := ⟨_, rfl⟩
  obtain rfl := Except.ok.inj hFormat
  obtain ⟨hRead, -⟩ := @read_toldTime (componentsOf 2024 2 29 23 59 58) _ " 29 2 2024 23:59:58" _
    leapDayEnd hPercent hFormat rfl rfl rfl rfl rfl
  exact ⟨_, hPercent, hFormat, by decide +kernel, hRead (.of_supplied rfl (.inr ⟨rfl, rfl⟩) nofun)⟩

/-- A specifier for a day, the name of a month and a year is not counted as supplying any of them, so that what
is filled in for them keeps most dates from being read. -/
theorem not_read_toldTime_worded : ∃ format components, '%' ∈ "%v %H:%M:%S".toList ∧
    ofPattern "%v %H:%M:%S" none = .ok format ∧ format.supply.zone = false ∧
      format.supply.stamp = false ∧
      Item.scan format.items (Text.trim "15-Jan-2024 10:30:00".toList) = .ok components ∧
      components.toDate = .ok januaryMorning.date ∧ components.toClock = .ok januaryMorning.clock ∧
      januaryMorning.millisText = "2024-01-15T10:30:00.000Z" ∧
      format.read "15-Jan-2024 10:30:00" =
        .error (.invalidDate "15-Jan-2024 10:30:00" "%v %H:%M:%S") := by
  obtain ⟨format, hFormat⟩ : ∃ format, ofPattern "%v %H:%M:%S" none = .ok format := ⟨_, rfl⟩
  obtain rfl := Except.ok.inj hFormat
  exact ⟨_, componentsOf 2024 1 15 10 30 0, by decide, hFormat, rfl, rfl, rfl, rfl, rfl, by decide +kernel, rfl⟩

end DateFormat
end LogIngest
