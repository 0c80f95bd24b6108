import LogIngest.Field.Converter
import LogIngest.Proofs.Calendar.Timestamps
import LogIngest.Proofs.Calendar.Zones

/-!
Fields of dates in the standard format. Main statement: whatever the zone that is configured, they read every
date and time of the years 0 to 9999 with an offset behind it as the instant at which it is shown there, and
with the letter Z behind it as universal time.
-/

namespace LogIngest

open Calendar

namespace Calendar

variable {rest : List Char} {n : Nat}

/-! ### Texts with an offset -/

/-- A date and a time of day to the second, without a zone. -/
def DateTime.secondsText (moment : DateTime) : List Char :=
  moment.date.text ++ 'T' :: (paddedText 2 moment.clock.hour ++ ':' :: (paddedText 2 moment.clock.minute ++
    ':' :: paddedText 2 moment.clock.shownSecond))

/-- The offset of some minutes, west of universal time if it is negative. -/
def Offset.signed (negative : Bool) (magnitude : Nat) (h : magnitude < 1440) : Offset where
  minutes := if negative then -magnitude else magnitude
  minutes_mem := by split <;> omega

/-- Such an offset in hours and minutes of two digits each. -/
def offsetText (negative : Bool) (magnitude : Nat) : List Char :=
  (if negative then '-' else '+') :: (paddedText 2 (magnitude / 60) ++ paddedText 2 (magnitude % 60))

/-- A number of two digits is taken as both of them. -/
theorem takePair?_paddedText (hFits : n < 100) (rest : List Char) :
    ∃ tens units, takePair? (paddedText 2 n ++ rest) = some (tens, units, rest) ∧
      tens * 10 + units = n := by
  have hLength : (paddedText 2 n).length = 2 := length_paddedText (by decide) (by omega)
  have hValue := digitsValue_paddedText 2 n
  have hDigits : ∀ c ∈ paddedText 2 n, c.isDigit = true := fun _ => isDigit_of_mem_paddedText
  obtain ⟨first, second, hText⟩ := List.length_eq_two.mp hLength
  rw [hText] at hDigits hValue
  obtain ⟨tens, hTens⟩ := exists_digitValue?_of_isDigit (hDigits first (by simp))
  obtain ⟨units, hUnits⟩ := exists_digitValue?_of_isDigit (hDigits second (by simp))
  refine ⟨tens, units, ?_, ?_⟩
  · simp [hText, takePair?, hTens, hUnits]
  · rw [← hValue]
    simp only [digitsValue, List.foldl_cons, List.foldl_nil, hTens, hUnits, Option.getD_some]
    omega

/-- The offset is read as it is written. -/
theorem takeOffset_offsetText (negative : Bool) {magnitude : Nat} (h : magnitude < 1440) :
    takeOffset .full (offsetText negative magnitude) = .ok ((Offset.signed negative magnitude h).minutes, []) := by
  obtain ⟨h₁, h₂, hHours, hHoursValue⟩ := takePair?_paddedText
    (show magnitude / 60 < 100 by omega) (paddedText 2 (magnitude % 60))
  obtain ⟨m₁, m₂, hMinutes, hMinutesValue⟩ := takePair?_paddedText
    (show magnitude % 60 < 100 by omega) []
  rw [List.append_nil] at hMinutes
  have hTens : ¬5 < m₁ := by omega
  have hTotal : (h₁ * 10 + h₂) * 60 + (m₁ * 10 + m₂) = magnitude := by omega
  have hSign : takeSign? (offsetText negative magnitude) =
      some (negative, paddedText 2 (magnitude / 60) ++ paddedText 2 (magnitude % 60)) := by
    cases negative <;> rfl
  have hNoSpace : Text.trimStart (offsetText negative magnitude) = offsetText negative magnitude := by
    cases negative <;> exact Text.trimStart_cons (by decide) _
  have hNoColon : (paddedText 2 (magnitude % 60)).dropWhile (fun c => c == ':' || Text.isBlankChar c) =
      paddedText 2 (magnitude % 60) := by
    obtain ⟨c, digits, hText⟩ := List.exists_cons_of_ne_nil (paddedText_ne_nil 2 (magnitude % 60))
    have hDigit : c.isDigit = true := isDigit_of_mem_paddedText (hText ▸ List.mem_cons_self)
    have hColon : c ≠ ':' := by rintro rfl; cases hDigit
    simp [hText, hColon, Text.isBlankChar_of_isDigit hDigit]
  simp only [takeOffset, hNoSpace, takeSignedOffset, hSign, hHours, hNoColon, hMinutes, hTens, hTotal,
    if_false, Offset.signed]

/-- An offset that can be taken and stored is passed over. -/
theorem Item.takeAll_offset {form : OffsetForm} {items : List Item} {components next : Components}
    {text : List Char} {value : Int} (hTake : takeOffset form text = .ok (value, rest))
    (hSet : components.set .offset value = .ok next) :
    takeAll (.offset form :: items) ⟨components, text⟩ = takeAll items ⟨next, rest⟩ := by
  simp only [takeAll, List.foldlM_cons, take, advance, hTake, hSet, bind, Except.bind, pure, Except.pure]

/-! ### The standard format -/

/-- The components of a time with an offset, to the second. -/
def Components.ofSeconds (moment : DateTime) (offset : Offset) : Components :=
  (((((((unknown.put .year moment.date.year).put .month moment.date.month).put .day
    moment.date.day).put .half (moment.clock.hour / 12)).put .hourOfHalf
    (moment.clock.hour % 12)).put .minute moment.clock.minute).put .second
    moment.clock.shownSecond).put .offset offset.minutes

namespace Components

variable {moment : DateTime} {offset : Offset}

/-- The parts of a moment determine its date, whatever the offset. -/
theorem toDate_ofSeconds : (ofSeconds moment offset).toDate = .ok moment.date := by
  simp [toDate, ofSeconds, get_put_of_ne, unknown, resolveYear, candidate, Date.of?_self, existing,
    fitsIsoWeek, fitsOrdinal, fits, bind, Except.bind, pure, Except.pure]

/-- The parts of a moment determine its time of day if that is one of whole seconds. -/
theorem toClock_ofSeconds (hNano : moment.clock.nano = 0) :
    (ofSeconds moment offset).toClock = .ok moment.clock := by
  have hHour : ((moment.clock.hour : Int) / 12 * 12 + (moment.clock.hour : Int) % 12).toNat =
      moment.clock.hour := by
    omega
  have hShown : moment.clock.shownNano = 0 := by rw [Clock.shownNano, hNano]
  have hClock := moment.clock.of?_shown
  rw [hShown] at hClock
  simp [toClock, ofSeconds, get_put_of_ne, unknown, need, hHour, hClock, bind, Except.bind, pure,
    Except.pure]

theorem toOffset_ofSeconds : (ofSeconds moment offset).toOffset = .ok offset := by
  have hOffset : Offset.ofMinutes? offset.minutes = some offset := dif_pos offset.minutes_mem
  simp [toOffset, ofSeconds, need, hOffset, bind, Except.bind, pure, Except.pure]

end Components

end Calendar

namespace DateFormat

/-- The items of the standard format. -/
def standardItems : List Item :=
  Item.isoDate ++ .literal 'T' :: (Item.time ++ [.offset .full])

/-- What the standard format supplies: all but the day of the year and the half of the day. -/
def standardSupply : Supply :=
  .ofLayout "%Y-%m-%dT%H:%M:%S%z".toList

/-- The standard format. Its zone never matters. -/
def standard (zone : Offset) : DateFormat where
  pattern := standardPattern
  items := standardItems
  supply := standardSupply
  millis := false
  zone

/-- The standard pattern has the standard layout in every zone. -/
theorem isCompiled_standard (zone : Offset) :
    IsCompiled standardPattern "%Y-%m-%dT%H:%M:%S%z".toList (standard zone) where
  source := rfl
  turned := rfl
  items := rfl
  supply := rfl
  component := rfl

/-- Every zone that can be read makes a standard format. -/
theorem ofPattern_standard {specifier? : Option String} {zone : Offset} (h : zoneOf specifier? = .ok zone) :
    ofPattern standardPattern specifier? = .ok (standard zone) :=
  ofPattern_eq_ok_iff.mpr ⟨⟨_, isCompiled_standard zone⟩, h⟩

variable {moment : DateTime}

/-- The items take each part of the text in its turn. -/
theorem scan_standard (moment : DateTime) (negative : Bool) {magnitude : Nat} (h : magnitude < 1440) :
    Item.scan standardItems (moment.secondsText ++ offsetText negative magnitude) =
      .ok (.ofSeconds moment (.signed negative magnitude h)) := by
  have hMonth := moment.date.month_mem_range
  have hDay := moment.date.day_mem_range
  have hHour := moment.clock.hour_lt
  have hMinute := moment.clock.minute_mem_range
  have hSecond := moment.clock.second_mem_range
  have hOffset := (Offset.signed negative magnitude h).minutes_mem
  have hText : moment.secondsText ++ offsetText negative magnitude =
      yearText moment.date.year ++ '-' :: (paddedText 2 moment.date.month ++
        '-' :: (paddedText 2 moment.date.day ++ 'T' :: (paddedText 2 moment.clock.hour ++
          ':' :: (paddedText 2 moment.clock.minute ++ ':' :: (paddedText 2 moment.clock.shownSecond ++
            offsetText negative magnitude))))) := by
    simp [DateTime.secondsText, Date.text]
  have hBehind : ∀ c ∈ (offsetText negative magnitude).head?, c.isDigit = false := by
    cases negative <;> simp [offsetText]
  have hTakeSecond : Numeric.second.take
      (paddedText 2 moment.clock.shownSecond ++ offsetText negative magnitude) =
        .ok (moment.clock.shownSecond, offsetText negative magnitude) :=
    Numeric.take_paddedText (by decide) (by omega) hBehind (by simp [Numeric.width?])
      (by simp only [Bounds.int64]; omega)
  rw [hText]
  simp only [standardItems, Item.isoDate, Item.time, Item.hourMinute, List.cons_append, List.nil_append,
    Item.scan]
  rw [Item.takeAll_number (Numeric.take_yearText moment.date.year_mem (by simp))
      (Components.set_of_unknown .year moment.date.year_mem_range rfl),
    Item.takeAll_literal,
    Item.takeAll_pair .month rfl (by omega) rfl (Components.set_of_unknown .month hMonth rfl),
    Item.takeAll_pair .day rfl (by omega) rfl (Components.set_of_unknown .day hDay rfl),
    Item.takeAll_pair .hour rfl (by omega) rfl (Components.setHour_of_unknown hHour rfl rfl),
    Item.takeAll_pair .minute rfl (by omega) rfl (Components.set_of_unknown .minute hMinute rfl),
    Item.takeAll_number hTakeSecond (Components.set_of_unknown .second hSecond rfl),
    Item.takeAll_offset (takeOffset_offsetText negative h)
      (Components.set_of_unknown .offset (by simp only [Part.range]; omega) rfl)]
  rfl

theorem getLast?_paddedText {width n : Nat} {c : Char} (h : (paddedText width n).getLast? = some c) :
    c.isDigit = true :=
  isDigit_of_mem_paddedText (List.mem_of_getLast? h)

/-- There is nothing to trim from a time with something behind it that is no white space. -/
theorem trim_secondsText {behind : List Char} (hSome : behind ≠ [])
    (hLast : ∀ c ∈ behind.getLast?, Text.isBlankChar c = false) :
    Text.trim (moment.secondsText ++ behind) = moment.secondsText ++ behind := by
  apply Text.trim_of_ends
  · intro c hc
    rw [DateTime.secondsText, Date.text, List.append_assoc, List.append_assoc, List.append_assoc,
      List.head?_append_of_ne_nil _ (yearText_ne_nil _)] at hc
    exact isBlankChar_of_head?_yearText hc
  · rwa [List.getLast?_append_of_ne_nil _ hSome]

/-- An offset ends in a digit, so no letter of a zone is cut off behind it. -/
theorem isDigit_of_getLast?_offsetText {negative : Bool} {magnitude : Nat} {c : Char}
    (h : (offsetText negative magnitude).getLast? = some c) : c.isDigit = true := by
  have hSome := paddedText_ne_nil 2 (magnitude % 60)
  rw [offsetText, ← List.cons_append, List.getLast?_append_of_ne_nil _ hSome] at h
  exact getLast?_paddedText h

/-- A text with an offset is read as it is. -/
theorem normalize_offset (moment : DateTime) (negative : Bool) (magnitude : Nat) :
    normalize standardSupply (moment.secondsText ++ offsetText negative magnitude) =
      moment.secondsText ++ offsetText negative magnitude := by
  have hSome : offsetText negative magnitude ≠ [] := List.cons_ne_nil _ _
  have hTrim : Text.trim (moment.secondsText ++ offsetText negative magnitude) =
      moment.secondsText ++ offsetText negative magnitude :=
    trim_secondsText hSome fun c hc => Text.isBlankChar_of_isDigit (isDigit_of_getLast?_offsetText hc)
  have hLast : ((moment.secondsText ++ offsetText negative magnitude).getLast? == some 'Z') = false := by
    rw [List.getLast?_append_of_ne_nil _ hSome, beq_eq_false_iff_ne]
    intro hZ
    cases isDigit_of_getLast?_offsetText hZ
  simp only [normalize, hTrim, hLast, Bool.and_false, Bool.false_eq_true, if_false]

/-- The letter Z stands for no offset. -/
theorem normalize_universal (moment : DateTime) :
    normalize standardSupply (moment.secondsText ++ ['Z']) = moment.secondsText ++ offsetText false 0 := by
  have hTrim : Text.trim (moment.secondsText ++ ['Z']) = moment.secondsText ++ ['Z'] :=
    trim_secondsText (by simp) (by simp [Text.isBlankChar])
  have hZone : standardSupply.zone = true := rfl
  have hOffset : offsetText false 0 = "+0000".toList := rfl
  simp [normalize, hTrim, hZone, hOffset]

/-- Years of four digits lie far within the calendar, at any offset. -/
theorem inCalendar_of_year (offset : Offset) (hYear : 0 ≤ moment.date.year ∧ moment.date.year ≤ 9999) :
    InCalendar (moment.seconds - 60 * offset.minutes) := by
  have hFirst := daysBeforeYear_mono hYear.1
  have hLast := daysBeforeYear_mono (show moment.date.year + 1 ≤ 10000 by omega)
  have hNumber := moment.date.number_mem_year
  have hSecond := moment.clock.second_lt
  have hOffset := offset.minutes_mem
  have hBounds : daysBeforeYear minYear < daysBeforeYear 0 - 2 ∧
      daysBeforeYear 10000 + 2 < daysBeforeYear (maxYear + 1) := by
    decide
  unfold InCalendar firstSecond endSecond DateTime.seconds
  omega

/-- What the standard format makes of a text that gives a time and its offset. -/
theorem read?_standard (zone : Offset) {text : List Char} {offset : Offset}
    (hYear : 0 ≤ moment.date.year ∧ moment.date.year ≤ 9999) (hNano : moment.clock.nano = 0)
    (hScan : Item.scan standardItems (normalize standardSupply text) = .ok (.ofSeconds moment offset)) :
    ∃ instant, (standard zone).read? text = some instant ∧ moment.IsShownAt offset instant := by
  obtain ⟨instant, hInstant⟩ := DateTime.exists_atOffset? (inCalendar_of_year offset hYear)
  refine ⟨instant, ?_, DateTime.isShownAt_of_atOffset? hInstant⟩
  have hComplete : complete standardSupply (.ofSeconds moment offset) = .ok (.ofSeconds moment offset) :=
    rfl
  have hNone : (Components.ofSeconds moment offset).get .nano = none := rfl
  have hShown : shownTime false (.ofSeconds moment offset) = .ok moment := by
    simp only [shownTime, Components.toDate_ofSeconds, Components.toClock_ofSeconds hNano, hNone, bind,
      Except.bind, pure, Except.pure]
  have hStamp : standardSupply.stamp = false := rfl
  have hZone : standardSupply.zone = true := rfl
  simp only [read?, standard, hScan, resolve, hStamp, hZone, hComplete, hShown,
    Components.toOffset_ofSeconds, hInstant, bind, Except.bind, pure, Except.pure, Except.toOption,
    Bool.false_eq_true, if_false, if_true]

end DateFormat

/-! ### Fields -/

/-- A field of dates in the standard format, which it has without one of its own. Its texts are read as they
are, not cut down first. -/
structure FieldConfig.ReadsStandardDates (field : FieldConfig) : Prop where
  type : field.dataType = .date
  format : (field.properties.setting? Property.dateFormat).getD DateFormat.standardPattern =
    DateFormat.standardPattern
  uncut : field.properties.setting? Property.preparsePattern = none

namespace FieldConverter

variable {field : FieldConfig} {converter : FieldConverter}

/-- A field of dates without a format has the standard one. -/
theorem ofConfig_standardDates (hField : field.ReadsStandardDates) {zone : Offset}
    (hZone : DateFormat.zoneOf (field.properties.setting? Property.dateTimezone) = .ok zone) :
    ofConfig field = (do
      let default ← defaultValue field (.date (.standard zone))
      return { name := field.name, narrowing := none, conversion := .date (.standard zone), default }) := by
  have hNarrowing : Narrowing.ofConfig field = .ok none := by
    simp [Narrowing.ofConfig, hField.uncut]
  unfold ofConfig
  simp only [hField.type, hField.format, DateFormat.ofPattern_standard hZone, hNarrowing,
    bind, Except.bind, pure, Except.pure]

/-- A field that was built has a zone that can be read. -/
theorem zone_of_ofConfig (hField : field.ReadsStandardDates) (h : ofConfig field = .ok converter) :
    ∃ zone, DateFormat.zoneOf (field.properties.setting? Property.dateTimezone) = .ok zone := by
  unfold ofConfig at h
  simp only [hField.type, hField.format] at h
  obtain ⟨format, hFormat, -⟩ := bind_eq_ok h
  exact ⟨_, (DateFormat.ofPattern_eq_ok_iff.mp hFormat).2⟩

/-- A default stands in for nothing that can be read. -/
theorem read_date {format : DateFormat} {text : String} {instant : Instant}
    (hConversion : converter.conversion = .date format) (hNarrowing : converter.narrowing = none)
    (hRead : format.read? text.toList = some instant) : converter.read (some text) = .ok (.date instant) := by
  have hStrict : converter.readStrictly (some text) = .ok (.date instant) := by
    simp only [readStrictly, narrow, hNarrowing, hConversion, Conversion.convert,
      DateFormat.read_eq_ok_iff.mpr hRead, Except.map]
  have hTaken : converter.passesOver (some text) = false := by
    simp [passesOver, hConversion, Conversion.ignores]
  unfold read
  rw [hTaken, hStrict]
  cases converter.default <;> rfl

/-- A field of dates in the standard format can be configured with every zone there is. It reads each time
of the years 0 to 9999, to the second, with any offset behind it as the instant so much earlier, and with the
letter Z behind it as universal time. -/
theorem reads_standardDates (hField : field.ReadsStandardDates) :
    (∀ zone, DateFormat.zoneOf (field.properties.setting? Property.dateTimezone) = .ok zone →
      field.properties.setting? Property.defaultValue = none →
        ∃ converter, ofConfig field = .ok converter) ∧
    ∀ converter, ofConfig field = .ok converter → ∀ moment : DateTime,
      0 ≤ moment.date.year → moment.date.year ≤ 9999 → moment.clock.nano = 0 →
        (∀ negative magnitude (h : magnitude < 1440), ∃ instant,
          converter.read (some (String.ofList (moment.secondsText ++ offsetText negative magnitude))) =
              .ok (.date instant) ∧
            moment.IsShownAt (.signed negative magnitude h) instant) ∧
        converter.read (some (String.ofList (moment.secondsText ++ ['Z']))) = .ok (.date moment) := by
  constructor
  · intro zone hZone hDefault
    rw [ofConfig_standardDates hField hZone]
    simp only [defaultValue, hDefault]
    exact ⟨_, rfl⟩
  · intro converter h moment hFirst hLast hNano
    obtain ⟨zone, hZone⟩ := zone_of_ofConfig hField h
    rw [ofConfig_standardDates hField hZone] at h
    obtain ⟨default, -, hConverter⟩ := bind_eq_ok h
    obtain rfl := Except.ok.inj hConverter
    have hReads {text : List Char} {offset : Offset}
        (hScan : Item.scan DateFormat.standardItems (DateFormat.normalize DateFormat.standardSupply text) =
          .ok (.ofSeconds moment offset)) :=
      DateFormat.read?_standard zone ⟨hFirst, hLast⟩ hNano hScan
    constructor
    · intro negative magnitude hMagnitude
      have hScan := DateFormat.scan_standard moment negative hMagnitude
      rw [← DateFormat.normalize_offset] at hScan
      obtain ⟨instant, hRead, hShown⟩ := hReads hScan
      exact ⟨instant, read_date rfl rfl (by rwa [String.toList_ofList]), hShown⟩
    · have hScan := DateFormat.scan_standard moment false (show 0 < 1440 by decide)
      rw [← DateFormat.normalize_universal] at hScan
      obtain ⟨instant, hRead, hShown⟩ := hReads hScan
      have hSame : instant = moment :=
        DateTime.eq_of_seconds_eq (by rw [hShown.seconds]; simp [Offset.signed]) hShown.nano
      subst hSame
      exact read_date rfl rfl (by rwa [String.toList_ofList])

/-- A field whose configured zone is behind universal time. -/
def receivedField : FieldConfig :=
  FieldConfig.withProperty { name := "received", dataType := .date } Property.dateTimezone "-05:30"

/-- The last half hour of a leap day. -/
def leapDayEvening : DateTime :=
  (DateTime.ofSeconds? 1709249400).get (by decide)

/-- The first half hour of the day behind it. -/
def marchMorning : DateTime :=
  (DateTime.ofSeconds? 1709252100).get (by decide)

theorem reads_standardDates_leapDay : ∃ converter, ofConfig receivedField = .ok converter ∧
    converter.read (some "2024-02-29T23:30:00-0045") = .ok (.date marchMorning) ∧
    converter.read (some "2024-02-29T23:30:00Z") = .ok (.date leapDayEvening) := by
  have hField : receivedField.ReadsStandardDates :=
    ⟨rfl, by decide +kernel, by decide +kernel⟩
  have hZone : DateFormat.zoneOf (receivedField.properties.setting? Property.dateTimezone) =
      .ok ⟨-330, by decide⟩ := by
    decide +kernel
  obtain ⟨hConfigured, hReads⟩ := reads_standardDates hField
  obtain ⟨converter, hConverter⟩ := hConfigured _ hZone (by decide +kernel)
  obtain ⟨hOffset, hUniversal⟩ :=
    hReads converter hConverter leapDayEvening (by decide) (by decide) rfl
  obtain ⟨instant, hRead, hShown⟩ := hOffset true 45 (by decide)
  have hSame : instant = marchMorning :=
    DateTime.eq_of_seconds_eq (hShown.seconds.trans (by decide)) hShown.nano
  have hText : String.ofList (leapDayEvening.secondsText ++ offsetText true 45) =
      "2024-02-29T23:30:00-0045" := by
    decide +kernel
  have hTextUniversal : String.ofList (leapDayEvening.secondsText ++ ['Z']) = "2024-02-29T23:30:00Z" := by
    decide +kernel
  rw [hText, hSame] at hRead
  rw [hTextUniversal] at hUniversal
  exact ⟨converter, hConverter, hRead, hUniversal⟩

end FieldConverter
end LogIngest
