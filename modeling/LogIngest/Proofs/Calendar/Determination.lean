import LogIngest.Calendar.Resolution
import LogIngest.Proofs.Calendar.Components
import LogIngest.Proofs.Calendar.Days

/-!
The date that components make up. Main statement: components make up just that date of which all that they tell
is true, and which lies in the year that they give to its days, or else in the year that they give to its weeks.
-/

namespace LogIngest.Calendar

namespace Components

variable {components : Components} {date : Date} {part : Part} {year isoYear : Option Int} {value : Int}

/-- A component is known. -/
def Knows (components : Components) (part : Part) : Prop :=
  ∃ value, components.get part = some value

/-- A year is what components tell of the year of a date. There are no centuries before the year zero. -/
def TellsYear (components : Components) (year : Int) : Prop :=
  (∀ value, components.get .year = some value → value = year) ∧
    (∀ value, components.get .century = some value → 0 ≤ year ∧ value = year / 100) ∧
    ∀ value, components.get .yearOfCentury = some value → 0 ≤ year ∧ value = year % 100

/-- A year is what components tell of the year that the week of a date belongs to. -/
def TellsIsoYear (components : Components) (year : Int) : Prop :=
  (∀ value, components.get .isoYear = some value → value = year) ∧
    ∀ value, components.get .isoYearOfCentury = some value → 0 ≤ year ∧ value = year % 100

/-- What components tell of a date is true of it. -/
structure Describes (components : Components) (date : Date) : Prop where
  year : components.TellsYear date.year
  month : ∀ value, components.get .month = some value → value = date.month
  day : ∀ value, components.get .day = some value → value = date.day
  ordinal : ∀ value, components.get .ordinal = some value → value = date.ordinal
  weekFromSunday : ∀ value, components.get .weekFromSunday = some value → value = date.weekFrom .sunday
  weekFromMonday : ∀ value, components.get .weekFromMonday = some value → value = date.weekFrom .monday
  isoYear : components.TellsIsoYear date.isoWeek.1
  isoWeek : ∀ value, components.get .isoWeek = some value → value = date.isoWeek.2
  weekday : ∀ value, components.get .weekday = some value → value = date.weekday.val
  quarter : ∀ value, components.get .quarter = some value → value = date.quarter

/-- A value fits if it is the one that is known, or if none is. -/
theorem fits_iff : components.fits part value = true ↔
    ∀ known, components.get part = some known → known = value := by
  unfold fits
  cases components.get part <;> simp

/-- A year fits if it is what is told of it as a whole, by its century and within the century. -/
theorem fitsYear_iff {year : Int} :
    (components.fits .year year && components.fitsCentury year) = true ↔ components.TellsYear year := by
  unfold fitsCentury TellsYear
  rw [Bool.and_eq_true, fits_iff]
  split
  · next hYear => simp [fits_iff, hYear]
  · next hYear => simp [Option.eq_none_iff_forall_ne_some, hYear]

/-- This holds of the year of weeks, too. -/
theorem fitsIsoYear_iff {year : Int} : (components.fits .isoYear year &&
    if 0 ≤ year then components.fits .isoYearOfCentury (year % 100)
    else (components.get .isoYearOfCentury).isNone) = true ↔ components.TellsIsoYear year := by
  unfold TellsIsoYear
  rw [Bool.and_eq_true, fits_iff]
  split
  · next hYear => simp [fits_iff, hYear]
  · next hYear => simp [Option.eq_none_iff_forall_ne_some, hYear]

/-- A date fits by its year, month and day. -/
theorem fitsCivil_iff : components.fitsCivil date = true ↔ components.TellsYear date.year ∧
    (∀ value, components.get .month = some value → value = date.month) ∧
    ∀ value, components.get .day = some value → value = date.day := by
  rw [fitsCivil, Bool.and_eq_true, Bool.and_eq_true, fitsYear_iff, fits_iff, fits_iff, and_assoc]

/-- A date fits by its week and its weekday. -/
theorem fitsIsoWeek_iff : components.fitsIsoWeek date = true ↔ components.TellsIsoYear date.isoWeek.1 ∧
    (∀ value, components.get .isoWeek = some value → value = date.isoWeek.2) ∧
    ∀ value, components.get .weekday = some value → value = date.weekday.val := by
  rw [fitsIsoWeek, Bool.and_eq_true, Bool.and_eq_true, fitsIsoYear_iff, fits_iff, fits_iff, and_assoc]

/-- A date fits by its day in the year and by the weeks that are counted from either day. -/
theorem fitsOrdinal_iff : components.fitsOrdinal date = true ↔
    (∀ value, components.get .ordinal = some value → value = date.ordinal) ∧
    (∀ value, components.get .weekFromSunday = some value → value = date.weekFrom .sunday) ∧
    ∀ value, components.get .weekFromMonday = some value → value = date.weekFrom .monday := by
  rw [fitsOrdinal, Bool.and_eq_true, Bool.and_eq_true, fits_iff, fits_iff, fits_iff, and_assoc]

/-- The checks of components against a date are about all that they tell. -/
theorem describes_iff : components.Describes date ↔
    components.fitsCivil date = true ∧ components.fitsIsoWeek date = true ∧
      components.fitsOrdinal date = true ∧ components.fits .quarter date.quarter = true := by
  rw [fitsCivil_iff, fitsIsoWeek_iff, fitsOrdinal_iff, fits_iff]
  constructor
  · intro h
    exact ⟨⟨h.year, h.month, h.day⟩, ⟨h.isoYear, h.isoWeek, h.weekday⟩,
      ⟨h.ordinal, h.weekFromSunday, h.weekFromMonday⟩, h.quarter⟩
  · rintro ⟨⟨hYear, hMonth, hDay⟩, ⟨hIsoYear, hIsoWeek, hWeekday⟩, ⟨hOrdinal, hSunday, hMonday⟩, hQuarter⟩
    exact ⟨hYear, hMonth, hDay, hOrdinal, hSunday, hMonday, hIsoYear, hIsoWeek, hWeekday, hQuarter⟩

/-- A year that is made of a whole year, a century and a year of the century has them as its own. -/
theorem told_of_resolveYear {whole century low : Option Int} {year : Int}
    (hCentury : ∀ value, century = some value → 0 ≤ value)
    (hLow : ∀ value, low = some value → 0 ≤ value ∧ value ≤ 99)
    (h : resolveYear whole century low = .ok (some year)) :
    (∀ value, whole = some value → value = year) ∧
      (∀ value, century = some value → 0 ≤ year ∧ value = year / 100) ∧
      ∀ value, low = some value → 0 ≤ year ∧ value = year % 100 := by
  unfold resolveYear at h
  split at h
  case h_1 =>
    obtain rfl := Except.ok.inj h
    exact ⟨fun _ hWhole => (Option.some.inj hWhole).symm, nofun, nofun⟩
  case h_2 =>
    split at h
    · cases h
    · split at h
      · next hPositive hFits =>
          cases h
          rw [Bool.and_eq_true, beq_iff_eq, beq_iff_eq] at hFits
          refine ⟨fun _ hWhole => (Option.some.inj hWhole).symm, ?_, ?_⟩
          · rintro value rfl
            exact ⟨by omega, hFits.1⟩
          · rintro value rfl
            exact ⟨by omega, hFits.2⟩
      · cases h
  case h_3 century low =>
    dsimp only at h
    split at h
    · cases h
    · cases h
      have hPositive := hCentury century rfl
      have hBounds := hLow low rfl
      refine ⟨nofun, ?_, ?_⟩
      · rintro value ⟨⟩
        omega
      · rintro value ⟨⟩
        omega
  case h_4 low =>
    cases h
    have hBounds := hLow low rfl
    refine ⟨nofun, nofun, ?_⟩
    rintro value ⟨⟩
    split <;> omega
  case h_5 => cases h

/-- With a year, components lead to a day of it. -/
def TellsDay (components : Components) : Prop :=
  components.Knows .month ∧ components.Knows .day ∨ components.Knows .ordinal ∨
    components.Knows .weekFromSunday ∧ components.Knows .weekday ∨
    components.Knows .weekFromMonday ∧ components.Knows .weekday

/-- Components lead to a day of the year given for days, or else to a day of the year given for weeks. -/
def LeadsTo (components : Components) (year isoYear : Option Int) (date : Date) : Prop :=
  year = some date.year ∧ components.TellsDay ∨
    ¬(year.isSome ∧ components.TellsDay) ∧ isoYear = some date.isoWeek.1 ∧ components.Knows .isoWeek ∧
      components.Knows .weekday

theorem existing_eq_ok_iff {date? : Option Date} : existing date? = .ok date ↔ date? = some date := by
  cases date? <;> simp [existing]

theorem weekDate_eq_ok_iff {year week weekday : Int} {start : Weekday} :
    weekDate year week weekday start = .ok date ↔
      Date.ofWeek? year week.toNat (.ofNat weekday.toNat) start = some date := by
  unfold weekDate
  constructor
  · intro h
    obtain ⟨first, -, h⟩ := bind_eq_ok h
    split at h
    · next found hFound =>
        obtain rfl := Except.ok.inj h
        exact hFound
    · cases h
  · intro h
    -- The year of a date that exists has a first day.
    have hYear := date.year_mem
    rw [Date.year_of_ofWeek? h] at hYear
    have hDays : 1 ≤ daysInYear year := by
      unfold daysInYear
      split <;> omega
    obtain ⟨first, hFirst⟩ := Date.exists_ofOrdinal? hYear ⟨Nat.le_refl 1, hDays⟩
    simp only [hFirst, h, existing, bind, Except.bind, pure, Except.pure]

/-- A date is found, and the other components fit it. -/
theorem found_iff {found : Except Fault Date} {fits : Date → Bool} :
    (do let date ← found; return (date, fits date) : Except Fault (Date × Bool)) = .ok (date, true) ↔
      found = .ok date ∧ fits date = true := by
  cases found with
  | error fault => simp [bind, Except.bind]
  | ok other =>
      simp only [bind, Except.bind, pure, Except.pure, Except.ok.injEq, Prod.mk.injEq]
      exact and_congr_right fun hSame => by rw [hSame]

/-- Where no year goes with any of these, components do not lead to a day of one. -/
theorem not_tellsDay
    (hCivil : ∀ known month day, year = some known → components.get .month = some month →
      components.get .day = some day → False)
    (hOrdinal : ∀ known ordinal, year = some known → components.get .ordinal = some ordinal → False)
    (hSunday : ∀ known week weekday, year = some known → components.get .weekFromSunday = some week →
      components.get .weekday = some weekday → False)
    (hMonday : ∀ known week weekday, year = some known → components.get .weekFromMonday = some week →
      components.get .weekday = some weekday → False) : ¬(year.isSome ∧ components.TellsDay) := by
  rintro ⟨hSome, hDay⟩
  obtain ⟨known, hKnown⟩ := Option.isSome_iff_exists.mp hSome
  rcases hDay with ⟨⟨month, hMonth⟩, day, hDay⟩ | ⟨ordinal, hDay⟩ | ⟨⟨week, hWeek⟩, weekday, hWeekday⟩ |
    ⟨⟨week, hWeek⟩, weekday, hWeekday⟩
  · exact hCivil _ _ _ hKnown hMonth hDay
  · exact hOrdinal _ _ hKnown hDay
  · exact hSunday _ _ _ hKnown hWeek hWeekday
  · exact hMonday _ _ _ hKnown hWeek hWeekday

/-- Components with a date that they describe lead to it, if they lead to a date at all. -/
theorem candidate_of_describes (h : components.Describes date)
    (hLeads : components.LeadsTo year isoYear date) :
    components.candidate year isoYear = .ok (date, true) := by
  obtain ⟨hCivil, hIsoWeek, hOrdinal, -⟩ := describes_iff.mp h
  have hAll : (components.fitsCivil date && components.fitsIsoWeek date &&
      components.fitsOrdinal date) = true := by
    rw [hCivil, hIsoWeek, hOrdinal]
    rfl
  have hWeekdays {weekday : Int} (hKnown : components.get .weekday = some weekday) :
      Weekday.ofNat weekday.toNat = date.weekday := by
    rw [h.weekday weekday hKnown, Int.toNat_natCast, Date.weekday_ofNat_val]
  have hYear {known : Int} (hKnown : year = some known) (hDay : components.TellsDay) :
      known = date.year := by
    rcases hLeads with ⟨hSame, -⟩ | ⟨hNoDay, -⟩
    · exact Option.some.inj (hKnown.symm.trans hSame)
    · exact absurd ⟨by rw [hKnown]; rfl, hDay⟩ hNoDay
  unfold candidate
  dsimp only
  -- Whichever set of components is the first that suffices, the date is the one made from it.
  split
  · next year month day hMonth hDay =>
      obtain rfl := hYear rfl (.inl ⟨⟨_, hMonth⟩, _, hDay⟩)
      rw [found_iff, existing_eq_ok_iff, h.month month hMonth, h.day day hDay, hIsoWeek, hOrdinal]
      exact ⟨date.of?_self, rfl⟩
  · split
    · next year ordinal hKnown _ =>
        obtain rfl := hYear rfl (.inr (.inl ⟨_, hKnown⟩))
        rw [found_iff, existing_eq_ok_iff, h.ordinal ordinal hKnown]
        exact ⟨date.ofOrdinal?_self, hAll⟩
    · split
      · next year week weekday hWeek hWeekday _ _ =>
          obtain rfl := hYear rfl (.inr (.inr (.inl ⟨⟨_, hWeek⟩, _, hWeekday⟩)))
          rw [found_iff, weekDate_eq_ok_iff, h.weekFromSunday week hWeek, hWeekdays hWeekday]
          exact ⟨date.ofWeek?_self .sunday, hAll⟩
      · split
        · next year week weekday hWeek hWeekday _ _ _ =>
            obtain rfl := hYear rfl (.inr (.inr (.inr ⟨⟨_, hWeek⟩, _, hWeekday⟩)))
            rw [found_iff, weekDate_eq_ok_iff, h.weekFromMonday week hWeek, hWeekdays hWeekday]
            exact ⟨date.ofWeek?_self .monday, hAll⟩
        · next hNoCivil hNoOrdinal hNoSunday hNoMonday =>
            rcases hLeads with ⟨rfl, hDay⟩ | ⟨-, rfl, ⟨week, hWeek⟩, weekday, hWeekday⟩
            · exact absurd ⟨rfl, hDay⟩ (not_tellsDay hNoCivil hNoOrdinal hNoSunday hNoMonday)
            · simp only [hWeek, hWeekday]
              rw [found_iff, existing_eq_ok_iff, h.isoWeek week hWeek, hWeekdays hWeekday, hCivil, hOrdinal]
              exact ⟨date.ofIsoWeek?_self, rfl⟩

/-- What is known determines what fits. -/
theorem eq_of_known {known : Int} (hKnown : components.get part = some known) (hSame : known = value) :
    ∀ other, components.get part = some other → other = value := by
  intro other hOther
  rw [hKnown] at hOther
  cases hOther
  exact hSame

/-- The date that components lead to is described by them, if the years it was looked for in are. -/
theorem leadsTo_of_candidate (hRange : components.InRange)
    (hYear : ∀ known, year = some known → components.TellsYear known)
    (hIsoYear : ∀ known, isoYear = some known → components.TellsIsoYear known)
    (h : components.candidate year isoYear = .ok (date, true)) :
    components.LeadsTo year isoYear date ∧ components.fitsCivil date = true ∧
      components.fitsIsoWeek date = true ∧ components.fitsOrdinal date = true := by
  have hAll (hFits : (components.fitsCivil date && components.fitsIsoWeek date &&
      components.fitsOrdinal date) = true) : components.fitsCivil date = true ∧
        components.fitsIsoWeek date = true ∧ components.fitsOrdinal date = true := by
    simpa only [Bool.and_eq_true, and_assoc] using hFits
  unfold candidate at h
  dsimp only at h
  split at h
  · next year month day hMonth hDay =>
      rw [found_iff, existing_eq_ok_iff, Bool.and_eq_true] at h
      obtain ⟨hDate, hFits⟩ := h
      obtain ⟨rfl, hSameMonth, hSameDay⟩ := Date.eq_of_of? hDate
      have hMonthRange := hRange .month month hMonth
      have hDayRange := hRange .day day hDay
      simp only [Part.range] at hMonthRange hDayRange
      exact ⟨.inl ⟨rfl, .inl ⟨⟨_, hMonth⟩, _, hDay⟩⟩, fitsCivil_iff.mpr ⟨hYear _ rfl,
        eq_of_known hMonth (by omega), eq_of_known hDay (by omega)⟩, hFits⟩
  · split at h
    · next year ordinal hKnown _ =>
        rw [found_iff, existing_eq_ok_iff] at h
        obtain ⟨rfl, -⟩ := Date.eq_of_ofOrdinal? h.1
        exact ⟨.inl ⟨rfl, .inr (.inl ⟨_, hKnown⟩)⟩, hAll h.2⟩
    · split at h
      · next year week weekday hWeek hWeekday _ _ =>
          rw [found_iff, weekDate_eq_ok_iff] at h
          obtain rfl := Date.year_of_ofWeek? h.1
          exact ⟨.inl ⟨rfl, .inr (.inr (.inl ⟨⟨_, hWeek⟩, _, hWeekday⟩))⟩, hAll h.2⟩
      · split at h
        · next year week weekday hWeek hWeekday _ _ _ =>
            rw [found_iff, weekDate_eq_ok_iff] at h
            obtain rfl := Date.year_of_ofWeek? h.1
            exact ⟨.inl ⟨rfl, .inr (.inr (.inr ⟨⟨_, hWeek⟩, _, hWeekday⟩))⟩, hAll h.2⟩
        · next hNoCivil hNoOrdinal hNoSunday hNoMonday =>
            split at h
            · next isoYear week weekday hWeek hWeekday =>
                rw [found_iff, existing_eq_ok_iff, Bool.and_eq_true] at h
                obtain ⟨hDate, hCivil, hOrdinal⟩ := h
                obtain ⟨hIsoWeek, hSameWeekday⟩ := Date.eq_of_ofIsoWeek? hDate
                have hWeekRange := hRange .isoWeek week hWeek
                have hWeekdayRange := hRange .weekday weekday hWeekday
                simp only [Part.range] at hWeekRange hWeekdayRange
                have hVal : date.weekday.val = weekday.toNat % 7 := congrArg Fin.val hSameWeekday
                refine ⟨.inr ⟨not_tellsDay hNoCivil hNoOrdinal hNoSunday hNoMonday,
                  congrArg some (congrArg Prod.fst hIsoWeek).symm, ⟨_, hWeek⟩, _, hWeekday⟩, hCivil,
                  fitsIsoWeek_iff.mpr ⟨?_, eq_of_known hWeek ?_, eq_of_known hWeekday (by omega)⟩, hOrdinal⟩
                · rw [hIsoWeek]
                  exact hIsoYear _ rfl
                · rw [hIsoWeek]
                  dsimp only
                  omega
            · cases h

/-- Components make up a date exactly if all that they tell is true of it, and they lead to it. -/
theorem toDate_eq_ok_iff (hRange : components.InRange) : components.toDate = .ok date ↔
    components.Describes date ∧ ∃ year isoYear,
      resolveYear (components.get .year) (components.get .century) (components.get .yearOfCentury) =
        .ok year ∧
      resolveYear (components.get .isoYear) none (components.get .isoYearOfCentury) = .ok isoYear ∧
      components.LeadsTo year isoYear date := by
  have hTellsYear {year : Int} (h : resolveYear (components.get .year) (components.get .century)
      (components.get .yearOfCentury) = .ok (some year)) : components.TellsYear year :=
    told_of_resolveYear (fun value hValue => (hRange .century value hValue).1)
      (hRange .yearOfCentury) h
  have hTellsIsoYear {year : Int} (h : resolveYear (components.get .isoYear) none
      (components.get .isoYearOfCentury) = .ok (some year)) : components.TellsIsoYear year := by
    obtain ⟨hWhole, -, hLow⟩ := told_of_resolveYear (by rintro _ ⟨⟩) (hRange .isoYearOfCentury) h
    exact ⟨hWhole, hLow⟩
  constructor
  · intro h
    obtain ⟨year, hYear, h⟩ := bind_eq_ok h
    obtain ⟨isoYear, hIsoYear, h⟩ := bind_eq_ok h
    obtain ⟨⟨found, fits⟩, hFound, h⟩ := bind_eq_ok h
    dsimp only at h
    split at h
    · next hFits =>
        obtain rfl := Except.ok.inj h
        rw [Bool.and_eq_true] at hFits
        obtain ⟨rfl, hQuarter⟩ := hFits
        obtain ⟨hLeads, hCivil, hIsoWeek, hOrdinal⟩ := leadsTo_of_candidate hRange
          (fun _ hKnown => hTellsYear (hYear.trans (congrArg _ hKnown)))
          (fun _ hKnown => hTellsIsoYear (hIsoYear.trans (congrArg _ hKnown))) hFound
        exact ⟨describes_iff.mpr ⟨hCivil, hIsoWeek, hOrdinal, hQuarter⟩, year, isoYear, hYear, hIsoYear,
          hLeads⟩
    · cases h
  · rintro ⟨hDescribes, year, isoYear, hYear, hIsoYear, hLeads⟩
    have hQuarter := (describes_iff.mp hDescribes).2.2.2
    simp only [toDate, hYear, hIsoYear, candidate_of_describes hDescribes hLeads, hQuarter, bind, Except.bind,
      Bool.and_true, if_true]
    rfl

/-- The components that a date is made up of. -/
def dateParts : List Part :=
  [.year, .century, .yearOfCentury, .isoYear, .isoYearOfCentury, .quarter, .month, .day, .ordinal,
    .weekFromSunday, .weekFromMonday, .isoWeek, .weekday]

/-- Components tell of a date no more than others do. -/
def TellsNoMore (components other : Components) : Prop :=
  ∀ part ∈ dateParts, ∀ value, components.get part = some value → other.get part = some value

namespace TellsNoMore

variable {other : Components}

/-- What describes a date describes it with less as well. -/
theorem describes (hLess : components.TellsNoMore other) (h : other.Describes date) :
    components.Describes date where
  year := ⟨fun value hValue => h.year.1 value (hLess _ (by decide) _ hValue),
    fun value hValue => h.year.2.1 value (hLess _ (by decide) _ hValue),
    fun value hValue => h.year.2.2 value (hLess _ (by decide) _ hValue)⟩
  month value hValue := h.month value (hLess _ (by decide) _ hValue)
  day value hValue := h.day value (hLess _ (by decide) _ hValue)
  ordinal value hValue := h.ordinal value (hLess _ (by decide) _ hValue)
  weekFromSunday value hValue := h.weekFromSunday value (hLess _ (by decide) _ hValue)
  weekFromMonday value hValue := h.weekFromMonday value (hLess _ (by decide) _ hValue)
  isoYear := ⟨fun value hValue => h.isoYear.1 value (hLess _ (by decide) _ hValue),
    fun value hValue => h.isoYear.2 value (hLess _ (by decide) _ hValue)⟩
  isoWeek value hValue := h.isoWeek value (hLess _ (by decide) _ hValue)
  weekday value hValue := h.weekday value (hLess _ (by decide) _ hValue)
  quarter value hValue := h.quarter value (hLess _ (by decide) _ hValue)

/-- What tells more knows as much of a date. -/
theorem knows (hLess : components.TellsNoMore other) (hPart : part ∈ dateParts)
    (h : components.Knows part) : other.Knows part := by
  obtain ⟨value, hValue⟩ := h
  exact ⟨value, hLess part hPart value hValue⟩

/-- What tells more tells the day as well. -/
theorem tellsDay (hLess : components.TellsNoMore other) (h : components.TellsDay) : other.TellsDay := by
  rcases h with ⟨hMonth, hDay⟩ | hOrdinal | ⟨hWeek, hWeekday⟩ | ⟨hWeek, hWeekday⟩
  · exact .inl ⟨hLess.knows (by decide) hMonth, hLess.knows (by decide) hDay⟩
  · exact .inr (.inl (hLess.knows (by decide) hOrdinal))
  · exact .inr (.inr (.inl ⟨hLess.knows (by decide) hWeek, hLess.knows (by decide) hWeekday⟩))
  · exact .inr (.inr (.inr ⟨hLess.knows (by decide) hWeek, hLess.knows (by decide) hWeekday⟩))

end TellsNoMore

/-- How a year is told: as a whole number, with its century, or by its last two digits as one from 1970 on. -/
theorem whole_or_low_of_resolveYear {whole century low : Option Int} {year : Int}
    (hLow : ∀ value, low = some value → 0 ≤ value ∧ value ≤ 99)
    (h : resolveYear whole century low = .ok (some year)) :
    whole = some year ∨ (∃ hundreds rest, century = some hundreds ∧ low = some rest) ∨
      ∃ rest, low = some rest ∧ 1970 ≤ year ∧ year ≤ 2069 := by
  unfold resolveYear at h
  split at h
  case h_1 => exact .inl (Except.ok.inj h)
  case h_2 =>
    split at h
    · cases h
    · split at h
      · cases h
        exact .inl rfl
      · cases h
  case h_3 hundreds rest => exact .inr (.inl ⟨hundreds, rest, rfl, rfl⟩)
  case h_4 rest =>
    cases h
    have hBounds := hLow rest rfl
    refine .inr (.inr ⟨rest, rfl, ?_⟩)
    split <;> omega
  case h_5 => cases h

/-- Of two dates that the same components describe, one lies in the year that they give for days, the other in
the year that they give for weeks. Unless the one is among the last days of its year, the weeks of both belong to
the same year, even where the years are told by two digits only. -/
theorem isoYear_eq_of_describes {other : Date} (hRange : components.InRange)
    (hDate : components.Describes date) (hOther : components.Describes other)
    (hYear : resolveYear (components.get .year) (components.get .century)
      (components.get .yearOfCentury) = .ok (some other.year))
    (hIsoYear : resolveYear (components.get .isoYear) none (components.get .isoYearOfCentury) =
      .ok (some date.isoWeek.1))
    (hEarly : other.month = 1 ∨ other.day = 1) : other.isoWeek.1 = date.isoWeek.1 := by
  rcases whole_or_low_of_resolveYear (hRange .isoYearOfCentury) hIsoYear with hWhole |
    ⟨hundreds, rest, hNone, -⟩ | ⟨low, hLow, hFirst, hLast⟩
  · exact (hOther.isoYear.1 _ hWhole).symm
  · cases hNone
  · have hDateLow := (hDate.isoYear.2 low hLow).2
    have hOtherLow := (hOther.isoYear.2 low hLow).2
    have hDateMem := date.isoYear_mem
    have hOtherMem := other.isoYear_mem
    rcases whole_or_low_of_resolveYear (hRange .yearOfCentury) hYear with hWhole |
      ⟨hundreds, rest, hHundreds, hRest⟩ | ⟨rest, hRest, hFrom, hTo⟩
    · have hSame := hDate.year.1 _ hWhole
      omega
    · have hDateHundreds := (hDate.year.2.1 hundreds hHundreds).2
      have hOtherHundreds := (hOther.year.2.1 hundreds hHundreds).2
      have hDateRest := (hDate.year.2.2 rest hRest).2
      have hOtherRest := (hOther.year.2.2 rest hRest).2
      omega
    · -- With two digits for both years, only the turns of the years 1970 and 2070 could tell them apart.
      have hDateRest := (hDate.year.2.2 rest hRest).2
      have hOtherRest := (hOther.year.2.2 rest hRest).2
      have hNotNext := other.isoYear_le hEarly
      have hNotBefore := other.le_isoYear_of_1970
      omega

/-! ### The time of day -/

theorem need_eq_ok_iff : components.need part = .ok value ↔ components.get part = some value := by
  unfold need
  cases components.get part <;> simp

/-- Components make up a time of day if they tell its half, hour and minute, and nothing finer than a second
without the second. -/
theorem toClock_eq_ok_iff {clock : Clock} : components.toClock = .ok clock ↔
    (components.get .second = none → components.get .nano = none) ∧ ∃ half hour minute,
      components.get .half = some half ∧ components.get .hourOfHalf = some hour ∧
      components.get .minute = some minute ∧
      Clock.of? (half * 12 + hour).toNat minute.toNat ((components.get .second).getD 0).toNat
        ((components.get .nano).getD 0).toNat = some clock := by
  constructor
  · intro h
    obtain ⟨half, hHalf, h⟩ := bind_eq_ok h
    obtain ⟨hour, hHour, h⟩ := bind_eq_ok h
    obtain ⟨minute, hMinute, h⟩ := bind_eq_ok h
    rw [need_eq_ok_iff] at hHalf hHour hMinute
    dsimp only at h
    cases hSecond : components.get .second with
    | none =>
        cases hNano : components.get .nano with
        | none =>
            simp only [hSecond, hNano, pure_bind] at h
            split at h
            · next found hFound =>
                obtain rfl := Except.ok.inj h
                exact ⟨fun _ => rfl, half, hour, minute, hHalf, hHour, hMinute, hFound⟩
            · cases h
        | some nano =>
            simp only [hSecond, hNano] at h
            cases h
    | some second =>
        simp only [hSecond, pure_bind] at h
        split at h
        · next found hFound =>
            obtain rfl := Except.ok.inj h
            exact ⟨nofun, half, hour, minute, hHalf, hHour, hMinute, hFound⟩
        · cases h
  · rintro ⟨hFiner, half, hour, minute, hHalf, hHour, hMinute, hClock⟩
    simp only [toClock, need_eq_ok_iff.mpr hHalf, need_eq_ok_iff.mpr hHour, need_eq_ok_iff.mpr hMinute, bind,
      Except.bind]
    cases hSecond : components.get .second with
    | none =>
        rw [hSecond, hFiner hSecond] at hClock
        rw [hFiner hSecond]
        simp only [pure, Except.pure, hClock]
    | some second =>
        rw [hSecond] at hClock
        simp only [pure, Except.pure, hClock]

end Components

/-- The hour of a time of day is the one that it was made of. -/
theorem Clock.hour_of_of? {hour minute second nano : Nat} {clock : Clock}
    (h : of? hour minute second nano = some clock) : clock.hour = hour := by
  obtain ⟨hParts, hSame⟩ := Option.dite_none_right_eq_some.mp h
  obtain rfl := Option.some.inj hSame
  obtain ⟨⟨-, hMinute, hSecond⟩, -⟩ := hParts
  unfold Clock.hour
  simp only [beq_iff_eq]
  split <;> omega

end LogIngest.Calendar
