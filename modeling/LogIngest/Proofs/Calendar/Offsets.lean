import LogIngest.Calendar.DateTime
import LogIngest.Proofs.Calendar.Days

/-!
Times shown at some distance from universal time. Main statement: the instant at which clocks at an offset
show a time is the one so many minutes before it, whatever day, month and year that leads to, and there is one
as long as it lies within the calendar.
-/

namespace LogIngest.Calendar

/-- The seconds from the start of 1970 to the start and to the end of the calendar. -/
def firstSecond : Int :=
  (daysBeforeYear minYear + 1 - DateTime.epochDay) * 86400

def endSecond : Int :=
  (daysBeforeYear (maxYear + 1) + 1 - DateTime.epochDay) * 86400

/-- Whether a number of seconds from the start of 1970 leads to a time of the calendar. -/
def InCalendar (seconds : Int) : Prop :=
  firstSecond ≤ seconds ∧ seconds < endSecond

instance (seconds : Int) : Decidable (InCalendar seconds) :=
  inferInstanceAs (Decidable (_ ∧ _))

namespace DateTime

variable {shown instant : DateTime} {offset : Offset}

/-- A time is shown at an instant by clocks with some offset: it is so many minutes later, in the same
nanosecond. -/
structure IsShownAt (shown : DateTime) (offset : Offset) (instant : Instant) : Prop where
  seconds : instant.seconds = shown.seconds - 60 * offset.minutes
  nano : instant.clock.nano = shown.clock.nano

theorem inCalendar (moment : DateTime) : InCalendar moment.seconds := by
  have hYear := moment.date.year_mem
  have hNumber := moment.date.number_mem_year
  have hFirst := daysBeforeYear_mono hYear.1
  have hLast := daysBeforeYear_mono (show moment.date.year + 1 ≤ maxYear + 1 by omega)
  have hSecond := moment.clock.second_lt
  unfold InCalendar firstSecond endSecond seconds
  omega

theorem eq_of_seconds_eq {moment other : DateTime} (hSeconds : moment.seconds = other.seconds)
    (hNano : moment.clock.nano = other.clock.nano) : moment = other := by
  have hSecond := moment.clock.second_lt
  have hOther := other.clock.second_lt
  unfold seconds at hSeconds
  have hDate : moment.date = other.date := Date.eq_of_number_eq (by omega)
  obtain ⟨date, second, nano, _, _, _⟩ := moment
  obtain ⟨date', second', nano', _, _, _⟩ := other
  dsimp only at *
  subst hDate hNano
  have hSame : second = second' := by omega
  subst hSame
  rfl

theorem isShownAt_of_atOffset? (h : shown.atOffset? offset = some instant) :
    shown.IsShownAt offset instant := by
  obtain ⟨date, hDate, hInstant⟩ := Option.bind_eq_some_iff.mp h
  obtain rfl := Option.some.inj hInstant
  have hNumber := Date.number_of_ofNumber? hDate
  refine ⟨?_, rfl⟩
  unfold seconds
  dsimp only
  omega

theorem exists_atOffset? (h : InCalendar (shown.seconds - 60 * offset.minutes)) :
    ∃ instant, shown.atOffset? offset = some instant := by
  unfold InCalendar firstSecond endSecond seconds at h
  obtain ⟨date, hDate⟩ : ∃ date, shown.date.addDays?
      (((shown.clock.second : Int) - 60 * offset.minutes) / 86400) = some date :=
    Date.exists_ofNumber? (by omega) (by omega)
  exact ⟨_, Option.bind_eq_some_iff.mpr ⟨date, hDate, rfl⟩⟩

theorem atOffset?_eq_some_iff : shown.atOffset? offset = some instant ↔ shown.IsShownAt offset instant := by
  refine ⟨isShownAt_of_atOffset?, fun h => ?_⟩
  obtain ⟨found, hFound⟩ := exists_atOffset? (h.seconds ▸ instant.inCalendar)
  have hShown := isShownAt_of_atOffset? hFound
  rw [hFound, eq_of_seconds_eq (hShown.seconds.trans h.seconds.symm) (hShown.nano.trans h.nano.symm)]

theorem atOffset?_eq_none_iff :
    shown.atOffset? offset = none ↔ ¬InCalendar (shown.seconds - 60 * offset.minutes) := by
  constructor
  · intro hNone hIn
    obtain ⟨instant, hSome⟩ := exists_atOffset? hIn
    rw [hNone] at hSome
    cases hSome
  · intro hOut
    cases hAt : shown.atOffset? offset with
    | none => rfl
    | some instant => exact absurd ((isShownAt_of_atOffset? hAt).seconds ▸ instant.inCalendar) hOut

/-- Universal time is what is shown without an offset. -/
theorem atOffset?_zero (shown : DateTime) : shown.atOffset? .zero = some shown :=
  atOffset?_eq_some_iff.mpr ⟨by simp [Offset.zero], rfl⟩

end DateTime
end LogIngest.Calendar
