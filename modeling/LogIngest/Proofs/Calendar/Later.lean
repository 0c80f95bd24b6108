import LogIngest.Proofs.Calendar.Offsets

/-!
Times that are some milliseconds later than others. Main statement: milliseconds that are added to the time
that clocks show lead to the instant so much later; but for the first thousand from the start of a leap second,
which are added to the second before it.
-/

namespace LogIngest.Calendar

theorem Clock.isLeap_eq_true_iff {clock : Clock} : clock.isLeap = true ↔ 1000000000 ≤ clock.nano :=
  decide_eq_true_iff

theorem Clock.isLeap_eq_false_iff {clock : Clock} : clock.isLeap = false ↔ clock.nano < 1000000000 := by
  rw [← Bool.not_eq_true, isLeap_eq_true_iff, Nat.not_le]

/-- A time in which the second just starts, be it a leap second. -/
def Clock.StartsSecond (clock : Clock) : Prop :=
  clock.nano = 0 ∨ clock.nano = 1000000000

namespace DateTime

variable {start later shown instant : DateTime} {offset : Offset} {millis : Nat}

/-- The nanoseconds from the start of 1970, where a leap second begins as the second after it does. -/
def nanos (moment : DateTime) : Int :=
  moment.seconds * 1000000000 + moment.clock.nano

/-- A time is some milliseconds later than another one. A leap second lasts one second, and the second that
follows begins when it is over. -/
inductive IsLater (start : DateTime) (millis : Nat) (later : DateTime) : Prop where
  | ordinary (hStart : start.clock.isLeap = false) (hLater : later.clock.isLeap = false)
      (h : later.nanos = start.nanos + millis * 1000000)
  | withinLeap (hStart : start.clock.isLeap = true) (hLater : later.clock.isLeap = true)
      (hSecond : later.seconds = start.seconds) (h : later.nanos = start.nanos + millis * 1000000)
  | beyondLeap (hStart : start.clock.isLeap = true) (hLater : later.clock.isLeap = false)
      (hOver : 2000000000 ≤ start.clock.nano + millis * 1000000)
      (h : later.nanos + 1000000000 = start.nanos + millis * 1000000)

theorem addMillis?_eq_some_iff : start.addMillis? millis = some later ↔
    later.clock.isLeap = false ∧ later.nanos = start.seconds * 1000000000 + millis * 1000000 := by
  rw [Clock.isLeap_eq_false_iff]
  constructor
  · intro h
    obtain ⟨date, hDate, hLater⟩ := Option.bind_eq_some_iff.mp h
    obtain rfl := Option.some.inj hLater
    have hNumber := Date.number_of_ofNumber? hDate
    unfold nanos seconds
    dsimp only
    omega
  · rintro ⟨hOrdinary, hNanos⟩
    have hSecond := later.clock.second_lt
    unfold nanos seconds at hNanos
    have hNumber : later.date.number =
        start.date.number + ((start.clock.second * 1000 + millis) / 86400000 : Nat) := by
      omega
    have hDate : start.date.addDays? ((start.clock.second * 1000 + millis) / 86400000 : Nat) =
        some later.date := by
      unfold Date.addDays?
      rw [← hNumber, Date.ofNumber?_number]
    refine Option.bind_eq_some_iff.mpr ⟨later.date, hDate, congrArg some (eq_of_seconds_eq ?_ ?_)⟩
    · unfold seconds
      dsimp only
      omega
    · dsimp only
      omega

theorem exists_addMillis? (h : InCalendar (start.seconds + (millis / 1000 : Nat))) :
    ∃ later, start.addMillis? millis = some later := by
  unfold InCalendar firstSecond endSecond seconds at h
  obtain ⟨date, hDate⟩ : ∃ date, start.date.addDays?
      ((start.clock.second * 1000 + millis) / 86400000 : Nat) = some date :=
    Date.exists_ofNumber? (by omega) (by omega)
  exact ⟨_, Option.bind_eq_some_iff.mpr ⟨date, hDate, rfl⟩⟩

/-- The time some milliseconds after the start of a second is found by counting them from there; after the start of
a leap second, by counting at least a thousand from the second before it. -/
theorem IsLater.counted_iff (h : start.IsLater millis later) (hStarts : start.clock.StartsSecond) :
    (later.clock.isLeap = false ∧ later.nanos = start.seconds * 1000000000 + millis * 1000000) ↔
      (start.clock.isLeap = true → 1000 ≤ millis) := by
  have hLaterNano := later.clock.nano_lt
  unfold Clock.StartsSecond at hStarts
  cases h with
  | ordinary hStart hLater h =>
      rw [Clock.isLeap_eq_false_iff] at hStart
      unfold nanos at h ⊢
      simp only [hLater, Clock.isLeap_eq_true_iff, true_and]
      omega
  | withinLeap hStart hLater hSecond h =>
      rw [Clock.isLeap_eq_true_iff] at hStart hLater
      unfold nanos at h ⊢
      rw [Clock.isLeap_eq_false_iff, Clock.isLeap_eq_true_iff]
      omega
  | beyondLeap hStart hLater hOver h =>
      rw [Clock.isLeap_eq_true_iff] at hStart
      unfold nanos at h ⊢
      simp only [hLater, Clock.isLeap_eq_true_iff, true_and]
      omega

/-- What clocks show after some milliseconds tells the instant so much later, unless it lies in a leap second or
clocks cannot show it. -/
theorem addMillis?_atOffset?_eq_some_iff (hShown : shown.IsShownAt offset instant)
    (hStarts : instant.clock.StartsSecond) (hLater : instant.IsLater millis later) :
    ((shown.addMillis? millis).bind fun moved => moved.atOffset? offset) = some later ↔
      (instant.clock.isLeap = true → 1000 ≤ millis) ∧
        InCalendar (shown.seconds + (millis / 1000 : Nat)) := by
  rw [← hLater.counted_iff hStarts, Clock.isLeap_eq_false_iff]
  have hSeconds := hShown.seconds
  constructor
  · intro h
    obtain ⟨moved, hMoved, hAt⟩ := Option.bind_eq_some_iff.mp h
    obtain ⟨hAtSeconds, hAtNano⟩ := isShownAt_of_atOffset? hAt
    have hIn := moved.inCalendar
    rw [addMillis?_eq_some_iff, Clock.isLeap_eq_false_iff] at hMoved
    unfold nanos at hMoved ⊢
    rw [show shown.seconds + (millis / 1000 : Nat) = moved.seconds by omega]
    exact ⟨by omega, hIn⟩
  · rintro ⟨⟨hOrdinary, hNanos⟩, hIn⟩
    obtain ⟨moved, hMoved⟩ := exists_addMillis? hIn
    refine Option.bind_eq_some_iff.mpr ⟨moved, hMoved, atOffset?_eq_some_iff.mpr ?_⟩
    rw [addMillis?_eq_some_iff, Clock.isLeap_eq_false_iff] at hMoved
    unfold nanos at hMoved hNanos
    exact ⟨by omega, by omega⟩

end DateTime
end LogIngest.Calendar
