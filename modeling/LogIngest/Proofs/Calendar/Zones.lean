import LogIngest.Calendar.DateTime
import LogIngest.Calendar.Format
import LogIngest.Proofs.Calendar.Offsets
import LogIngest.Proofs.Calendar.Specifiers

/-!
Date formats with a zone of the configuration. Main statement: the zone is of no account where texts tell
their own, or a count of seconds; in all other cases it moves what is read by its distance from universal time,
and makes nothing readable or unreadable within the calendar.
-/

namespace LogIngest.DateFormat

open Calendar

variable {pattern specifier : String} {layout : List Char} {format plain zoned : DateFormat}
  {offset : Offset}

/-- A format is made from a pattern by way of a layout, whatever its zone. -/
structure IsCompiled (pattern : String) (layout : List Char) (format : DateFormat) : Prop where
  source : format.pattern = pattern
  turned : layoutOf pattern.toList = .ok (layout, format.millis)
  items : Item.ofLayout? layout = some format.items
  supply : format.supply = .ofLayout layout
  component : format.supply.any = true

theorem compile_eq_ok_iff {items : List Item} {supply : Supply} :
    compile layout = .ok (items, supply) ↔
      Item.ofLayout? layout = some items ∧ supply = .ofLayout layout ∧ supply.any = true := by
  unfold compile
  split
  · next hNone => simp [hNone]
  · next found hFound =>
      dsimp only
      split
      · next hAny =>
          rw [hFound]
          constructor
          · intro h
            cases h
            exact ⟨rfl, rfl, hAny⟩
          · rintro ⟨hItems, rfl, -⟩
            cases hItems
            rfl
      · next hNone =>
          constructor
          · nofun
          · rintro ⟨-, rfl, hAny⟩
            exact absurd hAny hNone

/-- The zone that a configuration gives; universal time if it gives none. -/
def zoneOf (specifier? : Option String) : Except SetupError Offset :=
  specifier?.elim (.ok .zero) Timezone.ofSpecifier

theorem ofPattern_eq (pattern : String) (specifier? : Option String) :
    ofPattern pattern specifier? = (do
      let invalid (fault : LayoutFault) : SetupError := .invalidDateFormat pattern fault.message
      let (layout, millis) ← (layoutOf pattern.toList).mapError invalid
      let (items, supply) ← (compile layout).mapError invalid
      let zone ← zoneOf specifier?
      return { pattern, items, supply, millis, zone }) := by
  cases specifier? <;> rfl

theorem ofPattern_eq_ok_iff {specifier? : Option String} : ofPattern pattern specifier? = .ok format ↔
    (∃ layout, IsCompiled pattern layout format) ∧ zoneOf specifier? = .ok format.zone := by
  rw [ofPattern_eq]
  constructor
  · intro h
    obtain ⟨⟨layout, millis⟩, hLayout, h⟩ := bind_eq_ok h
    obtain ⟨⟨items, supply⟩, hCompile, h⟩ := bind_eq_ok h
    obtain ⟨zone, hZone, h⟩ := bind_eq_ok h
    obtain rfl := Except.ok.inj h
    obtain ⟨hItems, hSupply, hAny⟩ := compile_eq_ok_iff.mp (mapError_eq_ok hCompile)
    exact ⟨⟨layout, rfl, mapError_eq_ok hLayout, hItems, hSupply, hAny⟩, hZone⟩
  · rintro ⟨⟨layout, h⟩, hZone⟩
    have hCompile : compile layout = .ok (format.items, format.supply) :=
      compile_eq_ok_iff.mpr ⟨h.items, h.supply, h.component⟩
    simp only [h.turned, hCompile, hZone, Except.mapError, bind, Except.bind, pure, Except.pure]
    rw [← h.source]

/-- Where no zone is configured, it is universal time. -/
theorem ofPattern_none_eq_ok_iff : ofPattern pattern none = .ok format ↔
    (∃ layout, IsCompiled pattern layout format) ∧ format.zone = .zero := by
  rw [ofPattern_eq_ok_iff]
  exact and_congr_right fun _ => ⟨fun h => (Except.ok.inj h).symm, fun h => congrArg Except.ok h.symm⟩

/-! ### Reading -/

/-- The format reads an offset or the name of a zone. -/
def ReadsZone (format : DateFormat) : Prop :=
  ∃ item ∈ format.items, item.isZone = true

/-- The format reads a count of seconds. -/
def ReadsStamp (format : DateFormat) : Prop :=
  ∃ item ∈ format.items, .stamp ∈ item.parts

theorem IsCompiled.zone_iff (h : IsCompiled pattern layout format) :
    format.supply.zone = true ↔ format.ReadsZone := by
  rw [h.supply, Supply.zone_iff h.items]
  rfl

theorem IsCompiled.stamp_iff (h : IsCompiled pattern layout format) :
    format.supply.stamp = true ↔ format.ReadsStamp := by
  rw [h.supply, Supply.stamp_iff h.items]
  rfl

/-- The time that a text shows where the format is in use. -/
def shown? (format : DateFormat) (text : List Char) : Option DateTime :=
  (do
    let components ← Item.scan format.items (normalize format.supply text)
    let known ← complete format.supply components
    shownTime format.millis known : Except Fault DateTime).toOption

theorem toOption_bind {α β ε : Type} (x : Except ε α) (f : α → Except ε β) :
    (x >>= f).toOption = x.toOption.bind fun a => (f a).toOption := by
  cases x <;> rfl

/-- With a zone of its own or a count of seconds a text denotes an instant wherever it is read. -/
theorem read?_withZone (h : format.supply.zone = true ∨ format.supply.stamp = true) (zone : Offset)
    (text : List Char) : { format with zone }.read? text = format.read? text := by
  have hSame : ∀ components, { format with zone }.resolve components = format.resolve components := by
    intro components
    unfold resolve
    rcases h with h | h <;> simp only [h, if_true]
  simp only [read?, funext hSame]

/-- Without them it denotes the instant at which the time is shown. -/
theorem read?_eq_shown? (hZone : format.supply.zone = false) (hStamp : format.supply.stamp = false)
    (zone : Offset) (text : List Char) :
    { format with zone }.read? text = (format.shown? text).bind fun shown => shown.atOffset? zone := by
  simp only [read?, shown?, resolve, hZone, hStamp, Bool.false_eq_true, if_false, pure_bind, toOption_bind,
    Option.bind_assoc]
  congr 1
  funext components
  congr 1
  funext known
  congr 1
  funext shown
  cases shown.atOffset? zone <;> rfl

/-- Where no zone is configured either, a text denotes the instant that it shows. -/
theorem read?_universal (hPlain : ofPattern pattern none = .ok format) (hZone : format.supply.zone = false)
    (hStamp : format.supply.stamp = false) (text : List Char) : format.read? text = format.shown? text := by
  have hRead := read?_eq_shown? hZone hStamp format.zone text
  rw [(ofPattern_none_eq_ok_iff.mp hPlain).2] at hRead
  simp only [DateTime.atOffset?_zero, Option.bind_fun_some] at hRead
  rw [← hRead, ← (ofPattern_none_eq_ok_iff.mp hPlain).2]

theorem read_eq (format : DateFormat) (text : String) :
    format.read text = match format.read? text.toList with
      | some instant => .ok instant
      | none => .error (.invalidDate text format.pattern) :=
  rfl

theorem read_eq_ok_iff {text : String} {instant : Instant} :
    format.read text = .ok instant ↔ format.read? text.toList = some instant := by
  unfold read
  cases format.read? text.toList <;> simp

theorem read_eq_error_iff {text : String} {error : FieldError} :
    format.read text = .error error ↔
      format.read? text.toList = none ∧ error = .invalidDate text format.pattern := by
  unfold read
  cases format.read? text.toList <;> simp [eq_comm]

/-- A zone of the configuration makes no difference to texts with a zone of their own or with a count of
seconds. Other texts are read with it exactly if they are read without, as the instant so much earlier as the
zone is ahead; but for an instant outside the calendar, which is none. -/
theorem timezone_acts (hPlain : ofPattern pattern none = .ok plain)
    (hOffset : Timezone.ofSpecifier specifier = .ok offset) :
    ∃ zoned, ofPattern pattern (some specifier) = .ok zoned ∧
      (plain.ReadsZone ∨ plain.ReadsStamp → ∀ text, zoned.read text = plain.read text) ∧
      (¬plain.ReadsZone → ¬plain.ReadsStamp → ∀ text,
        (∀ error, plain.read text = .error error → zoned.read text = .error error) ∧
        ∀ shown, plain.read text = .ok shown →
          (InCalendar (shown.seconds - 60 * offset.minutes) →
            ∃ instant, zoned.read text = .ok instant ∧ shown.IsShownAt offset instant) ∧
          (¬InCalendar (shown.seconds - 60 * offset.minutes) →
            zoned.read text = .error (.invalidDate text pattern))) := by
  obtain ⟨⟨layout, hCompiled⟩, -⟩ := ofPattern_none_eq_ok_iff.mp hPlain
  refine ⟨{ plain with zone := offset }, ?_, ?_, ?_⟩
  · exact ofPattern_eq_ok_iff.mpr ⟨⟨layout, hCompiled.source, hCompiled.turned, hCompiled.items,
      hCompiled.supply, hCompiled.component⟩, hOffset⟩
  · intro hOwn text
    rw [← hCompiled.zone_iff, ← hCompiled.stamp_iff] at hOwn
    rw [read_eq, read_eq, read?_withZone hOwn]
  · intro hZone hStamp text
    rw [← hCompiled.zone_iff, Bool.not_eq_true] at hZone
    rw [← hCompiled.stamp_iff, Bool.not_eq_true] at hStamp
    have hZonedRead := read?_eq_shown? hZone hStamp offset text.toList
    rw [← read?_universal hPlain hZone hStamp] at hZonedRead
    constructor
    · intro error hError
      rw [read_eq_error_iff] at hError ⊢
      rw [hZonedRead, hError.1]
      exact ⟨rfl, hError.2⟩
    · intro shown hShown
      rw [read_eq_ok_iff] at hShown
      rw [hShown, Option.bind_some] at hZonedRead
      constructor
      · intro hIn
        obtain ⟨instant, hInstant⟩ := DateTime.exists_atOffset? hIn
        exact ⟨instant, read_eq_ok_iff.mpr (hZonedRead.trans hInstant),
          DateTime.isShownAt_of_atOffset? hInstant⟩
      · intro hOut
        rw [DateTime.atOffset?_eq_none_iff.mpr hOut] at hZonedRead
        exact read_eq_error_iff.mpr ⟨hZonedRead, by rw [hCompiled.source]⟩

/-- The format of days and minutes. -/
def minuteFormat (zone : Offset) : DateFormat where
  pattern := "yyyy-MM-dd HH:mm"
  items := Item.isoDate ++ .space :: Item.hourMinute
  supply := .ofLayout "%Y-%m-%d %H:%M".toList
  millis := false
  zone

/-- In a zone one hour ahead, the first half hour of a March is one of the leap day before. -/
theorem timezone_acts_leapDay : ∃ offset shown instant,
    ofPattern "yyyy-MM-dd HH:mm" none = .ok (minuteFormat .zero) ∧
    ofPattern "yyyy-MM-dd HH:mm" (some "GMT+1") = .ok (minuteFormat offset) ∧
    (minuteFormat .zero).read "2024-03-01 00:30" = .ok shown ∧
    shown.millisText = "2024-03-01T00:30:00.000Z" ∧
    (minuteFormat offset).read "2024-03-01 00:30" = .ok instant ∧
    instant.millisText = "2024-02-29T23:30:00.000Z" := by
  have hPlain : ofPattern "yyyy-MM-dd HH:mm" none = .ok (minuteFormat .zero) := rfl
  have hOffset : Timezone.ofSpecifier "GMT+1" = .ok ⟨60, by decide⟩ := rfl
  obtain ⟨zoned, hZoned, -, hMoves⟩ := timezone_acts hPlain hOffset
  obtain rfl : minuteFormat ⟨60, by decide⟩ = zoned := Except.ok.inj hZoned
  have hZone : ¬(minuteFormat .zero).ReadsZone := by
    unfold ReadsZone
    decide
  have hStamp : ¬(minuteFormat .zero).ReadsStamp := by
    unfold ReadsStamp
    decide
  have hShownText : ((minuteFormat .zero).read? "2024-03-01 00:30".toList).map DateTime.millisText =
      some "2024-03-01T00:30:00.000Z" := by
    decide +kernel
  have hInstantText : ((minuteFormat ⟨60, by decide⟩).read? "2024-03-01 00:30".toList).map
      DateTime.millisText = some "2024-02-29T23:30:00.000Z" := by
    decide +kernel
  obtain ⟨shown, hShown, hText⟩ := Option.map_eq_some_iff.mp hShownText
  have hSeconds : ((minuteFormat .zero).read? "2024-03-01 00:30".toList).map DateTime.seconds =
      some 1709253000 := by
    decide +kernel
  rw [hShown, Option.map_some, Option.some.injEq] at hSeconds
  obtain ⟨instant, hInstant, -⟩ :=
    ((hMoves hZone hStamp _).2 shown (read_eq_ok_iff.mpr hShown)).1 (by rw [hSeconds]; decide)
  rw [read_eq_ok_iff.mp hInstant, Option.map_some, Option.some.injEq] at hInstantText
  exact ⟨_, shown, instant, hPlain, hZoned, read_eq_ok_iff.mpr hShown, hText, hInstant, hInstantText⟩

end LogIngest.DateFormat
