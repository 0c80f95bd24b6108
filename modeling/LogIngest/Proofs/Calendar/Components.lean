import LogIngest.Calendar.Scan
import LogIngest.Proofs.Fallible

/-!
How components become known. Main statement: the items that take a text make just those components known
that they stand for, each with a value in its range, and never change what is known already.
-/

namespace LogIngest.Calendar

namespace Components

variable {components next last : Components} {part other : Part} {parts : List Part} {value : Int}

/-- A component becomes known. -/
def put (components : Components) (part : Part) (value : Int) : Components where
  get p := if p = part then some value else components.get p

@[simp] theorem get_put_self : (components.put part value).get part = some value :=
  if_pos rfl

/-- Putting a component leaves the others alone. -/
theorem get_put_of_ne (h : other ≠ part) :
    (components.put part value).get other = components.get other :=
  if_neg h

/-- Putting what is known already changes nothing. -/
theorem put_of_known (h : components.get part = some value) : components.put part value = components := by
  obtain ⟨get⟩ := components
  unfold put
  congr 1
  funext other
  dsimp only
  split
  · next hSame => rw [hSame, ← h]
  · rfl

/-- The outcomes of setting a component: it was known with that value, or becomes known with it. -/
theorem set_eq_ok_iff : components.set part value = .ok next ↔
    (part.range.1 ≤ value ∧ value ≤ part.range.2) ∧
      (components.get part = some value ∧ next = components ∨
        components.get part = none ∧ next = components.put part value) := by
  unfold set
  split
  · next hOut =>
      simp only [Bool.or_eq_true, decide_eq_true_eq] at hOut
      constructor
      · nofun
      · rintro ⟨hRange, -⟩
        omega
  · next hIn =>
      simp only [Bool.or_eq_true, decide_eq_true_eq] at hIn
      have hRange : part.range.1 ≤ value ∧ value ≤ part.range.2 := by omega
      cases hKnown : components.get part with
      | none => simp [hRange, put, eq_comm]
      | some known =>
          by_cases hSame : known = value
          · simp [hRange, hSame, eq_comm]
          · simp [hSame]

/-- An unknown component may be set to any value in its range. -/
theorem set_of_unknown (part : Part) (hRange : part.range.1 ≤ value ∧ value ≤ part.range.2)
    (hUnknown : components.get part = none) :
    components.set part value = .ok (components.put part value) :=
  set_eq_ok_iff.mpr ⟨hRange, .inr ⟨hUnknown, rfl⟩⟩

/-- A component that was set is known, whether it was known before or not. -/
theorem get_of_set (h : components.set part value = .ok next) : next.get part = some value := by
  obtain ⟨-, ⟨hKnown, rfl⟩ | ⟨-, rfl⟩⟩ := set_eq_ok_iff.mp h
  · exact hKnown
  · exact get_put_self

/-- Setting a component leaves the others alone. -/
theorem get_of_set_of_ne (h : components.set part value = .ok next) (hOther : other ≠ part) :
    next.get other = components.get other := by
  obtain ⟨-, ⟨-, rfl⟩ | ⟨-, rfl⟩⟩ := set_eq_ok_iff.mp h
  · rfl
  · exact get_put_of_ne hOther

/-- An hour is set as the half of the day and the hour in it. -/
theorem setHour_of_unknown {hour : Nat} (hHour : hour < 24) (hHalf : components.get .half = none)
    (hHourOfHalf : components.get .hourOfHalf = none) :
    components.setHour hour = .ok ((components.put .half (hour / 12)).put .hourOfHalf (hour % 12)) := by
  have hBounds : (decide ((hour : Int) < 0) || decide (23 < (hour : Int))) = false := by
    simp only [Bool.or_eq_false_iff, decide_eq_false_iff_not]
    omega
  have hFirst : components.set .half (hour / 12) = .ok (components.put .half (hour / 12)) := by
    apply set_of_unknown .half _ hHalf
    simp only [Part.range]
    omega
  have hSecond : (components.put .half (hour / 12)).set .hourOfHalf (hour % 12) =
      .ok ((components.put .half (hour / 12)).put .hourOfHalf (hour % 12)) := by
    refine set_of_unknown .hourOfHalf ?_ ((get_put_of_ne (by decide)).trans hHourOfHalf)
    simp only [Part.range]
    omega
  simp only [setHour, hBounds, hFirst, bind, Except.bind, Bool.false_eq_true, if_false]
  exact hSecond

/-! ### Several components -/

/-- Components are set, one after another. -/
inductive Learns : List Part → Components → Components → Prop where
  | nil (components : Components) : Learns [] components components
  | cons {part : Part} {parts : List Part} {components next last : Components} (value : Int)
      (h : components.set part value = .ok next) (rest : Learns parts next last) :
      Learns (part :: parts) components last

/-- All that is known lies in its range. -/
def InRange (components : Components) : Prop :=
  ∀ part value, components.get part = some value → part.range.1 ≤ value ∧ value ≤ part.range.2

namespace Learns

/-- Setting a component makes it known. -/
theorem single (h : components.set part value = .ok next) : Learns [part] components next :=
  .cons value h (.nil next)

/-- What is learnt one after another is learnt in all. -/
theorem append {others : List Part} (first : Learns parts components next)
    (second : Learns others next last) : Learns (parts ++ others) components last := by
  induction first with
  | nil => exact second
  | cons value h rest ih => exact .cons value h (ih second)

/-- What is known stays known, as it is. -/
theorem get_of_known (h : Learns parts components last) (hKnown : components.get part = some value) :
    last.get part = some value := by
  induction h with
  | nil => exact hKnown
  | @cons set parts components next last setValue hSet rest ih =>
      apply ih
      by_cases hSame : part = set
      · subst hSame
        obtain ⟨-, ⟨-, rfl⟩ | ⟨hUnknown, -⟩⟩ := set_eq_ok_iff.mp hSet
        · exact hKnown
        · rw [hUnknown] at hKnown
          cases hKnown
      · rw [get_of_set_of_ne hSet hSame]
        exact hKnown

/-- Nothing else becomes known. -/
theorem get_of_not_mem (h : Learns parts components last) (hPart : part ∉ parts) :
    last.get part = components.get part := by
  induction h with
  | nil => rfl
  | cons value hSet rest ih =>
      rw [ih (List.not_mem_of_not_mem_cons hPart),
        get_of_set_of_ne hSet (List.ne_of_not_mem_cons hPart)]

/-- What was learnt is known. -/
theorem known_of_mem (h : Learns parts components last) (hPart : part ∈ parts) :
    ∃ value, last.get part = some value := by
  induction h with
  | nil => cases hPart
  | cons value hSet rest ih =>
      rcases List.mem_cons.mp hPart with rfl | hPart
      · exact ⟨value, rest.get_of_known (get_of_set hSet)⟩
      · exact ih hPart

/-- Learning keeps everything in range. -/
theorem inRange (h : Learns parts components last) (hRange : components.InRange) : last.InRange := by
  induction h with
  | nil => exact hRange
  | cons value hSet rest ih =>
      apply ih
      obtain ⟨hValue, ⟨-, rfl⟩ | ⟨-, rfl⟩⟩ := set_eq_ok_iff.mp hSet
      · exact hRange
      · intro part known hKnown
        unfold put at hKnown
        dsimp only at hKnown
        split at hKnown
        · next hSame =>
            cases hKnown
            exact hSame ▸ hValue
        · exact hRange part known hKnown

end Learns

theorem inRange_unknown : unknown.InRange :=
  nofun

end Components

/-- The components that a number tells. -/
def Numeric.parts : Numeric → List Part
  | year => [.year]
  | century => [.century]
  | yearOfCentury => [.yearOfCentury]
  | isoYear => [.isoYear]
  | isoYearOfCentury => [.isoYearOfCentury]
  | quarter => [.quarter]
  | month => [.month]
  | day => [.day]
  | ordinal => [.ordinal]
  | weekFromSunday => [.weekFromSunday]
  | weekFromMonday => [.weekFromMonday]
  | isoWeek => [.isoWeek]
  | weekdayFromSunday | weekdayFromMonday => [.weekday]
  | hour => [.half, .hourOfHalf]
  | hourOfHalf => [.hourOfHalf]
  | minute => [.minute]
  | second => [.second]
  | nano => [.nano]
  | stamp => [.stamp]

/-- Storing a number makes just those components known that it stands for. -/
theorem Numeric.learns_of_store {numeric : Numeric} {value : Int} {components next : Components}
    (h : numeric.store value components = .ok next) :
    Components.Learns numeric.parts components next := by
  cases numeric with
  | hour =>
      simp only [store, Components.setHour] at h
      split at h
      · cases h
      · obtain ⟨between, hHalf, hHour⟩ := bind_eq_ok h
        exact .cons _ hHalf (.single hHour)
  | hourOfHalf =>
      simp only [store, Components.setHourOfHalf] at h
      split at h
      · cases h
      · exact .single h
  | weekdayFromSunday =>
      simp only [store] at h
      split at h
      · cases h
      · exact .single h
  | _ => exact .single h

namespace Item

variable {item : Item} {items : List Item} {progress next : Progress} {text : List Char}
  {components : Components} {part : Part}

/-- The components that an item tells. A fraction may be left out. -/
def parts : Item → List Part
  | number numeric => numeric.parts
  | monthName _ => [.month]
  | weekdayName _ => [.weekday]
  | half => [.half]
  | fraction | places _ => [.nano]
  | offset _ => [.offset]
  | space | literal _ | zoneName | separator => []

/-- An item that goes on has set its component to what was taken. -/
theorem set_of_advance {taken : Except Fault (Int × List Char)}
    (h : advance progress part taken = .ok next) :
    ∃ value rest, taken = .ok (value, rest) ∧ progress.components.set part value = .ok next.components := by
  obtain ⟨⟨value, rest⟩, hTaken, h⟩ := bind_eq_ok h
  obtain ⟨components, hSet, h⟩ := bind_eq_ok h
  obtain rfl := Except.ok.inj h
  exact ⟨value, rest, hTaken, hSet⟩

/-- An item that goes on has learnt its component. -/
theorem learns_of_advance {taken : Except Fault (Int × List Char)}
    (h : advance progress part taken = .ok next) :
    Components.Learns [part] progress.components next.components := by
  obtain ⟨value, rest, -, hSet⟩ := set_of_advance h
  exact .single hSet

/-- What taking an item makes known: the components it tells, unless it is a fraction that is not there. -/
theorem learns_of_take (h : item.take progress = .ok next) :
    Components.Learns item.parts progress.components next.components ∨
      item = .fraction ∧ next.components = progress.components := by
  cases item with
  | number numeric =>
      obtain ⟨⟨value, rest⟩, -, h⟩ := bind_eq_ok h
      obtain ⟨components, hStore, h⟩ := bind_eq_ok h
      obtain rfl := Except.ok.inj h
      exact .inl (Numeric.learns_of_store hStore)
  | monthName long | weekdayName long => exact .inl (learns_of_advance h)
  | half | places count | offset form => exact .inl (learns_of_advance h)
  | fraction =>
      simp only [take] at h
      split at h
      · exact .inl (learns_of_advance h)
      · obtain rfl := Except.ok.inj h
        exact .inr ⟨rfl, rfl⟩
  | space | zoneName =>
      obtain rfl := Except.ok.inj h
      exact .inl (.nil _)
  | literal c =>
      simp only [take] at h
      split at h
      · split at h
        · obtain rfl := Except.ok.inj h
          exact .inl (.nil _)
        · cases h
      · cases h
  | separator =>
      simp only [take] at h
      split at h
      case h_1 | h_2 | h_3 =>
        obtain rfl := Except.ok.inj h
        exact .inl (.nil _)
      case h_4 => cases h

/-- What taking items makes known: all that they tell, but for fractions, and nothing else. -/
theorem learns_of_takeAll (h : takeAll items progress = .ok next) :
    ∃ parts, Components.Learns parts progress.components next.components ∧
      (∀ part ∈ parts, ∃ item ∈ items, part ∈ item.parts) ∧
      (∀ item ∈ items, item ≠ .fraction → ∀ part ∈ item.parts, part ∈ parts) := by
  induction items generalizing progress with
  | nil =>
      obtain rfl := Except.ok.inj h
      exact ⟨[], .nil _, nofun, nofun⟩
  | cons item items ih =>
      obtain ⟨between, hTake, h⟩ := bind_eq_ok h
      obtain ⟨parts, hLearns, hFrom, hAll⟩ := ih h
      rcases learns_of_take hTake with hFirst | ⟨rfl, hSame⟩
      · refine ⟨item.parts ++ parts, hFirst.append hLearns, ?_, ?_⟩
        · intro part hPart
          rcases List.mem_append.mp hPart with hPart | hPart
          · exact ⟨item, List.mem_cons_self, hPart⟩
          · obtain ⟨other, hOther, hPart⟩ := hFrom part hPart
            exact ⟨other, List.mem_cons_of_mem item hOther, hPart⟩
        · intro other hOther hFraction part hPart
          rcases List.mem_cons.mp hOther with rfl | hOther
          · exact List.mem_append_left parts hPart
          · exact List.mem_append_right item.parts (hAll other hOther hFraction part hPart)
      · refine ⟨parts, hSame ▸ hLearns, ?_, ?_⟩
        · intro part hPart
          obtain ⟨other, hOther, hPart⟩ := hFrom part hPart
          exact ⟨other, List.mem_cons_of_mem _ hOther, hPart⟩
        · intro other hOther hFraction part hPart
          rcases List.mem_cons.mp hOther with rfl | hOther
          · exact absurd rfl hFraction
          · exact hAll other hOther hFraction part hPart

/-- What is known stays known while items take their turn. -/
theorem get_of_takeAll {value : Int} (h : takeAll items progress = .ok next)
    (hKnown : progress.components.get part = some value) : next.components.get part = some value := by
  obtain ⟨parts, hLearns, -, -⟩ := learns_of_takeAll h
  exact hLearns.get_of_known hKnown

/-- A text that is scanned is taken to its end, with nothing known at the start. -/
theorem takeAll_of_scan (h : scan items text = .ok components) :
    takeAll items ⟨.unknown, text⟩ = .ok ⟨components, []⟩ := by
  obtain ⟨⟨known, rest⟩, hTake, hEnd⟩ := bind_eq_ok h
  split at hEnd
  · next hEmpty =>
      obtain rfl := Except.ok.inj hEnd
      obtain rfl : rest = [] := List.isEmpty_iff.mp hEmpty
      exact hTake
  · cases hEnd

/-- Only what an item tells is known of a text. -/
theorem exists_item_of_scan {value : Int} (h : scan items text = .ok components)
    (hKnown : components.get part = some value) : ∃ item ∈ items, part ∈ item.parts := by
  obtain ⟨parts, hLearns, hFrom, -⟩ := learns_of_takeAll (takeAll_of_scan h)
  apply hFrom
  by_contra hPart
  rw [hLearns.get_of_not_mem hPart] at hKnown
  cases hKnown

/-- All that the items tell is known of a text, but for fractions. -/
theorem known_of_scan (h : scan items text = .ok components) (hItem : item ∈ items)
    (hFraction : item ≠ .fraction) (hPart : part ∈ item.parts) :
    ∃ value, components.get part = some value := by
  obtain ⟨parts, hLearns, -, hAll⟩ := learns_of_takeAll (takeAll_of_scan h)
  exact hLearns.known_of_mem (hAll item hItem hFraction part hPart)

/-- Whatever is scanned is in range. -/
theorem inRange_of_scan (h : scan items text = .ok components) : components.InRange := by
  obtain ⟨parts, hLearns, -, -⟩ := learns_of_takeAll (takeAll_of_scan h)
  exact hLearns.inRange Components.inRange_unknown

end Item
end LogIngest.Calendar
