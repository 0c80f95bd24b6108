import LogIngest.Calendar.Layout
import LogIngest.Proofs.Calendar.Components

/-!
The specifiers of a layout. Main statement: the letters that tell what a layout supplies are those of the
specifiers that its items are made from, so that what the items read can be told from the letters, and the
other way around.
-/

namespace LogIngest.Calendar

namespace Item

variable {letter : Char} {items its : List Item} {layout text letters : List Char} {count : Nat}

/-- The items that a specifier with some letter stands for. Modifiers make a difference for two letters. -/
inductive StandsFor : (letter : Char) → List Item → Prop where
  | letter {letter : Char} {items : List Item} (h : ofLetter? letter = some items) :
      StandsFor letter items
  | fraction : StandsFor 'f' [.fraction]
  | places (count : Nat) : StandsFor 'f' [.places count]
  | lenient : StandsFor 'z' [.offset .lenient]

/-- What a plain character of a layout stands for. -/
def ofPlain (c : Char) : Item :=
  if Text.isBlankChar c then .space else .literal c

/-- A layout is made of plain characters and of specifiers, which have the given letters, and stands for the
given items. -/
inductive Spelled : (layout : List Char) → (letters : List Char) → List Item → Prop where
  | nil : Spelled [] [] []
  | plain {c : Char} {layout letters : List Char} {items : List Item} (hc : c ≠ '%')
      (h : Spelled layout letters items) : Spelled (c :: layout) letters (ofPlain c :: items)
  | specifier {letter : Char} {its items : List Item} {layout letters : List Char}
      (modifiers : List Char) (hModifiers : modifiers.all Layout.isModifier = true)
      (hLetter : Layout.isModifier letter = false) (hItems : StandsFor letter its)
      (h : Spelled layout letters items) :
      Spelled ('%' :: (modifiers ++ letter :: layout)) (letter :: letters) (its ++ items)

/-- The letters that specifiers can have. -/
def specifierLetters : List Char :=
  "ABCDFGHIMPRSTUVWXYZabcdefghjklmnpqrstuvwxyz+%".toList

/-- Only the listed letters make items. -/
theorem mem_specifierLetters_of_ofLetter? (h : ofLetter? letter = some items) :
    letter ∈ specifierLetters := by
  unfold ofLetter? at h
  split at h
  all_goals first | cases h; done | decide

theorem StandsFor.mem_specifierLetters (h : StandsFor letter items) : letter ∈ specifierLetters := by
  cases h with
  | letter h => exact mem_specifierLetters_of_ofLetter? h
  | fraction | places | lenient => decide

/-- A letter that stands for items is no modifier. -/
theorem StandsFor.not_isModifier (h : StandsFor letter items) : Layout.isModifier letter = false := by
  have hAll : (specifierLetters.all fun c => !Layout.isModifier c) = true := by decide
  exact (Bool.not_eq_true' _).mp (List.all_eq_true.mp hAll letter h.mem_specifierLetters)

/-- A specifier has modifiers, if any, and then a letter. -/
theorem ofSpecifier?_eq_some (h : ofSpecifier? text = some (items, count)) :
    ∃ modifiers letter rest, text = modifiers ++ letter :: rest ∧ count = modifiers.length + 1 ∧
      modifiers.all Layout.isModifier = true ∧ StandsFor letter items := by
  unfold ofSpecifier? at h
  split at h
  case h_1 => cases h; exact ⟨[':', ':', ':'], 'z', _, rfl, rfl, rfl, .letter rfl⟩
  case h_2 => cases h; exact ⟨[':', ':'], 'z', _, rfl, rfl, rfl, .letter rfl⟩
  case h_3 => cases h; exact ⟨[':'], 'z', _, rfl, rfl, rfl, .letter rfl⟩
  case h_4 => cases h; exact ⟨['#'], 'z', _, rfl, rfl, rfl, .lenient⟩
  case h_5 => cases h; exact ⟨['.'], 'f', _, rfl, rfl, rfl, .fraction⟩
  case h_6 => cases h; exact ⟨['.', '3'], 'f', _, rfl, rfl, rfl, .fraction⟩
  case h_7 => cases h; exact ⟨['.', '6'], 'f', _, rfl, rfl, rfl, .fraction⟩
  case h_8 => cases h; exact ⟨['.', '9'], 'f', _, rfl, rfl, rfl, .fraction⟩
  case h_9 => cases h; exact ⟨['3'], 'f', _, rfl, rfl, rfl, .places 3⟩
  case h_10 => cases h; exact ⟨['6'], 'f', _, rfl, rfl, rfl, .places 6⟩
  case h_11 => cases h; exact ⟨['9'], 'f', _, rfl, rfl, rfl, .places 9⟩
  case h_12 | h_13 | h_14 =>
    -- With a padding mark the letter stands for what it does without one.
    split at h
    · next found hFound =>
        split at h
        · cases h
          exact ⟨[_], _, _, rfl, rfl, rfl, .letter hFound⟩
        · cases h
    · cases h
  case h_15 =>
    obtain ⟨found, hFound, hSame⟩ := Option.map_eq_some_iff.mp h
    cases hSame
    exact ⟨[], _, _, rfl, rfl, rfl, .letter hFound⟩
  case h_16 => cases h

/-- Characters that were read ahead are passed over. -/
theorem ofLayoutFrom?_skip (before layout : List Char) :
    ofLayoutFrom? before.length (before ++ layout) = ofLayoutFrom? 0 layout := by
  induction before with
  | nil => rfl
  | cons c before ih => exact ih

/-- Modifiers come before the letter of their specifier and are none themselves. -/
theorem letters_modifiers {modifiers : List Char} (layout : List Char)
    (hModifiers : modifiers.all Layout.isModifier = true)
    (hLetter : Layout.isModifier letter = false) :
    Layout.letters true (modifiers ++ letter :: layout) = letter :: Layout.letters false layout := by
  induction modifiers with
  | nil => simp [Layout.letters, hLetter]
  | cons c modifiers ih =>
      rw [List.all_cons, Bool.and_eq_true] at hModifiers
      obtain ⟨hc, hModifiers⟩ := hModifiers
      simpa [Layout.letters, hc] using ih hModifiers

/-- The letters of a layout and its items have been read in the same places. -/
theorem spelled_of_ofLayout? (h : ofLayout? layout = some items) :
    Spelled layout (Layout.letters false layout) items := by
  unfold ofLayout? at h
  generalize hLength : layout.length = n
  induction n using Nat.strongRecOn generalizing layout items with
  | ind n ih =>
    cases layout with
    | nil =>
        cases h
        exact .nil
    | cons c rest =>
        rw [List.length_cons] at hLength
        unfold ofLayoutFrom? at h
        split at h
        · next hPercent =>
            obtain rfl := eq_of_beq hPercent
            split at h
            · cases h
            · next its count hSpecifier =>
                obtain ⟨modifiers, letter, after, rfl, rfl, hModifiers, hStands⟩ :=
                  ofSpecifier?_eq_some hSpecifier
                obtain ⟨behind, hBehind, rfl⟩ := Option.map_eq_some_iff.mp h
                have hSkip : ofLayoutFrom? (modifiers.length + 1) (modifiers ++ letter :: after) =
                    ofLayoutFrom? 0 after := by
                  simpa using ofLayoutFrom?_skip (modifiers ++ [letter]) after
                rw [hSkip] at hBehind
                have hShorter : after.length < n := by
                  rw [← hLength, List.length_append, List.length_cons]
                  omega
                have hLetters := letters_modifiers after hModifiers hStands.not_isModifier
                rw [Layout.letters, beq_self_eq_true, hLetters]
                exact .specifier modifiers hModifiers hStands.not_isModifier hStands
                  (ih _ hShorter hBehind rfl)
        · next hPlain =>
            obtain ⟨behind, hBehind, rfl⟩ := Option.map_eq_some_iff.mp h
            have hc : c ≠ '%' := by simpa using hPlain
            rw [Layout.letters, beq_eq_false_iff_ne.mpr hc]
            exact .plain hc (ih _ (by omega) hBehind rfl)

/-- A letter behind a percent sign is a specifier by itself. -/
theorem ofLayout?_percent (h : ofLetter? letter = some its) (layout : List Char) :
    ofLayout? ('%' :: letter :: layout) = (ofLayout? layout).map (its ++ ·) := by
  have hSpecifier : ofSpecifier? (letter :: layout) = some (its, 1) := by
    unfold ofSpecifier?
    split
    case h_15 hText =>
      obtain ⟨rfl, -⟩ := List.cons.inj hText
      rw [h]
      rfl
    case h_16 hText => cases hText
    all_goals
      next hText =>
        obtain ⟨rfl, -⟩ := List.cons.inj hText
        cases h
  simp only [ofLayout?, ofLayoutFrom?, beq_self_eq_true, if_true, hSpecifier]

/-- A letter behind a percent sign is the letter of a specifier. -/
theorem letters_percent (h : ofLetter? letter = some its) (layout : List Char) :
    Layout.letters false ('%' :: letter :: layout) = letter :: Layout.letters false layout := by
  have hLetter := (StandsFor.letter h).not_isModifier
  simp [Layout.letters, hLetter]

/-- Text without percent signs stands for itself. -/
theorem ofLayout?_text (hText : '%' ∉ text) (layout : List Char) :
    ofLayout? (text ++ layout) = (ofLayout? layout).map (text.map ofPlain ++ ·) := by
  induction text with
  | nil => simp
  | cons c text ih =>
      rw [List.mem_cons, not_or] at hText
      have hc : (c == '%') = false := beq_eq_false_iff_ne.mpr (Ne.symm hText.1)
      have hPlain : ofLayout? (c :: (text ++ layout)) =
          (ofLayout? (text ++ layout)).map (ofPlain c :: ·) := by
        simp only [ofLayout?, ofLayoutFrom?, hc, Bool.false_eq_true, if_false, ofPlain]
      rw [List.cons_append, hPlain, ih hText.2, Option.map_map]
      rfl

/-- Texts have no letters of specifiers. -/
theorem letters_text (hText : '%' ∉ text) (layout : List Char) :
    Layout.letters false (text ++ layout) = Layout.letters false layout := by
  induction text with
  | nil => rfl
  | cons c text ih =>
      rw [List.mem_cons, not_or] at hText
      have hc : (c == '%') = false := beq_eq_false_iff_ne.mpr (Ne.symm hText.1)
      rw [List.cons_append, Layout.letters, hc, ih hText.2]

/-! ### What letters tell of items -/

/-- Whether each of some letters stands for items with a property, whatever modifiers it has. -/
def ImpliedBy (names : String) (p : Item → Bool) : Prop :=
  ∀ letter its, StandsFor letter its → names.toList.contains letter = true → its.any p = true

/-- Whether only some letters stand for items with a property. -/
def Implies (p : Item → Bool) (names : String) : Prop :=
  ∀ letter its, StandsFor letter its → its.any p = true → names.toList.contains letter = true

variable {names : String} {p : Item → Bool}

/-- If some letters imply a property, a layout with one of them has an item with it. -/
theorem Spelled.any_of_letters (hNames : ImpliedBy names p) (h : Spelled layout letters items)
    (hLetters : letters.any (fun c => names.toList.contains c) = true) : items.any p = true := by
  induction h with
  | nil => cases hLetters
  | plain hc h ih => rw [List.any_cons, ih hLetters, Bool.or_true]
  | specifier modifiers hModifiers hLetter hItems h ih =>
      rw [List.any_cons, Bool.or_eq_true] at hLetters
      rw [List.any_append, Bool.or_eq_true]
      exact hLetters.imp (hNames _ _ hItems) ih

/-- If a property implies some letters, a layout with such an item has one of them. -/
theorem Spelled.letters_of_any (hNames : Implies p names) (hPlain : ∀ c, p (ofPlain c) = false)
    (h : Spelled layout letters items) (hItems : items.any p = true) :
    letters.any (fun c => names.toList.contains c) = true := by
  induction h with
  | nil => cases hItems
  | plain hc h ih =>
      rw [List.any_cons, hPlain, Bool.false_or] at hItems
      exact ih hItems
  | specifier modifiers hModifiers hLetter hStands h ih =>
      rw [List.any_append, Bool.or_eq_true] at hItems
      rw [List.any_cons, Bool.or_eq_true]
      exact hItems.imp (hNames _ _ hStands) ih

/-- What the letters stand for without modifiers decides, and what two of them stand for with some. -/
theorem impliedBy_of_letters
    (hLetters : (specifierLetters.all fun letter => !names.toList.contains letter ||
      (ofLetter? letter).all fun its => its.any p) = true)
    (hFraction : names.toList.contains 'f' = false)
    (hLenient : names.toList.contains 'z' = true → p (.offset .lenient) = true) :
    ImpliedBy names p := by
  intro letter its hStands hNames
  cases hStands with
  | letter h =>
      have hAll := List.all_eq_true.mp hLetters letter (mem_specifierLetters_of_ofLetter? h)
      simpa only [hNames, h, Bool.not_true, Bool.false_or, Option.all_some] using hAll
  | fraction | places =>
      rw [hFraction] at hNames
      cases hNames
  | lenient => rw [List.any_cons, hLenient hNames, Bool.true_or]

/-- Whether a property implies some letters can be checked letter by letter. -/
theorem implies_of_letters
    (hLetters : (specifierLetters.all fun letter => !((ofLetter? letter).any fun its => its.any p) ||
      names.toList.contains letter) = true)
    (hFraction : p .fraction = false) (hPlaces : ∀ count, p (.places count) = false)
    (hLenient : p (.offset .lenient) = true → names.toList.contains 'z' = true) :
    Implies p names := by
  intro letter its hStands hItems
  cases hStands with
  | letter h =>
      have hAll := List.all_eq_true.mp hLetters letter (mem_specifierLetters_of_ofLetter? h)
      simpa only [hItems, h, Bool.not_true, Bool.false_or, Option.any_some] using hAll
  | fraction => simp [hFraction] at hItems
  | places count => simp [hPlaces] at hItems
  | lenient =>
      apply hLenient
      simpa using hItems

end Item

/-! ### What layouts supply -/

/-- Whether an item has to do with the zone of a time: an offset, or the name of a zone. -/
def Item.isZone : Item → Bool
  | offset _ | zoneName => true
  | _ => false

/-- Whether an item tells a component. -/
def Item.tells (part : Part) (item : Item) : Bool :=
  item.parts.contains part

/-- A character that stands for itself tells nothing. -/
theorem Item.tells_ofPlain (part : Part) (c : Char) : (ofPlain c).tells part = false := by
  unfold ofPlain
  split <;> rfl

namespace Supply

variable {layout : List Char} {items : List Item} {item : Item} {part : Part}

/-- Letters that imply a part lead to an item that tells it. -/
theorem mem_parts_of_letters {names : String} (h : Item.ofLayout? layout = some items)
    (hNames : Item.ImpliedBy names (Item.tells part))
    (hLetters : (Layout.letters false layout).any (fun c => names.toList.contains c) = true) :
    ∃ item ∈ items, part ∈ item.parts := by
  obtain ⟨item, hItem, hTells⟩ :=
    List.any_eq_true.mp ((Item.spelled_of_ofLayout? h).any_of_letters hNames hLetters)
  exact ⟨item, hItem, List.contains_iff_mem.mp hTells⟩

/-- An item that tells a part has one of the letters that the part implies. -/
theorem letters_of_mem_parts {names : String} (h : Item.ofLayout? layout = some items)
    (hNames : Item.Implies (Item.tells part) names) (hItem : item ∈ items)
    (hPart : part ∈ item.parts) :
    (Layout.letters false layout).any (fun c => names.toList.contains c) = true :=
  (Item.spelled_of_ofLayout? h).letters_of_any hNames (Item.tells_ofPlain part)
    (List.any_eq_true.mpr ⟨item, hItem, List.contains_iff_mem.mpr hPart⟩)

/-- A layout supplies a zone exactly when one of its items is about zones. -/
theorem zone_iff (h : Item.ofLayout? layout = some items) :
    (ofLayout layout).zone = true ↔ ∃ item ∈ items, item.isZone = true := by
  have hSpelled := Item.spelled_of_ofLayout? h
  rw [← List.any_eq_true]
  constructor
  · exact hSpelled.any_of_letters (Item.impliedBy_of_letters (by decide) (by decide) (by decide))
  · refine hSpelled.letters_of_any
      (Item.implies_of_letters (by decide) rfl (fun _ => rfl) (by decide)) ?_
    intro c
    unfold Item.ofPlain
    split <;> rfl

/-- A layout supplies a count of seconds exactly when one of its items tells one. -/
theorem stamp_iff (h : Item.ofLayout? layout = some items) :
    (ofLayout layout).stamp = true ↔ ∃ item ∈ items, .stamp ∈ item.parts := by
  constructor
  · exact mem_parts_of_letters h (Item.impliedBy_of_letters (by decide) (by decide) (by decide))
  · rintro ⟨item, hItem, hPart⟩
    exact letters_of_mem_parts h (Item.implies_of_letters (by decide) rfl (fun _ => rfl) (by decide))
      hItem hPart

/-- A layout that reads minutes supplies them. -/
theorem minute_of_mem_parts (h : Item.ofLayout? layout = some items) (hItem : item ∈ items)
    (hPart : .minute ∈ item.parts) : (ofLayout layout).minute = true :=
  letters_of_mem_parts h (Item.implies_of_letters (by decide) rfl (fun _ => rfl) (by decide)) hItem hPart

/-- A layout that reads seconds supplies them. -/
theorem second_of_mem_parts (h : Item.ofLayout? layout = some items) (hItem : item ∈ items)
    (hPart : .second ∈ item.parts) : (ofLayout layout).second = true :=
  letters_of_mem_parts h (Item.implies_of_letters (by decide) rfl (fun _ => rfl) (by decide)) hItem hPart

/-- A letter among two lists of names is in one of them. -/
theorem any_contains_append (letters names others : List Char) :
    (letters.any fun c => (names ++ others).contains c) =
      ((letters.any fun c => names.contains c) || letters.any fun c => others.contains c) := by
  rw [Bool.eq_iff_iff, Bool.or_eq_true]
  simp only [List.any_eq_true, List.contains_append, Bool.or_eq_true, and_or_left, exists_or]

/-- An hour is read of the day or of its half. -/
theorem hour_of_mem_parts (h : Item.ofLayout? layout = some items) (hItem : item ∈ items)
    (hPart : .hourOfHalf ∈ item.parts) :
    (ofLayout layout).hour = true ∨ (ofLayout layout).hourOfHalf = true := by
  have hEither : (Layout.letters false layout).any (fun c => "HkTXRc+Ilr".toList.contains c) = true :=
    letters_of_mem_parts h (Item.implies_of_letters (by decide) rfl (fun _ => rfl) (by decide)) hItem
      hPart
  have hSplit : "HkTXRc+Ilr".toList = "HkTXRc+".toList ++ "Ilr".toList := rfl
  rw [hSplit, any_contains_append, Bool.or_eq_true] at hEither
  exact hEither

/-- The components that tell a year otherwise than as a whole number. -/
def yearParts : List Part :=
  [.century, .yearOfCentury, .isoYear, .isoYearOfCentury]

/-- A layout that reads any part of a year supplies the year. -/
theorem year_of_mem_parts (h : Item.ofLayout? layout = some items) (hItem : item ∈ items)
    (hYear : part ∈ yearParts) (hPart : part ∈ item.parts) : (ofLayout layout).year = true := by
  have hAll : ∀ part ∈ yearParts, Item.Implies (Item.tells part) "YCyGgFDxc+" := by
    intro part hYear
    have hNano : [Part.nano].contains part = false := by
      revert part
      decide
    exact Item.implies_of_letters (by revert part; decide) hNano (fun _ => hNano)
      (by revert part; decide)
  exact letters_of_mem_parts h (hAll part hYear) hItem hPart

/-- A layout that supplies the month reads it. -/
theorem month_mem_parts (h : Item.ofLayout? layout = some items) (hMonth : (ofLayout layout).month = true) :
    ∃ item ∈ items, .month ∈ item.parts :=
  mem_parts_of_letters h (Item.impliedBy_of_letters (by decide) (by decide) (by decide)) hMonth

/-- A layout that supplies the day reads it. -/
theorem day_mem_parts (h : Item.ofLayout? layout = some items) (hDay : (ofLayout layout).day = true) :
    ∃ item ∈ items, .day ∈ item.parts :=
  mem_parts_of_letters h (Item.impliedBy_of_letters (by decide) (by decide) (by decide)) hDay

/-- A layout that supplies the day of the year reads it. -/
theorem ordinal_mem_parts (h : Item.ofLayout? layout = some items)
    (hOrdinal : (ofLayout layout).ordinal = true) : ∃ item ∈ items, .ordinal ∈ item.parts :=
  mem_parts_of_letters h (Item.impliedBy_of_letters (by decide) (by decide) (by decide)) hOrdinal

end Supply
end LogIngest.Calendar
