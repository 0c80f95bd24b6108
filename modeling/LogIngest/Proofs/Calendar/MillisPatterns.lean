import LogIngest.Proofs.Calendar.Continuation
import LogIngest.Proofs.Calendar.Patterns

/-!
Patterns that end in the second, and the same with milliseconds behind a point. Main statement: the latter make
the format that the former do, with a point and a number of milliseconds behind its items.
-/

namespace LogIngest.Calendar.Layout

open Text (Symbol symbols)

variable {pattern layout : List Char} {pieces others : List Piece} {letter : Char} {count : Nat}

/-- A pattern of letters whose last symbols are seconds, and in which nothing finer is read. -/
structure EndsInSecond (pattern : List Char) : Prop where
  letters : '%' ∉ pattern
  second : [.plain 's', .plain 's'] <:+ symbols pattern
  nothingFiner : .plain 'S' ∉ symbols pattern

theorem eq_nil_of_symbols (h : Divides pattern pieces) (hNone : symbols pattern = []) : pieces = [] := by
  cases h with
  | nil => rfl
  | run hLetter hCount => simp [symbols_run hLetter, Nat.ne_of_gt hCount] at hNone
  | bare hLetter hQuote => simp [symbols_bare hQuote] at hNone
  | apostrophe => simp [symbols_apostrophe] at hNone
  | quoted hFirst hEnd => simp [symbols_quoted hFirst hEnd] at hNone

/-- The last letter of a pattern outside of quotes is its last piece if nothing follows it. -/
theorem exists_last_run (h : Divides pattern pieces) (hLetter : letter.isAlpha = true)
    (hLast : (symbols pattern).getLast? = some (.plain letter)) :
    ∃ front count, pieces = front ++ [.run letter count] := by
  have hBehind {piece : Piece} {rest : List Char} {pieces : List Piece} (first : List Symbol)
      (h : Divides rest pieces)
      (ih : (symbols rest).getLast? = some (.plain letter) →
        ∃ front count, pieces = front ++ [.run letter count])
      (hFirst : first.getLast? = some (.plain letter) → ∃ count, piece = .run letter count)
      (hLast : (first ++ symbols rest).getLast? = some (.plain letter)) :
      ∃ front count, piece :: pieces = front ++ [.run letter count] := by
    rw [List.getLast?_append] at hLast
    cases hRest : (symbols rest).getLast? with
    | none =>
        rw [hRest, Option.none_or] at hLast
        obtain ⟨count, rfl⟩ := hFirst hLast
        obtain rfl := eq_nil_of_symbols h (List.getLast?_eq_none_iff.mp hRest)
        exact ⟨[], count, rfl⟩
    | some symbol =>
        rw [hRest, Option.some_or] at hLast
        obtain ⟨front, count, rfl⟩ := ih (hRest.trans hLast)
        exact ⟨piece :: front, count, rfl⟩
  induction h with
  | nil => cases hLast
  | @run other count rest pieces hOther hCount hMaximal h ih =>
      rw [symbols_run hOther] at hLast
      refine hBehind _ h ih (fun hFirst => ⟨count, ?_⟩) hLast
      obtain rfl : other = letter := by
        simpa [List.getLast?_replicate, Nat.ne_of_gt hCount] using hFirst
      rfl
  | @bare c rest pieces hOther hQuote h ih =>
      refine hBehind [.plain c] h ih (fun hFirst => ?_) (by rwa [symbols_bare hQuote] at hLast)
      obtain rfl : c = letter := by simpa using hFirst
      rw [hLetter] at hOther
      cases hOther
  | apostrophe h ih =>
      refine hBehind [.literal '\''] h ih (fun hFirst => ?_) (by rwa [symbols_apostrophe] at hLast)
      cases hFirst
  | quoted hFirst hEnd h ih =>
      rw [symbols_quoted hFirst hEnd] at hLast
      refine hBehind _ h ih (fun hFirst => ?_) hLast
      obtain ⟨_, _, hSame⟩ := List.mem_map.mp (List.mem_of_getLast? hFirst)
      cases hSame

theorem EndsInSecond.exists_pieces (h : EndsInSecond pattern) (hDivides : Divides pattern pieces) :
    ∃ front count, pieces = front ++ [.run 's' count] := by
  obtain ⟨before, hBefore⟩ := h.second
  refine exists_last_run hDivides (by decide) ?_
  rw [← hBefore, List.getLast?_append]
  rfl

/-- Text and more behind a pattern are pieces of their own. -/
theorem Divides.millis (h : Divides pattern pieces) :
    Divides (pattern ++ ".SSS".toList) (pieces ++ [.text ['.'], .run 'S' 3]) := by
  have hHead {rest : List Char} {c : Char} (hPoint : c ≠ '.') (hRest : rest.head? ≠ some c) :
      (rest ++ ".SSS".toList).head? ≠ some c := by
    cases rest with
    | nil => simpa [eq_comm] using hPoint
    | cons d rest => exact hRest
  induction h with
  | nil =>
      exact .bare (by decide) (by decide)
        (@Divides.run 'S' 3 [] [] (by decide) (by decide) (by decide) .nil)
  | @run letter count rest pieces hLetter hCount hMaximal h ih =>
      have hPoint : letter ≠ '.' := by
        rintro rfl
        cases hLetter
      rw [List.append_assoc]
      exact .run hLetter hCount (hHead hPoint hMaximal) ih
  | bare hLetter hQuote h ih => exact .bare hLetter hQuote ih
  | apostrophe h ih => exact .apostrophe ih
  | quoted hFirst hEnd h ih =>
      rw [List.cons_append, List.append_assoc, List.cons_append]
      exact .quoted hFirst (hHead (by decide) hEnd) ih

theorem ofPieces_append (pieces others : List Piece) : ofPieces (pieces ++ others) =
    ofPieces pieces >>= fun part => (ofPieces others).map (part ++ ·) := by
  induction pieces with
  | nil =>
      have hNil : ofPieces [] = .ok [] := rfl
      rw [hNil, List.nil_append]
      cases ofPieces others <;> rfl
  | cons piece pieces ih =>
      rw [List.cons_append, ofPieces_cons, ofPieces_cons, ih]
      cases piece.translation <;> cases ofPieces pieces <;> cases ofPieces others <;>
        simp [bind, Except.bind, Except.map]

/-! ### The items of a pattern -/

/-- A run of a letter is read by one item, and only milliseconds are read as nanoseconds. -/
theorem exists_item_of_ofLetter {specifier : String} (h : ofLetter letter count = .ok specifier) :
    ∃ c item, specifier.toList = ['%', c] ∧ Item.ofLetter? c = some [item] ∧
      item.isOfPattern = true ∧ (letter ≠ 'S' → .nano ∉ item.parts) := by
  unfold ofLetter at h
  split at h
  case h_12 =>
    cases h
    exact ⟨'f', .number .nano, rfl, rfl, rfl, fun hOther => absurd rfl hOther⟩
  case h_19 => cases h
  all_goals
    repeat' split at h
    all_goals
      cases h
      exact ⟨_, _, rfl, rfl, rfl, fun _ => by decide⟩

/-- What pieces are read by: items of patterns, and nothing finer than a second unless a letter says so. -/
theorem exists_items_of_ofPieces (hTexts : ∀ text, .text text ∈ pieces → '%' ∉ text)
    (hNothingFiner : 'S' ∉ lettersOf pieces) (h : ofPieces pieces = .ok layout) : ∃ items,
      (∀ item ∈ items, item.isOfPattern = true ∧ .nano ∉ item.parts) ∧
      ∀ more, Item.ofLayout? (layout ++ more) = (Item.ofLayout? more).map (items ++ ·) := by
  induction pieces generalizing layout with
  | nil =>
      obtain rfl := Except.ok.inj h
      exact ⟨[], nofun, fun more => by simp⟩
  | cons piece pieces ih =>
      rw [ofPieces_cons] at h
      obtain ⟨part, hPart, h⟩ := bind_eq_ok h
      obtain ⟨rest, hRest, rfl⟩ := map_eq_ok h
      have hTextsBehind : ∀ text, .text text ∈ pieces → '%' ∉ text := fun text hText =>
        hTexts text (List.mem_cons_of_mem _ hText)
      cases piece with
      | text text =>
          obtain ⟨items, hItems, hMore⟩ := ih hTextsBehind hNothingFiner hRest
          obtain rfl := Except.ok.inj hPart
          refine ⟨text.map Item.ofPlain ++ items, List.forall_mem_append.mpr ⟨?_, hItems⟩, fun more => ?_⟩
          · intro item hItem
            obtain ⟨c, -, rfl⟩ := List.mem_map.mp hItem
            unfold Item.ofPlain
            split
            all_goals exact ⟨rfl, nofun⟩
          · rw [List.append_assoc, Item.ofLayout?_text (hTexts text List.mem_cons_self), hMore,
              Option.map_map]
            simp [Function.comp_def]
      | run letter count =>
          have hLetters : letter ≠ 'S' ∧ 'S' ∉ lettersOf pieces := by
            simpa [lettersOf, eq_comm] using hNothingFiner
          obtain ⟨items, hItems, hMore⟩ := ih hTextsBehind hLetters.2 hRest
          obtain ⟨specifier, hSpecifier, rfl⟩ := map_eq_ok hPart
          obtain ⟨c, item, hText, hItem, hPattern, hNano⟩ := exists_item_of_ofLetter hSpecifier
          refine ⟨item :: items, List.forall_mem_cons.mpr ⟨⟨hPattern, hNano hLetters.1⟩, hItems⟩,
            fun more => ?_⟩
          rw [hText, List.append_assoc, List.cons_append, List.cons_append, List.nil_append,
            Item.ofLayout?_percent hItem, hMore, Option.map_map]
          simp [Function.comp_def]

/-- What a pattern that ends in the second is read by: the second last, and nothing finer before it. -/
theorem EndsInSecond.exists_items (hEnds : EndsInSecond pattern) (hDivides : Divides pattern pieces)
    (hLayout : ofPieces pieces = .ok layout) : ∃ front,
      (∀ item ∈ front, item.isOfPattern = true ∧ .nano ∉ item.parts) ∧
      ∀ more, Item.ofLayout? (layout ++ more) =
        (Item.ofLayout? more).map ((front ++ [.number .second]) ++ ·) := by
  have hNothingFiner : 'S' ∉ lettersOf pieces := by
    rw [← plain_mem_symbols_iff hDivides (by decide)]
    exact hEnds.nothingFiner
  obtain ⟨front, count, rfl⟩ := hEnds.exists_pieces hDivides
  rw [ofPieces_append] at hLayout
  obtain ⟨before, hBefore, hSecond⟩ := bind_eq_ok hLayout
  obtain rfl : before ++ ['%', 'S'] = layout := Except.ok.inj hSecond
  have hTexts : ∀ text, .text text ∈ front → '%' ∉ text := fun text hText =>
    percent_not_mem_text hDivides hEnds.letters (List.mem_append_left _ hText)
  have hFrontLetters : 'S' ∉ lettersOf front := by
    rw [lettersOf, List.filterMap_append] at hNothingFiner
    exact fun hLetter => hNothingFiner (List.mem_append_left _ hLetter)
  obtain ⟨items, hItems, hMore⟩ := exists_items_of_ofPieces hTexts hFrontLetters hBefore
  have hSeconds : Item.ofLetter? 'S' = some [.number .second] := rfl
  refine ⟨items, hItems, fun more => ?_⟩
  rw [List.append_assoc, hMore, List.cons_append, List.cons_append, List.nil_append,
    Item.ofLayout?_percent hSeconds, Option.map_map]
  simp [Function.comp_def]

end LogIngest.Calendar.Layout

namespace LogIngest.DateFormat

open Calendar Layout

variable {pattern : String} {zone? : Option String} {format : DateFormat}

/-- A format with milliseconds behind a point. -/
def withMillis (format : DateFormat) : DateFormat :=
  { format with
    pattern := format.pattern ++ ".SSS"
    items := format.items ++ [.literal '.', .number .nano]
    millis := true }

/-- A format that reads the second last, and nothing finer. -/
structure ReadsSecondLast (format : DateFormat) : Prop where
  items : ∃ front, format.items = front ++ [.number .second] ∧
    ∀ item ∈ front, item.isOfPattern = true ∧ .nano ∉ item.parts
  millis : format.millis = false
  stamp : format.supply.stamp = false

/-- Milliseconds are no component of their own. -/
theorem ofPatternLetters_millis (pieces : List Piece) :
    Supply.ofPatternLetters (lettersOf (pieces ++ [.text ['.'], .run 'S' 3])) =
      .ofPatternLetters (lettersOf pieces) := by
  have hLetters : lettersOf (pieces ++ [.text ['.'], .run 'S' 3]) = lettersOf pieces ++ ['S'] := by
    simp [lettersOf]
  simp [hLetters, Supply.ofPatternLetters]

/-- Milliseconds behind a pattern that ends in the second add just a point and a number to what is read. -/
theorem ofPattern_millis (hEnds : EndsInSecond pattern.toList)
    (hFormat : ofPattern pattern zone? = .ok format) :
    format.ReadsSecondLast ∧ ofPattern (pattern ++ ".SSS") zone? = .ok format.withMillis := by
  obtain ⟨⟨layout, hCompiled⟩, hZone⟩ := ofPattern_eq_ok_iff.mp hFormat
  have hTurned := hCompiled.turned
  obtain ⟨pieces, hDivides⟩ := exists_divides_of_layoutOf hEnds.letters hTurned
  rw [layoutOf_of_divides hEnds.letters hDivides] at hTurned
  obtain ⟨found, hLayout, hSame⟩ := map_eq_ok hTurned
  obtain ⟨rfl, hMillis⟩ := Prod.mk.inj hSame
  obtain ⟨front, hFront, hMore⟩ := hEnds.exists_items hDivides hLayout
  have hItems : format.items = front ++ [.number .second] := by
    have hRead := hMore []
    rw [List.append_nil, hCompiled.items] at hRead
    exact (Option.some.inj hRead).trans (List.append_nil _)
  have hMillisItems : Item.ofLayout? (found ++ ".%f".toList) =
      some (format.items ++ [.literal '.', .number .nano]) := by
    rw [hMore, hItems]
    rfl
  have hSupply := hCompiled.supply.trans (ofLayout_of_divides hEnds.letters hDivides hLayout).2
  have hPercent : '%' ∉ pattern.toList ++ ".SSS".toList := by
    rw [List.mem_append, not_or]
    exact ⟨hEnds.letters, by decide⟩
  have hMillisLayout : ofPieces (pieces ++ [.text ['.'], .run 'S' 3]) = .ok (found ++ ".%f".toList) := by
    rw [ofPieces_append, hLayout]
    rfl
  have hMillisSupply := (ofLayout_of_divides hPercent hDivides.millis hMillisLayout).2
  rw [ofPatternLetters_millis, ← hSupply] at hMillisSupply
  have hMillisCompiled : IsCompiled (pattern ++ ".SSS") (found ++ ".%f".toList) format.withMillis := by
    refine ⟨?_, ?_, hMillisItems, hMillisSupply.symm, hCompiled.component⟩
    · rw [withMillis, hCompiled.source]
    · rw [String.toList_append, layoutOf_of_divides hPercent hDivides.millis, hMillisLayout]
      simp [Except.map, withMillis, lettersOf]
  refine ⟨⟨⟨front, hItems, hFront⟩, ?_, ?_⟩, ofPattern_eq_ok_iff.mpr ⟨⟨_, hMillisCompiled⟩, hZone⟩⟩
  · rw [← hMillis, ← Bool.not_eq_true, List.contains_iff_mem, ← plain_mem_symbols_iff hDivides (by decide)]
    exact hEnds.nothingFiner
  · rw [hSupply]
    rfl

end LogIngest.DateFormat
