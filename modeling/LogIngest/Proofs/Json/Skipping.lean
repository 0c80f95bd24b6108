import LogIngest.Proofs.Json.SkippedLexemes
import LogIngest.Proofs.Json.Values

/-!
Values that are passed over. Reading goes down into the containers, while passing over goes along the text with
those that are open. Main statement: a value that can be read is passed over up to the same place.
-/

namespace LogIngest.Json

variable {α β : Type}

/-- Passes over values as long as a container is open. -/
def goOn (bound : Nat) (step : Except Fault (List Container × List Char)) : Except Fault (List Char) := do
  let (opened, rest) ← step
  if opened.isEmpty then return rest else skipValues bound opened rest

/-- What a reader reads can be passed over, in whichever containers it stands. -/
def Passes (read : List Char → Step α) : Prop :=
  ∀ {text rest : List Char} {a : α}, read text = .ok (a, rest) → rest.length < text.length ∧
    ∀ (opened : List Container) {bound : Nat}, text.length < bound →
      ∃ fewer, rest.length < fewer ∧ skipValues bound opened text = goOn fewer (skipClosing opened rest)

/-- Passes over what precedes the first value in a container, or a further one. -/
def proceed (container : Container) (opened : List Container) (first : Bool) (text : List Char) :
    Except Fault (List Container × List Char) :=
  if first then
    match skipSpace text with
    | [] => stopPast container.unfinished []
    | c :: rest =>
      if container.closes c then skipClosing opened rest
      else (container.skipEntry (c :: rest)).map (container :: opened, ·)
  else skipClosing (container :: opened) text

/-- A bracket opens a list. -/
theorem skipStart_bracket (opened : List Container) {text rest : List Char} (h : skipSpace text = '[' :: rest) :
    skipStart opened text = proceed .list opened true rest := by
  unfold skipStart
  rw [h]
  rfl

/-- A brace opens an object. -/
theorem skipStart_brace (opened : List Container) {text rest : List Char} (h : skipSpace text = '{' :: rest) :
    skipStart opened text = proceed .object opened true rest := by
  unfold skipStart
  rw [h]
  rfl

/-- A digit starts a number, behind which containers may be closed. -/
theorem skipStart_digit (opened : List Container) {c : Char} {text rest : List Char} (h : skipSpace text = c :: rest)
    (hDigit : c.isDigit = true) : skipStart opened text = skipNumber (c :: rest) >>= skipClosing opened := by
  have hNot : ∀ {d : Char} {others : List Char}, d.isDigit = false → c :: rest ≠ d :: others := by
    rintro d others hOther ⟨⟩
    cases hDigit.symm.trans hOther
  unfold skipStart
  dsimp only
  rw [h]
  split
  · next hText => cases hText
  iterate 7
    · next hText => exact absurd hText (hNot rfl)
  · next hText =>
      obtain ⟨rfl, rfl⟩ := List.cons.inj hText
      rw [if_pos hDigit]

/-- How the values of a container are read one after the other, and left behind the last one. -/
structure Follows (container : Container) (read : List Char → Step α)
    (next : Bool → List Char → Step (Option β)) (leave : List Char → Except Fault (List Char)) : Prop where
  last : ∀ {first text rest}, next first text = .ok (none, rest) → ∃ after, leave rest = .ok after ∧
    after.length < text.length ∧ ∀ opened, proceed container opened first text = skipClosing opened after
  more : ∀ {first text rest b}, next first text = .ok (some b, rest) → ∃ due a, read due = .ok (a, rest) ∧
    due.length ≤ text.length ∧ ∀ opened, proceed container opened first text = .ok (container :: opened, due)

theorem Follows.goOn_proceed {container : Container} {read : List Char → Step α}
    {next : Bool → List Char → Step (Option β)} {leave : List Char → Except Fault (List Char)}
    (h : Follows container read next leave) (hPasses : Passes read) {count : Nat} {first : Bool}
    {text rest after : List Char} {bs : List β} (hCollect : collect next count first text = .ok (bs, rest))
    (hLeave : leave rest = .ok after) (hCount : text.length < count) (opened : List Container) {bound : Nat}
    (hBound : text.length < bound) :
    after.length < text.length ∧ ∃ fewer, after.length < fewer ∧
      goOn bound (proceed container opened first text) = goOn fewer (skipClosing opened after) := by
  induction bs generalizing count first text bound with
  | nil =>
      rcases collect_eq_nil hCollect with ⟨rfl, -⟩ | ⟨fewer, -, hLast⟩
      · cases hCount
      · obtain ⟨left, hLeft, hShorter, hProceed⟩ := h.last hLast
        obtain rfl := Except.ok.inj (hLeft.symm.trans hLeave)
        exact ⟨hShorter, bound, by omega, by rw [hProceed]⟩
  | cons b bs ih =>
      obtain ⟨count, behind, rfl, hNext, hOthers⟩ := collect_eq_cons hCollect
      obtain ⟨due, a, hRead, hDue, hProceed⟩ := h.more hNext
      obtain ⟨hShorter, hSkip⟩ := hPasses hRead
      obtain ⟨fewer, hFewer, hValue⟩ := hSkip (container :: opened) (Nat.lt_of_le_of_lt hDue hBound)
      obtain ⟨hRest, least, hLeast, hLater⟩ := ih hOthers (by omega) hFewer
      refine ⟨by omega, least, hLeast, ?_⟩
      calc
        goOn bound (proceed container opened first text)
        _ = skipValues bound (container :: opened) due := by rw [hProceed]; rfl
        _ = goOn fewer (skipClosing (container :: opened) behind) := hValue
        _ = goOn least (skipClosing opened after) := hLater

/-- In front of its end a container is left for the ones around it. -/
theorem proceed_closing {container : Container} {c : Char} (hCloses : container.closes c = true) (hComma : c ≠ ',')
    {text after : List Char} (hText : skipSpace text = c :: after) (first : Bool) (opened : List Container) :
    proceed container opened first text = skipClosing opened after := by
  cases first with
  | true => simp [proceed, hText, hCloses]
  | false => simp [proceed, skipClosing, hText, hCloses, hComma]

/-- What precedes a value is its key in an object, and nothing in an array; a comma stands before it unless it
is the first one. -/
theorem proceed_entry {container : Container} {text due after : List Char} {first : Bool}
    (hEntry : container.skipEntry due = .ok after)
    (hText : if first then skipSpace text = due ∧ ∃ c more, due = c :: more ∧ container.closes c = false
      else skipSpace text = ',' :: due) (opened : List Container) :
    proceed container opened first text = .ok (container :: opened, after) := by
  cases first with
  | true =>
      obtain ⟨hDue, c, more, rfl, hOpen⟩ := hText
      simp only [proceed, if_pos, hDue, hOpen, hEntry]
      rfl
  | false =>
      rw [if_neg Bool.false_ne_true] at hText
      simp only [proceed, skipClosing, hText, hEntry]
      rfl

/-- Behind the last element stands a bracket. -/
theorem closing_of_nextElement {element : List Char → Step α} {first : Bool} {text rest : List Char}
    (h : nextElement element first text = .ok (none, rest)) :
    ∃ after, skipSpace text = ']' :: after ∧ rest = ']' :: after := by
  have hSome : ∀ due, ((element due).map fun read => (some read.1, read.2)) ≠ .ok (none, rest) := by
    intro due hDue
    obtain ⟨_, -, ⟨⟩⟩ := map_eq_ok hDue
  unfold nextElement at h
  dsimp only at h
  split at h
  · cases h
  · next after hText => exact ⟨after, hText, (Prod.mk.inj (Except.ok.inj h)).2.symm⟩
  · split at h
    · exact (hSome _ h).elim
    · split at h
      · split at h
        · cases h
        · cases h
        · exact (hSome _ h).elim
      · cases h

/-- Behind the last member stands a brace. -/
theorem closing_of_nextKey {first : Bool} {text rest : List Char} (h : nextKey first text = .ok (none, rest)) :
    ∃ after, skipSpace text = '}' :: after ∧ rest = '}' :: after := by
  have hSome : ∀ quoted, ((readString quoted).map fun read => (some read.1, read.2)) ≠ .ok (none, rest) := by
    intro quoted hQuoted
    obtain ⟨_, -, ⟨⟩⟩ := map_eq_ok hQuoted
  unfold nextKey at h
  dsimp only at h
  split at h
  · cases h
  · next after hText => exact ⟨after, hText, (Prod.mk.inj (Except.ok.inj h)).2.symm⟩
  · split at h
    · split at h
      · exact (hSome _ h).elim
      · cases h
    · split at h
      · split at h
        · cases h
        · exact (hSome _ h).elim
        · cases h
        · cases h
      · cases h

/-- A key is read from behind its quote, and that stands behind a comma if the key is not the first one. -/
theorem quoted_of_nextKey {first : Bool} {text rest key : List Char}
    (h : nextKey first text = .ok (some key, rest)) :
    ∃ quoted, readString quoted = .ok (key, rest) ∧
      if first then skipSpace text = '"' :: quoted
      else ∃ between, skipSpace text = ',' :: between ∧ skipSpace between = '"' :: quoted := by
  have hRead : ∀ quoted, ((readString quoted).map fun read => (some read.1, read.2)) = .ok (some key, rest) →
      readString quoted = .ok (key, rest) := by
    intro quoted hQuoted
    obtain ⟨⟨read, after⟩, hString, hSame⟩ := map_eq_ok hQuoted
    obtain ⟨hKey, rfl⟩ := Prod.mk.inj hSame
    exact Option.some.inj hKey ▸ hString
  unfold nextKey at h
  dsimp only at h
  split at h
  · cases h
  · cases h
  · split at h
    · next hFirst =>
        split at h
        · next quoted hText => exact ⟨quoted, hRead _ h, (if_pos hFirst).mpr hText⟩
        · cases h
    · next hLater =>
        split at h
        · next between hComma =>
            split at h
            · cases h
            · next quoted hText => exact ⟨quoted, hRead _ h, (if_neg hLater).mpr ⟨between, hComma, hText⟩⟩
            · cases h
            · cases h
        · cases h

/-- Elements that are passed over one by one are collected one by one. -/
theorem follows_list {element : List Char → Step α}
    (hSpace : ∀ text, element (skipSpace text) = element text) :
    Follows .list element (nextElement element) leaveArray where
  last := by
    intro first text rest h
    obtain ⟨after, hText, rfl⟩ := closing_of_nextElement h
    exact ⟨after, rfl, length_lt_of_skipSpace hText, proceed_closing rfl (by decide) hText first⟩
  more := by
    intro first text rest a h
    obtain ⟨due, hRead, hText⟩ := due_of_nextElement h
    cases first with
    | true =>
        obtain ⟨hDue, c, after, hCons, hOpen⟩ := hText
        refine ⟨due, a, hRead, hDue ▸ length_skipSpace_le text, proceed_entry rfl ⟨hDue, c, after, hCons, ?_⟩⟩
        exact beq_false_of_ne hOpen
    | false =>
        obtain ⟨between, hComma, rfl⟩ := hText
        rw [hSpace] at hRead
        exact ⟨between, a, hRead, (length_lt_of_skipSpace hComma).le, proceed_entry rfl hComma⟩

/-- A key is passed over together with its colon. -/
theorem skipKey_of_quoted {text quoted rest due key : List Char} (hText : skipSpace text = '"' :: quoted)
    (hKey : readString quoted = .ok (key, rest)) (hColon : readColon rest = .ok due) :
    skipKey text = .ok due := by
  obtain ⟨hSkip, -⟩ := skipString_of_readString hKey
  simp only [skipKey, hText, hSkip, bind, Except.bind, hColon]

/-- Members that are passed over one by one are collected one by one. -/
theorem follows_object (value : List Char → Step α) :
    Follows .object value (nextMember value) leaveObject where
  last := by
    intro first text rest h
    obtain ⟨after, hText, rfl⟩ := closing_of_nextKey (nextKey_of_nextMember h)
    exact ⟨after, rfl, length_lt_of_skipSpace hText, proceed_closing rfl (by decide) hText first⟩
  more := by
    intro first text rest member h
    obtain ⟨key, afterKey, due, hKey, -, hColon, hValue⟩ := due_of_nextMember h
    obtain ⟨quoted, hQuoted, hText⟩ := quoted_of_nextKey hKey
    obtain ⟨-, hShorter⟩ := skipString_of_readString hQuoted
    have hDue := length_le_of_readColon hColon
    cases first with
    | true =>
        have hQuote : skipSpace text = '"' :: quoted := hText
        have hLength := length_lt_of_skipSpace hQuote
        have hSame : skipSpace ('"' :: quoted) = '"' :: quoted := by rw [← hQuote, skipSpace_skipSpace]
        refine ⟨due, _, hValue, by omega, proceed_entry ?_ ⟨hQuote, '"', quoted, rfl, rfl⟩⟩
        exact skipKey_of_quoted hSame hQuoted hColon
    | false =>
        obtain ⟨between, hComma, hQuote⟩ := hText
        have hLength := length_lt_of_skipSpace hComma
        have hInner := length_lt_of_skipSpace hQuote
        refine ⟨due, _, hValue, by omega, proceed_entry ?_ hComma⟩
        exact skipKey_of_quoted hQuote hQuoted hColon

/-! ### Values -/

/-- A value without parts is passed over at once. -/
theorem passes_of_skipStart {c : Char} {text after rest : List Char} (hText : skipSpace text = c :: after)
    (hRest : rest.length ≤ after.length) (h : ∀ opened, skipStart opened text = skipClosing opened rest) :
    rest.length < text.length ∧ ∀ (opened : List Container) {bound : Nat}, text.length < bound →
      ∃ fewer, rest.length < fewer ∧ skipValues bound opened text = goOn fewer (skipClosing opened rest) := by
  have hShorter := Nat.lt_of_le_of_lt hRest (length_lt_of_skipSpace hText)
  refine ⟨hShorter, fun opened {bound} hBound => ?_⟩
  obtain ⟨fewer, rfl⟩ : ∃ fewer, bound = fewer + 1 := ⟨bound - 1, by omega⟩
  refine ⟨fewer, by omega, ?_⟩
  rw [← h opened]
  rfl

/-- A container is passed over if the values in it are. -/
theorem Follows.passes_within {container : Container} {read : List Char → Step α}
    {next : Bool → List Char → Step (Option β)} {leave : List Char → Except Fault (List Char)}
    (h : Follows container read next leave) (hPasses : Passes read) {c : Char} {text inside rest : List Char}
    {bs : List β} (hText : skipSpace text = c :: inside)
    (hStart : ∀ opened, skipStart opened text = proceed container opened true inside)
    (hRead : within leave (collect next (inside.length + 1) true inside) = .ok (bs, rest)) :
    rest.length < text.length ∧ ∀ (opened : List Container) {bound : Nat}, text.length < bound →
      ∃ fewer, rest.length < fewer ∧ skipValues bound opened text = goOn fewer (skipClosing opened rest) := by
  obtain ⟨left, hCollect, hLeave⟩ := within_eq_ok hRead
  have hInside := length_lt_of_skipSpace hText
  have hAll := fun (opened : List Container) {bound : Nat} (hBound : inside.length < bound) =>
    h.goOn_proceed hPasses hCollect hLeave (Nat.lt_succ_self _) opened hBound
  obtain ⟨hShorter, -⟩ := hAll [] (Nat.lt_succ_self _)
  refine ⟨by omega, fun opened {bound} hBound => ?_⟩
  obtain ⟨fewer, rfl⟩ : ∃ fewer, bound = fewer + 1 := ⟨bound - 1, by omega⟩
  obtain ⟨-, least, hLeast, hValue⟩ := hAll opened (show inside.length < fewer by omega)
  refine ⟨least, hLeast, ?_⟩
  rw [← hValue, ← hStart opened]
  rfl

/-- A value is passed over if the values in it are, by cases of its first character. -/
theorem passes_readValueWith {deeper : Option (List Char → Step Value)}
    (hDeeper : ∀ value, deeper = some value → Passes value ∧ ∀ text, value (skipSpace text) = value text) :
    Passes (readValueWith deeper) := by
  intro text rest v h
  unfold readValueWith at h
  split at h
  · cases h
  iterate 3
    · next after hText =>
        obtain ⟨left, hWord, ⟨⟩⟩ := map_eq_ok h
        refine passes_of_skipStart hText (length_le_of_readWord hWord) fun opened => ?_
        simp only [skipStart, hText, hWord, bind, Except.bind]
  · next after hText =>
      obtain ⟨⟨s, left⟩, hString, ⟨⟩⟩ := map_eq_ok h
      obtain ⟨hSkip, hShorter⟩ := skipString_of_readString hString
      refine passes_of_skipStart hText hShorter.le fun opened => ?_
      simp only [skipStart, hText, hSkip, bind, Except.bind]
  · next after hText =>
      obtain ⟨⟨n, left⟩, hNumber, ⟨⟩⟩ := map_eq_ok h
      have hSkip := skipNumber_of_readNumber hNumber
      refine passes_of_skipStart hText (length_lt_of_skipNumber hSkip).le fun opened => ?_
      simp only [skipStart, hText, hSkip, bind, Except.bind]
  · next inside hText =>
      split at h
      · cases h
      · next value =>
          obtain ⟨hPasses, hSpace⟩ := hDeeper value rfl
          obtain ⟨⟨items, left⟩, hItems, ⟨⟩⟩ := map_eq_ok h
          exact (follows_list hSpace).passes_within hPasses hText
            (fun opened => skipStart_bracket opened hText) hItems
  · next inside hText =>
      split at h
      · cases h
      · next value =>
          obtain ⟨hPasses, -⟩ := hDeeper value rfl
          obtain ⟨⟨members, left⟩, hMembers, ⟨⟩⟩ := map_eq_ok h
          exact (follows_object value).passes_within hPasses hText
            (fun opened => skipStart_brace opened hText) hMembers
  · next hText =>
      split at h
      · next hDigit =>
          obtain ⟨⟨n, left⟩, hNumber, ⟨⟩⟩ := map_eq_ok h
          have hSkip := skipNumber_of_readNumber hNumber
          have hShorter := length_lt_of_skipNumber hSkip
          refine passes_of_skipStart hText (Nat.le_of_lt_succ hShorter) fun opened => ?_
          rw [skipStart_digit opened hText hDigit, hSkip]
          rfl
      · cases h

theorem readValue_skipSpace (levels : Nat) (text : List Char) :
    readValue levels (skipSpace text) = readValue levels text := by
  obtain ⟨deeper, hReader⟩ := exists_readValueWith levels
  rw [hReader, readValueWith, skipSpace_skipSpace]
  rfl

theorem passes_readValue (levels : Nat) : Passes (readValue levels) := by
  induction levels with
  | zero => exact passes_readValueWith (by rintro value ⟨⟩)
  | succ levels ih =>
      refine passes_readValueWith fun value hValue => ?_
      obtain rfl := Option.some.inj hValue
      exact ⟨ih, readValue_skipSpace levels⟩

/-- What can be read can be passed over. -/
theorem skipValue_of_readValue {levels : Nat} {text rest : List Char} {v : Value}
    (h : readValue levels text = .ok (v, rest)) : skipValue text = .ok rest := by
  obtain ⟨-, hSkip⟩ := passes_readValue levels h
  obtain ⟨fewer, -, hValue⟩ := hSkip [] (Nat.lt_succ_self text.length)
  rw [skipValue, hValue]
  rfl

end LogIngest.Json
