import LogIngest.Proofs.Calendar.Zones
import LogIngest.Proofs.Text.Quotes

/-!
Patterns of letters. Main statement: a pattern is a date format exactly when its quotes are closed, its letters
outside of quotes are known, and one of them tells a part of a date or an hour; its layout is then made of its
runs of letters and of its literal texts, in their order, and supplies just what these letters tell.
-/

namespace LogIngest.Calendar.Layout

open Text (Symbol Quoting symbols symbolsFrom doubled quotedLiteral)

/-! ### The pieces of a pattern -/

/-- A piece of a pattern: a letter repeated, or literal text. -/
inductive Piece where
  | run (letter : Char) (count : Nat)
  | text (text : List Char)

/-- A pattern is divided into its runs of letters, each as long as it can be, and the texts between them: bare
characters, doubled apostrophes, and what stands in quotes, with any apostrophes in it doubled. -/
inductive Divides : List Char → List Piece → Prop where
  | nil : Divides [] []
  | run {letter : Char} {count : Nat} {rest : List Char} {pieces : List Piece}
      (hLetter : letter.isAlpha = true) (hCount : 0 < count) (hMaximal : rest.head? ≠ some letter)
      (h : Divides rest pieces) :
      Divides (List.replicate count letter ++ rest) (.run letter count :: pieces)
  | bare {c : Char} {rest : List Char} {pieces : List Piece} (hLetter : c.isAlpha = false)
      (hQuote : c ≠ '\'') (h : Divides rest pieces) : Divides (c :: rest) (.text [c] :: pieces)
  | apostrophe {rest : List Char} {pieces : List Piece} (h : Divides rest pieces) :
      Divides ('\'' :: '\'' :: rest) (.text ['\''] :: pieces)
  | quoted {c : Char} {text rest : List Char} {pieces : List Piece} (hFirst : c ≠ '\'')
      (hEnd : rest.head? ≠ some '\'') (h : Divides rest pieces) :
      Divides ('\'' :: (doubled (c :: text) ++ '\'' :: rest)) (.text (c :: text) :: pieces)

/-- The letters outside of quotes. -/
def lettersOf (pieces : List Piece) : List Char :=
  pieces.filterMap fun
    | .run letter _ => some letter
    | .text _ => none

/-- The part of a layout that a piece stands for. -/
def Piece.translation : Piece → Except LayoutFault (List Char)
  | .run letter count => (ofLetter letter count).map String.toList
  | .text characters => .ok characters

variable {pattern rest text : List Char} {pieces : List Piece} {letter : Char} {count : Nat}

/-! ### Quotes -/

/-- The apostrophes that a reader of quotes has yet to see for all of them to be paired. -/
def openQuotes : Quoting → Nat
  | .outside | .closing => 0
  | .opened | .inside => 1

/-- A pattern has an open quote at its end exactly if the number of its quotes is odd. -/
theorem unterminated_mem_iff (quoting : Quoting) (pattern : List Char) :
    Symbol.unterminated ∈ symbolsFrom quoting pattern ↔
      (pattern.count '\'' + openQuotes quoting) % 2 = 1 := by
  induction pattern generalizing quoting with
  | nil => cases quoting <;> simp [symbolsFrom, openQuotes]
  | cons c rest ih =>
      by_cases hc : c = '\''
      · subst hc
        cases quoting <;> simp [symbolsFrom, openQuotes, ih] <;> omega
      · cases quoting <;> simp [symbolsFrom, openQuotes, ih, hc]

/-- Text in quotes that are closed is doubled text with an apostrophe behind it. -/
theorem exists_quoted (h : pattern.count '\'' % 2 = 1) :
    ∃ text rest, pattern = doubled text ++ '\'' :: rest ∧ rest.head? ≠ some '\'' ∧
      rest.count '\'' % 2 = 0 := by
  generalize hLength : pattern.length = n
  induction n using Nat.strongRecOn generalizing pattern with
  | ind n ih =>
    cases pattern with
    | nil => cases h
    | cons c rest =>
        by_cases hc : c = '\''
        · subst hc
          rw [List.count_cons_self] at h
          cases rest with
          | nil => exact ⟨[], [], rfl, by simp, rfl⟩
          | cons d more =>
              by_cases hd : d = '\''
              · subst hd
                rw [List.count_cons_self] at h
                obtain ⟨text, after, rfl, hEnd, hEven⟩ :=
                  ih more.length (by simp only [List.length_cons] at hLength; omega) (by omega) rfl
                exact ⟨'\'' :: text, after, by simp [doubled], hEnd, hEven⟩
              · exact ⟨[], d :: more, rfl, by simpa using hd, by omega⟩
        · rw [List.count_cons_of_ne hc] at h
          obtain ⟨text, after, rfl, hEnd, hEven⟩ :=
            ih rest.length (by simp only [List.length_cons] at hLength; omega) h rfl
          exact ⟨c :: text, after, by simp [doubled, hc], hEnd, hEven⟩

/-- A pattern starts with a run of its first character. -/
theorem exists_run (c : Char) (rest : List Char) : ∃ count after, 0 < count ∧
    c :: rest = List.replicate count c ++ after ∧ after.head? ≠ some c := by
  induction rest with
  | nil => exact ⟨1, [], by decide, rfl, by simp⟩
  | cons d rest ih =>
      by_cases hd : d = c
      · subst hd
        obtain ⟨count, after, hCount, hText, hEnd⟩ := ih
        exact ⟨count + 1, after, by omega, by rw [List.replicate_succ, List.cons_append, ← hText], hEnd⟩
      · exact ⟨1, d :: rest, by decide, rfl, by simpa using hd⟩

/-- A pattern with closed quotes falls into pieces. -/
theorem exists_divides (h : pattern.count '\'' % 2 = 0) : ∃ pieces, Divides pattern pieces := by
  generalize hLength : pattern.length = n
  induction n using Nat.strongRecOn generalizing pattern with
  | ind n ih =>
    cases pattern with
    | nil => exact ⟨[], .nil⟩
    | cons c rest =>
        rw [List.length_cons] at hLength
        by_cases hc : c = '\''
        · subst hc
          rw [List.count_cons_self] at h
          cases rest with
          | nil => cases h
          | cons d more =>
              by_cases hd : d = '\''
              · subst hd
                rw [List.count_cons_self] at h
                rw [List.length_cons] at hLength
                obtain ⟨pieces, hPieces⟩ := ih more.length (by omega) (by omega) rfl
                exact ⟨_, .apostrophe hPieces⟩
              · have hOdd : (d :: more).count '\'' % 2 = 1 := by omega
                obtain ⟨text, after, hText, hEnd, hEven⟩ := exists_quoted hOdd
                have hShorter : after.length < n := by
                  rw [hText, List.length_append, List.length_cons] at hLength
                  omega
                obtain ⟨pieces, hPieces⟩ := ih _ hShorter hEven rfl
                rw [hText]
                cases text with
                | nil => exact absurd (List.cons.inj hText).1 hd
                | cons e text =>
                    have he : e ≠ '\'' := by
                      rintro rfl
                      exact hd (List.cons.inj hText).1
                    exact ⟨_, .quoted he hEnd hPieces⟩
        · by_cases hLetter : c.isAlpha = true
          · obtain ⟨count, after, hCount, hText, hEnd⟩ := exists_run c rest
            have hQuotes := congrArg (List.count '\'') hText
            rw [List.count_append, List.count_replicate, if_neg (by simpa using hc), Nat.zero_add] at hQuotes
            have hShorter := congrArg List.length hText
            rw [List.length_cons, List.length_append, List.length_replicate] at hShorter
            obtain ⟨pieces, hPieces⟩ := ih after.length (by omega) (hQuotes ▸ h) rfl
            rw [hText]
            exact ⟨_, .run hLetter hCount hEnd hPieces⟩
          · rw [List.count_cons_of_ne hc] at h
            obtain ⟨pieces, hPieces⟩ := ih rest.length (by omega) h rfl
            exact ⟨_, .bare (Bool.eq_false_iff.mpr hLetter) hc hPieces⟩

/-- A quoted text stands for its characters; a quote in it is written twice. -/
theorem symbols_quoted {c : Char} (hFirst : c ≠ '\'') (hEnd : rest.head? ≠ some '\'') :
    symbols ('\'' :: (doubled (c :: text) ++ '\'' :: rest)) =
      (c :: text).map Symbol.literal ++ symbols rest := by
  have hQuoted := Text.symbols_quotedLiteral (c :: text) hEnd
  simpa [quotedLiteral, doubled, hFirst] using hQuoted

/-- A letter is neither a quote nor a percent sign. -/
theorem ne_of_isAlpha (hLetter : letter.isAlpha = true) : letter ≠ '\'' ∧ letter ≠ '%' := by
  constructor
  all_goals
    rintro rfl
    cases hLetter

/-- A run of one letter stands for as many symbols. -/
theorem symbols_run (hLetter : letter.isAlpha = true) (count : Nat) (rest : List Char) :
    symbols (List.replicate count letter ++ rest) =
      List.replicate count (Symbol.plain letter) ++ symbols rest := by
  have hPlain : ∀ c ∈ List.replicate count letter, c ≠ '\'' := by
    intro c hc
    rw [List.eq_of_mem_replicate hc]
    exact (ne_of_isAlpha hLetter).1
  rw [Text.symbols_plain hPlain, List.map_replicate]

/-- Outside of quotes a character stands for itself. -/
theorem symbols_bare {c : Char} (hQuote : c ≠ '\'') (rest : List Char) :
    symbols (c :: rest) = .plain c :: symbols rest := by
  have hPlain : ∀ d ∈ [c], d ≠ '\'' := by simpa using hQuote
  exact Text.symbols_plain hPlain rest

/-- Two quotes outside of quotes are one literal quote. -/
theorem symbols_apostrophe (rest : List Char) :
    symbols ('\'' :: '\'' :: rest) = .literal '\'' :: symbols rest :=
  rfl

/-- A pattern can be divided into pieces exactly when its apostrophes come in pairs. -/
theorem exists_divides_iff : (∃ pieces, Divides pattern pieces) ↔ pattern.count '\'' % 2 = 0 := by
  refine ⟨?_, exists_divides⟩
  rintro ⟨pieces, h⟩
  have hClosed : Symbol.unterminated ∉ symbols pattern := by
    induction h with
    | nil => nofun
    | run hLetter hCount hMaximal h ih => simp [symbols_run hLetter, ih]
    | bare hLetter hQuote h ih => simp [symbols_bare hQuote, ih]
    | apostrophe h ih => simp [symbols_apostrophe, ih]
    | quoted hFirst hEnd h ih => simp [symbols_quoted hFirst hEnd, ih]
  rw [symbols, unterminated_mem_iff, openQuotes] at hClosed
  omega

/-! ### The layout of a pattern -/

/-- The layout that symbols stand for. -/
def assemble (symbols : List Symbol) : Except LayoutFault (List Char) := do
  let parts ← (runs symbols).mapM fun (symbol, count) => ofRun symbol count
  return parts.flatten

/-- The layout of a pattern comes from its symbols, and so does whether it has milliseconds. -/
theorem ofPattern_eq_assemble (pattern : List Char) : ofPattern pattern =
    (assemble (symbols pattern)).map fun layout => (layout, (symbols pattern).contains (.plain 'S')) := by
  unfold ofPattern assemble
  dsimp only
  generalize ((runs (symbols pattern)).mapM fun (symbol, count) => ofRun symbol count) = parts
  cases parts <;> rfl

/-- The character that a symbol stands for by itself, unless it is a letter. -/
inductive IsText : Symbol → Char → Prop where
  | literal (c : Char) : IsText (.literal c) c
  | plain {c : Char} (h : c.isAlpha = false) : IsText (.plain c) c

/-- Characters that stand for themselves are laid out one by one. -/
theorem ofRun_text {symbol : Symbol} {c : Char} (h : IsText symbol c) (count : Nat) :
    ofRun symbol count = .ok (List.replicate count (literalText c)).flatten := by
  cases h with
  | literal c => rfl
  | plain h => simp [ofRun, h]

/-- Text is taken over character by character, however often each is repeated. -/
theorem assemble_text {symbol : Symbol} {c : Char} (h : IsText symbol c) (hc : c ≠ '%')
    (rest : List Symbol) : assemble (symbol :: rest) = (assemble rest).map (c :: ·) := by
  have hText : literalText c = [c] := by simp [literalText, hc]
  unfold assemble
  rw [runs]
  cases hRuns : runs rest with
  | nil => simp [ofRun_text h, hText, bind, Except.bind, pure, Except.pure, Except.map]
  | cons first more =>
      obtain ⟨other, count⟩ := first
      by_cases hSame : symbol = other
      · subst hSame
        simp only [if_true, List.mapM_cons, ofRun_text h, hText]
        cases more.mapM fun (symbol, count) => ofRun symbol count <;>
          simp [bind, Except.bind, pure, Except.pure, Except.map, List.replicate_succ]
      · simp only [if_neg hSame, List.mapM_cons, ofRun_text h, hText]
        cases ofRun other count <;> cases more.mapM fun (symbol, count) => ofRun symbol count <;>
          simp [bind, Except.bind, pure, Except.pure, Except.map]

/-- The first run is one of the first symbol. -/
theorem head?_runs (symbols : List Symbol) : (runs symbols).head?.map Prod.fst = symbols.head? := by
  cases symbols with
  | nil => rfl
  | cons symbol rest =>
      rw [runs]
      split
      · split
        · next hSame => simp [hSame]
        · rfl
      · rfl

/-- Runs say all that the symbols do. -/
theorem flatMap_runs (symbols : List Symbol) :
    ((runs symbols).flatMap fun run => List.replicate run.2 run.1) = symbols := by
  induction symbols with
  | nil => rfl
  | cons symbol rest ih =>
      rw [runs]
      split
      · next other count more hRuns =>
          rw [hRuns, List.flatMap_cons] at ih
          split
          · next hSame =>
              subst hSame
              rw [List.flatMap_cons, List.replicate_succ, List.cons_append, ih]
          · rw [List.flatMap_cons, List.flatMap_cons, ih]
            rfl
      · next hRuns =>
          rw [hRuns] at ih
          rw [← ih]
          rfl

/-- A pattern in which quotes are left open has no layout. -/
theorem exists_divides_of_assemble {layout : List Char} (h : assemble (symbols pattern) = .ok layout) :
    ∃ pieces, Divides pattern pieces := by
  apply exists_divides
  by_contra hOdd
  have hOpen : Symbol.unterminated ∈ symbols pattern := by
    rw [symbols, unterminated_mem_iff, openQuotes]
    omega
  rw [← flatMap_runs (symbols pattern)] at hOpen
  obtain ⟨⟨symbol, count⟩, hRun, hMem⟩ := List.mem_flatMap.mp hOpen
  obtain rfl := List.eq_of_mem_replicate hMem
  obtain ⟨parts, hParts, -⟩ := bind_eq_ok h
  obtain ⟨part, hPart⟩ := exists_mapM_eq_ok_iff.mp ⟨parts, hParts⟩ _ hRun
  cases hPart

/-- A symbol in front of another one is a run by itself. -/
theorem runs_cons_of_ne {symbol : Symbol} {rest : List Symbol} (hEnd : rest.head? ≠ some symbol) :
    runs (symbol :: rest) = (symbol, 1) :: runs rest := by
  have hHead := head?_runs rest
  rw [runs]
  cases hRuns : runs rest with
  | nil => rfl
  | cons first more =>
      rw [hRuns] at hHead
      have hOther : symbol ≠ first.1 := by
        rintro rfl
        exact hEnd hHead.symm
      simp [hOther]

/-- Equal symbols in front of another one are one run. -/
theorem runs_replicate {symbol : Symbol} (hCount : 0 < count) {rest : List Symbol}
    (hEnd : rest.head? ≠ some symbol) :
    runs (List.replicate count symbol ++ rest) = (symbol, count) :: runs rest := by
  induction count with
  | zero => cases hCount
  | succ count ih =>
      rw [List.replicate_succ, List.cons_append]
      by_cases hMore : 0 < count
      · simp [runs, ih hMore]
      · obtain rfl : count = 0 := by omega
        exact runs_cons_of_ne hEnd

/-- A run of a letter is translated as a whole. -/
theorem assemble_run (hLetter : letter.isAlpha = true) (hCount : 0 < count) {rest : List Symbol}
    (hEnd : rest.head? ≠ some (.plain letter)) :
    assemble (List.replicate count (.plain letter) ++ rest) =
      (Piece.run letter count).translation >>= fun part => (assemble rest).map (part ++ ·) := by
  have hRun : ofRun (.plain letter) count = (Piece.run letter count).translation := by
    simp [ofRun, hLetter, Piece.translation]
  unfold assemble
  rw [runs_replicate hCount hEnd, List.mapM_cons]
  simp only [hRun]
  generalize ((runs rest).mapM fun (symbol, count) => ofRun symbol count) = parts
  cases (Piece.run letter count).translation <;> cases parts <;>
    simp [bind, Except.bind, pure, Except.pure, Except.map]

/-- A first symbol that is a bare character is the first character of the pattern. -/
theorem head?_symbols {c : Char} (h : (symbols pattern).head? = some (.plain c)) :
    pattern.head? = some c := by
  cases pattern with
  | nil => cases h
  | cons d rest =>
      by_cases hd : d = '\''
      · subst hd
        cases rest with
        | nil => cases h
        | cons e rest => cases h
      · rw [symbols_bare hd] at h
        cases h
        rfl

/-- The layout that pieces stand for. -/
def ofPieces (pieces : List Piece) : Except LayoutFault (List Char) :=
  (pieces.mapM Piece.translation).map List.flatten

/-- Pieces are laid out one after another. -/
theorem ofPieces_cons (piece : Piece) (pieces : List Piece) : ofPieces (piece :: pieces) =
    piece.translation >>= fun part => (ofPieces pieces).map (part ++ ·) := by
  unfold ofPieces
  rw [List.mapM_cons]
  cases piece.translation <;> cases pieces.mapM Piece.translation <;> rfl

/-- Literal characters in front of other symbols come first in the layout. -/
theorem assemble_texts {texts : List Char} (hTexts : ∀ c ∈ texts, c ≠ '%') (rest : List Symbol) :
    assemble (texts.map Symbol.literal ++ rest) = (assemble rest).map (texts ++ ·) := by
  induction texts with
  | nil => cases hRest : assemble rest <;> simp [hRest, Except.map]
  | cons c texts ih =>
      obtain ⟨hc, hTexts⟩ := List.forall_mem_cons.mp hTexts
      rw [List.map_cons, List.cons_append, assemble_text (.literal c) hc, ih hTexts]
      cases assemble rest <;> rfl

theorem mem_doubled {c : Char} (h : c ∈ text) : c ∈ doubled text := by
  induction text with
  | nil => cases h
  | cons d text ih =>
      unfold doubled
      rcases List.mem_cons.mp h with rfl | h
      · split
        · next hQuote => simp [eq_of_beq hQuote]
        · exact List.mem_cons_self
      · split
        · exact List.mem_cons_of_mem _ (List.mem_cons_of_mem _ (ih h))
        · exact List.mem_cons_of_mem _ (ih h)

/-- The layout of a pattern is that of its pieces. -/
theorem assemble_of_divides (h : Divides pattern pieces) (hPercent : '%' ∉ pattern) :
    assemble (symbols pattern) = ofPieces pieces := by
  induction h with
  | nil => rfl
  | run hLetter hCount hMaximal h ih =>
      rw [List.mem_append, not_or] at hPercent
      rw [symbols_run hLetter, assemble_run hLetter hCount (mt head?_symbols hMaximal), ofPieces_cons,
        ih hPercent.2]
  | @bare c rest pieces hLetter hQuote h ih =>
      rw [List.mem_cons, not_or] at hPercent
      rw [symbols_bare hQuote, assemble_text (.plain hLetter) (Ne.symm hPercent.1), ofPieces_cons,
        ih hPercent.2]
      rfl
  | apostrophe h ih =>
      simp only [List.mem_cons, not_or] at hPercent
      rw [symbols_apostrophe, assemble_text (.literal _) (by decide), ofPieces_cons, ih hPercent.2.2]
      rfl
  | @quoted c text rest pieces hFirst hEnd h ih =>
      simp only [List.mem_cons, List.mem_append, not_or] at hPercent
      have hTexts : ∀ d ∈ c :: text, d ≠ '%' := by
        rintro d hd rfl
        exact hPercent.2.1 (mem_doubled hd)
      rw [symbols_quoted hFirst hEnd, assemble_texts hTexts, ofPieces_cons, ih hPercent.2.2.2]
      rfl

/-- A letter stands outside of quotes if it is one of the pieces. -/
theorem plain_mem_symbols_iff (h : Divides pattern pieces) (hLetter : letter.isAlpha = true) :
    .plain letter ∈ symbols pattern ↔ letter ∈ lettersOf pieces := by
  induction h with
  | nil => exact ⟨nofun, nofun⟩
  | @run other count rest pieces hOther hCount hMaximal h ih =>
      simp [symbols_run hOther, lettersOf, ih, Nat.ne_of_gt hCount]
  | @bare c rest pieces hOther hQuote h ih =>
      have hNe : letter ≠ c := by
        rintro rfl
        rw [hLetter] at hOther
        cases hOther
      simp [symbols_bare hQuote, lettersOf, ih, hNe]
  | apostrophe h ih => simp [symbols_apostrophe, lettersOf, ih]
  | quoted hFirst hEnd h ih => simp [symbols_quoted hFirst hEnd, lettersOf, ih]

/-! ### What letters stand for -/

/-- The letters that patterns have, and those among them that tell a part of a date or an hour. -/
def patternLetters : List Char :=
  "yMLdDHkhKmsSaEuZXz".toList

def componentLetters : List Char :=
  "yMLdDHkhK".toList

/-- The letters of specifiers for each kind of component, and the letters of patterns for it. -/
def suppliedBy : List (String × String) :=
  [("YCyGgFDxc+", "y"), ("mbBhFDxc+", "ML"), ("deFDxc+", "d"), ("j", "D"), ("HkTXRc+", "Hk"),
    ("Ilr", "hK"), ("pPr", "a"), ("MTXRrc+", "m"), ("STXrc+", "s"), ("zZ+", "ZXz"), ("s", "")]

/-- Every run of a letter that patterns have is a specifier, of the same kind of component. -/
theorem ofLetter_eq_ok {specifier : String} (h : ofLetter letter count = .ok specifier) :
    letter ∈ patternLetters ∧ ∃ c its, specifier.toList = ['%', c] ∧ Item.ofLetter? c = some its ∧
      ∀ names ∈ suppliedBy, names.1.toList.contains c = names.2.toList.contains letter := by
  -- A letter that has several specifiers has them for the same kind of component.
  have hOf {text : String} {c : Char} {its : List Item} (hText : text.toList = ['%', c])
      (hItems : Item.ofLetter? c = some its) (hLetter : letter ∈ patternLetters)
      (hNames : ∀ names ∈ suppliedBy, names.1.toList.contains c = names.2.toList.contains letter)
      (h : Except.ok text = (Except.ok specifier : Except LayoutFault String)) :
      letter ∈ patternLetters ∧ ∃ c its, specifier.toList = ['%', c] ∧ Item.ofLetter? c = some its ∧
        ∀ names ∈ suppliedBy, names.1.toList.contains c = names.2.toList.contains letter := by
    cases h
    exact ⟨hLetter, c, its, hText, hItems, hNames⟩
  unfold ofLetter at h
  split at h
  case h_1 =>
    split at h
    · exact hOf (c := 'y') (by decide) rfl (by decide) (by decide) h
    · exact hOf (c := 'Y') (by decide) rfl (by decide) (by decide) h
  case h_2 | h_3 =>
    split at h
    · exact hOf (c := 'm') (by decide) rfl (by decide) (by decide) h
    · split at h
      · exact hOf (c := 'b') (by decide) rfl (by decide) (by decide) h
      · exact hOf (c := 'B') (by decide) rfl (by decide) (by decide) h
  case h_4 => exact hOf (c := 'd') (by decide) rfl (by decide) (by decide) h
  case h_5 => exact hOf (c := 'j') (by decide) rfl (by decide) (by decide) h
  case h_6 | h_7 => exact hOf (c := 'H') (by decide) rfl (by decide) (by decide) h
  case h_8 | h_9 => exact hOf (c := 'I') (by decide) rfl (by decide) (by decide) h
  case h_10 => exact hOf (c := 'M') (by decide) rfl (by decide) (by decide) h
  case h_11 => exact hOf (c := 'S') (by decide) rfl (by decide) (by decide) h
  case h_12 => exact hOf (c := 'f') (by decide) rfl (by decide) (by decide) h
  case h_13 => exact hOf (c := 'p') (by decide) rfl (by decide) (by decide) h
  case h_14 =>
    split at h
    · exact hOf (c := 'a') (by decide) rfl (by decide) (by decide) h
    · exact hOf (c := 'A') (by decide) rfl (by decide) (by decide) h
  case h_15 => exact hOf (c := 'u') (by decide) rfl (by decide) (by decide) h
  case h_16 | h_17 | h_18 => exact hOf (c := 'z') (by decide) rfl (by decide) (by decide) h
  case h_19 => cases h

/-- Every letter that is known has a specifier, in any number. -/
theorem exists_ofLetter (h : letter ∈ patternLetters) (count : Nat) :
    ∃ specifier, ofLetter letter count = .ok specifier := by
  have hLetters : patternLetters = ['y', 'M', 'L', 'd', 'D', 'H', 'k', 'h', 'K', 'm', 's', 'S', 'a', 'E',
      'u', 'Z', 'X', 'z'] := rfl
  rw [hLetters] at h
  simp only [List.mem_cons, List.not_mem_nil, or_false] at h
  rcases h with rfl | rfl | rfl | rfl | rfl | rfl | rfl | rfl | rfl | rfl | rfl | rfl | rfl | rfl | rfl |
    rfl | rfl | rfl
  all_goals exact ⟨_, rfl⟩

/-- Pieces have a layout if their letters are known. -/
theorem exists_ofPieces_iff : (∃ layout, ofPieces pieces = .ok layout) ↔
    ∀ letter ∈ lettersOf pieces, letter ∈ patternLetters := by
  have hParts : (∃ layout, ofPieces pieces = .ok layout) ↔
      ∃ parts, pieces.mapM Piece.translation = .ok parts := by
    constructor
    · rintro ⟨layout, h⟩
      obtain ⟨parts, hParts, -⟩ := map_eq_ok h
      exact ⟨parts, hParts⟩
    · rintro ⟨parts, hParts⟩
      exact ⟨parts.flatten, by rw [ofPieces, hParts]; rfl⟩
  rw [hParts, exists_mapM_eq_ok_iff]
  constructor
  · intro h letter hLetter
    obtain ⟨piece, hPiece, hRun⟩ := List.mem_filterMap.mp hLetter
    cases piece with
    | text text => cases hRun
    | run other count =>
        obtain rfl := Option.some.inj hRun
        obtain ⟨part, hPart⟩ := h _ hPiece
        obtain ⟨specifier, hSpecifier, -⟩ := map_eq_ok hPart
        exact (ofLetter_eq_ok hSpecifier).1
  · intro h piece hPiece
    cases piece with
    | text text => exact ⟨text, rfl⟩
    | run letter count =>
        obtain ⟨specifier, hSpecifier⟩ :=
          exists_ofLetter (h letter (List.mem_filterMap.mpr ⟨_, hPiece, rfl⟩)) count
        exact ⟨specifier.toList, by rw [Piece.translation, hSpecifier]; rfl⟩

/-- A pattern without percent signs has none in its texts. -/
theorem percent_not_mem_text (h : Divides pattern pieces) (hPercent : '%' ∉ pattern)
    (hText : .text text ∈ pieces) : '%' ∉ text := by
  induction h with
  | nil => cases hText
  | run hLetter hCount hMaximal h ih =>
      simp only [List.mem_cons, List.mem_append, not_or, reduceCtorEq, false_or] at hPercent hText
      exact ih hPercent.2 hText
  | bare hLetter hQuote h ih =>
      simp only [List.mem_cons, not_or, Piece.text.injEq] at hPercent hText
      rcases hText with rfl | hText
      · simpa using hPercent.1
      · exact ih hPercent.2 hText
  | apostrophe h ih =>
      simp only [List.mem_cons, not_or, Piece.text.injEq] at hPercent hText
      rcases hText with rfl | hText
      · decide
      · exact ih hPercent.2.2 hText
  | quoted hFirst hEnd h ih =>
      simp only [List.mem_cons, List.mem_append, not_or, Piece.text.injEq] at hPercent hText
      rcases hText with rfl | hText
      · exact mt mem_doubled hPercent.2.1
      · exact ih hPercent.2.2.2 hText

/-- The layout of pieces has items, and its letters name what the letters of the pieces name. -/
theorem letters_of_ofPieces {layout : List Char} (hTexts : ∀ text, .text text ∈ pieces → '%' ∉ text)
    (h : ofPieces pieces = .ok layout) : (∃ items, Item.ofLayout? layout = some items) ∧
      ∀ names ∈ suppliedBy, ((letters false layout).any fun c => names.1.toList.contains c) =
        (lettersOf pieces).any fun c => names.2.toList.contains c := by
  induction pieces generalizing layout with
  | nil =>
      obtain rfl := Except.ok.inj h
      exact ⟨⟨[], rfl⟩, fun _ _ => rfl⟩
  | cons piece pieces ih =>
      rw [ofPieces_cons] at h
      obtain ⟨part, hPart, h⟩ := bind_eq_ok h
      obtain ⟨rest, hRest, rfl⟩ := map_eq_ok h
      obtain ⟨⟨items, hItems⟩, hNames⟩ :=
        ih (fun text hText => hTexts text (List.mem_cons_of_mem _ hText)) hRest
      cases piece with
      | text text =>
          obtain rfl := Except.ok.inj hPart
          have hText := hTexts text List.mem_cons_self
          rw [Item.ofLayout?_text hText, Item.letters_text hText, hItems]
          exact ⟨⟨_, rfl⟩, hNames⟩
      | run letter count =>
          obtain ⟨specifier, hSpecifier, rfl⟩ := map_eq_ok hPart
          obtain ⟨-, c, its, hText, hLetter, hSame⟩ := ofLetter_eq_ok hSpecifier
          rw [hText, List.cons_append, List.cons_append, List.nil_append, Item.ofLayout?_percent hLetter,
            Item.letters_percent hLetter, hItems]
          refine ⟨⟨_, rfl⟩, fun names hMem => ?_⟩
          rw [List.any_cons, hSame names hMem, hNames names hMem]
          rfl

end LogIngest.Calendar.Layout

namespace LogIngest.Calendar.Supply

/-- The components that the letters of a pattern name. -/
def ofPatternLetters (letters : List Char) : Supply :=
  let anyOf (names : String) : Bool := letters.any fun c => names.toList.contains c
  { year := anyOf "y"
    month := anyOf "ML"
    day := anyOf "d"
    ordinal := anyOf "D"
    hour := anyOf "Hk"
    hourOfHalf := anyOf "hK"
    half := anyOf "a"
    minute := anyOf "m"
    second := anyOf "s"
    zone := anyOf "ZXz"
    stamp := false }

variable {layout letters : List Char}

/-- What a layout supplies can be told from the letters of its pattern. -/
theorem ofLayout_eq_ofPatternLetters
    (h : ∀ names ∈ Layout.suppliedBy, ((Layout.letters false layout).any fun c =>
      names.1.toList.contains c) = letters.any fun c => names.2.toList.contains c) :
    ofLayout layout = ofPatternLetters letters := by
  simp only [Layout.suppliedBy, List.forall_mem_cons] at h
  obtain ⟨hYear, hMonth, hDay, hOrdinal, hHour, hHourOfHalf, hHalf, hMinute, hSecond, hZone, hStamp,
    -⟩ := h
  have hNoStamp : (letters.any fun c => "".toList.contains c) = false := by simp
  simp only [ofLayout, ofPatternLetters, hYear, hMonth, hDay, hOrdinal, hHour, hHourOfHalf, hHalf, hMinute,
    hSecond, hZone, hStamp, hNoStamp]

/-- Something is supplied exactly if some letter tells a component. -/
theorem any_ofPatternLetters : (ofPatternLetters letters).any = true ↔
    ∃ letter ∈ letters, letter ∈ Layout.componentLetters := by
  have hSplit : Layout.componentLetters =
      "y".toList ++ "ML".toList ++ "d".toList ++ "D".toList ++ "Hk".toList ++ "hK".toList := rfl
  have hAny : (ofPatternLetters letters).any =
      letters.any fun c => Layout.componentLetters.contains c := by
    simp only [hSplit, any_contains_append, any, ofPatternLetters, Bool.or_false]
  simp only [hAny, List.any_eq_true, List.contains_iff_mem]

end LogIngest.Calendar.Supply

namespace LogIngest.DateFormat

open Calendar

variable {pattern : String} {format : DateFormat}

/-- Without percent signs a pattern is one of letters, not a layout already. -/
theorem layoutOf_eq_assemble {pattern : List Char} (hPercent : '%' ∉ pattern) : layoutOf pattern =
    (Layout.assemble (Text.symbols pattern)).map fun layout =>
      (layout, (Text.symbols pattern).contains (.plain 'S')) := by
  have hNone : pattern.contains '%' = false := by simpa using hPercent
  rw [layoutOf, hNone, if_neg Bool.false_ne_true, Layout.ofPattern_eq_assemble]

/-- The layout of a pattern is that of its pieces, and milliseconds are read if one of them is an S. -/
theorem layoutOf_of_divides {pattern : List Char} {pieces : List Layout.Piece} (hPercent : '%' ∉ pattern)
    (h : Layout.Divides pattern pieces) : layoutOf pattern =
      (Layout.ofPieces pieces).map fun layout => (layout, (Layout.lettersOf pieces).contains 'S') := by
  have hMillis : (Text.symbols pattern).contains (.plain 'S') = (Layout.lettersOf pieces).contains 'S' := by
    rw [Bool.eq_iff_iff, List.contains_iff_mem, List.contains_iff_mem,
      Layout.plain_mem_symbols_iff h (by decide)]
  rw [layoutOf_eq_assemble hPercent, Layout.assemble_of_divides h hPercent, hMillis]

/-- A pattern that has a layout can be divided. -/
theorem exists_divides_of_layoutOf {pattern layout : List Char} {millis : Bool} (hPercent : '%' ∉ pattern)
    (h : layoutOf pattern = .ok (layout, millis)) : ∃ pieces, Layout.Divides pattern pieces := by
  rw [layoutOf_eq_assemble hPercent] at h
  obtain ⟨layout, hLayout, -⟩ := map_eq_ok h
  exact Layout.exists_divides_of_assemble hLayout

/-- What the layout of pieces supplies, their letters tell. -/
theorem ofLayout_of_divides {pattern layout : List Char} {pieces : List Layout.Piece}
    (hPercent : '%' ∉ pattern) (hDivides : Layout.Divides pattern pieces)
    (h : Layout.ofPieces pieces = .ok layout) :
    (∃ items, Item.ofLayout? layout = some items) ∧
      Supply.ofLayout layout = .ofPatternLetters (Layout.lettersOf pieces) := by
  obtain ⟨hItems, hNames⟩ :=
    Layout.letters_of_ofPieces (fun _ hText => Layout.percent_not_mem_text hDivides hPercent hText) h
  exact ⟨hItems, Supply.ofLayout_eq_ofPatternLetters hNames⟩

/-- A pattern without percent signs makes a format exactly if its apostrophes come in pairs, its letters outside
of quotes are known, and one of them tells a part of a date or an hour. Then the layout is made of what the runs
of letters stand for and of the literal texts, in their order; milliseconds are read, and each component is
supplied, exactly if a letter outside of quotes says so. -/
theorem letterPattern_compiled (hPercent : '%' ∉ pattern.toList) :
    ((∃ pieces, Layout.Divides pattern.toList pieces) ↔ pattern.toList.count '\'' % 2 = 0) ∧
      ((∃ format, ofPattern pattern none = .ok format) ↔
        ∃ pieces, Layout.Divides pattern.toList pieces ∧
          (∀ letter ∈ Layout.lettersOf pieces, letter ∈ Layout.patternLetters) ∧
          ∃ letter ∈ Layout.lettersOf pieces, letter ∈ Layout.componentLetters) ∧
      ∀ format pieces, ofPattern pattern none = .ok format → Layout.Divides pattern.toList pieces →
        ∃ parts, pieces.mapM Layout.Piece.translation = .ok parts ∧
          layoutOf pattern.toList = .ok (parts.flatten, format.millis) ∧
          Item.ofLayout? parts.flatten = some format.items ∧
          (format.millis = true ↔ 'S' ∈ Layout.lettersOf pieces) ∧
          format.supply = .ofPatternLetters (Layout.lettersOf pieces) := by
  refine ⟨Layout.exists_divides_iff, ?_, ?_⟩
  · constructor
    · rintro ⟨format, h⟩
      obtain ⟨⟨layout, hCompiled⟩, -⟩ := ofPattern_none_eq_ok_iff.mp h
      have hTurned := hCompiled.turned
      obtain ⟨pieces, hDivides⟩ := exists_divides_of_layoutOf hPercent hTurned
      rw [layoutOf_of_divides hPercent hDivides] at hTurned
      obtain ⟨found, hLayout, hSame⟩ := map_eq_ok hTurned
      obtain ⟨rfl, -⟩ := Prod.mk.inj hSame
      have hComponent := hCompiled.component
      rw [hCompiled.supply, (ofLayout_of_divides hPercent hDivides hLayout).2] at hComponent
      exact ⟨pieces, hDivides, Layout.exists_ofPieces_iff.mp ⟨found, hLayout⟩,
        Supply.any_ofPatternLetters.mp hComponent⟩
    · rintro ⟨pieces, hDivides, hLetters, hComponent⟩
      obtain ⟨layout, hLayout⟩ := Layout.exists_ofPieces_iff.mpr hLetters
      obtain ⟨⟨items, hItems⟩, hSupply⟩ := ofLayout_of_divides hPercent hDivides hLayout
      have hTurned := layoutOf_of_divides hPercent hDivides
      rw [hLayout] at hTurned
      refine ⟨⟨pattern, items, .ofLayout layout, _, .zero⟩, ofPattern_none_eq_ok_iff.mpr
        ⟨⟨layout, rfl, hTurned, hItems, rfl, ?_⟩, rfl⟩⟩
      rw [hSupply]
      exact Supply.any_ofPatternLetters.mpr hComponent
  · intro format pieces h hDivides
    obtain ⟨⟨layout, hCompiled⟩, -⟩ := ofPattern_none_eq_ok_iff.mp h
    have hTurned := hCompiled.turned
    rw [layoutOf_of_divides hPercent hDivides] at hTurned
    obtain ⟨found, hLayout, hSame⟩ := map_eq_ok hTurned
    obtain ⟨rfl, hMillis⟩ := Prod.mk.inj hSame
    obtain ⟨parts, hParts, rfl⟩ := map_eq_ok hLayout
    refine ⟨parts, hParts, hCompiled.turned, hCompiled.items, ?_, ?_⟩
    · rw [← hMillis, List.contains_iff_mem]
    · rw [hCompiled.supply, (ofLayout_of_divides hPercent hDivides hLayout).2]

/-- The pieces of a pattern with letters and an apostrophe in quotes. -/
theorem divides_quotes : Layout.Divides "yyyy-MM 'o''clock Z'".toList
    [.run 'y' 4, .text ['-'], .run 'M' 2, .text [' '], .text "o'clock Z".toList] := by
  have hQuoted : Layout.Divides "'o''clock Z'".toList [.text "o'clock Z".toList] :=
    @Layout.Divides.quoted 'o' "'clock Z".toList [] [] (by decide) (by decide) .nil
  have hMonths : Layout.Divides "MM 'o''clock Z'".toList
      [.run 'M' 2, .text [' '], .text "o'clock Z".toList] :=
    @Layout.Divides.run 'M' 2 _ _ (by decide) (by decide) (by decide)
      (.bare (by decide) (by decide) hQuoted)
  exact @Layout.Divides.run 'y' 4 _ _ (by decide) (by decide) (by decide)
    (.bare (by decide) (by decide) hMonths)

/-- Letters in quotes are text, of which no zone is read. -/
theorem letterPattern_compiled_quotes : '%' ∉ "yyyy-MM 'o''clock Z'".toList ∧ ∃ format,
    ofPattern "yyyy-MM 'o''clock Z'" none = .ok format ∧
      layoutOf "yyyy-MM 'o''clock Z'".toList = .ok ("%Y-%m o'clock Z".toList, false) ∧
      format.supply.zone = false := by
  have hPercent : '%' ∉ "yyyy-MM 'o''clock Z'".toList := by decide
  obtain ⟨-, hAccepted, hCompiled⟩ := letterPattern_compiled hPercent
  have hLetters : ∀ letter ∈ ['y', 'M'], letter ∈ Layout.patternLetters :=
    List.forall_mem_cons.mpr ⟨by decide, List.forall_mem_singleton.mpr (by decide)⟩
  obtain ⟨format, hFormat⟩ := hAccepted.mpr ⟨_, divides_quotes, hLetters, 'y', by decide, by decide⟩
  obtain ⟨parts, hParts, hLayout, -, hMillis, hSupply⟩ := hCompiled format _ hFormat divides_quotes
  obtain rfl := Except.ok.inj hParts
  have hNoMillis : format.millis = false := by
    rw [Bool.eq_false_iff, ne_eq, hMillis]
    decide
  exact ⟨hPercent, format, hFormat, hNoMillis ▸ hLayout, by rw [hSupply]; rfl⟩

end LogIngest.DateFormat
