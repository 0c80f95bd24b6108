import Mathlib.Data.Nat.Find
import LogIngest.Proofs.Number.Scanning
import LogIngest.Proofs.Text.Trimming

/-!
The grammar of numbers in texts. Main statement: what is taken as a number is the longest run at the start of the
text that the grammar allows, and there is one exactly if that run has a digit in it.
-/

namespace LogIngest.NumberFormat

variable {grouping : Bool} {text body run other rest : List Char} {n : Int}

/-! ### The grammar -/

/-- Some characters have a digit among them. -/
def HasDigit (text : List Char) : Prop :=
  ∃ c ∈ text, c.isDigit = true

/-- Digits, with at most one point among them and, where digits are grouped, with commas that follow a digit and
come before any point. -/
structure IsMantissa (grouping : Bool) (text : List Char) : Prop where
  chars : ∀ c ∈ text, c.isDigit = true ∨ c = '.' ∨ c = ','
  onePoint : text.count '.' ≤ 1
  commas : ∀ before after, text = before ++ ',' :: after →
    grouping = true ∧ HasDigit before ∧ '.' ∉ before

/-- A mantissa, and behind one with a digit an exponent: the letter E and digits, with a sign or without. -/
inductive IsRun (grouping : Bool) : List Char → Prop where
  | mantissa {mantissa : List Char} (h : IsMantissa grouping mantissa) : IsRun grouping mantissa
  | exponent {mantissa exponent : List Char} {n : Int} (h : IsMantissa grouping mantissa)
      (hDigit : HasDigit mantissa) (hExponent : IsNumeral exponent n) :
      IsRun grouping (mantissa ++ 'E' :: exponent)

/-- The longest run at the start of a text. -/
structure IsLongestRun (grouping : Bool) (body run : List Char) : Prop where
  starts : run <+: body
  isRun : IsRun grouping run
  longest : ∀ other, other <+: body → IsRun grouping other → other.length ≤ run.length

theorem IsMantissa.nil : IsMantissa grouping [] where
  chars := nofun
  onePoint := by decide
  commas before after h := by simp at h

/-- What a mantissa starts with is one. -/
theorem IsMantissa.of_prefix (h : IsMantissa grouping text) (hStarts : run <+: text) :
    IsMantissa grouping run := by
  obtain ⟨more, rfl⟩ := hStarts
  constructor
  · exact fun c hc => h.chars c (List.mem_append_left more hc)
  · have hPoints := h.onePoint
    rw [List.count_append] at hPoints
    omega
  · rintro before after rfl
    exact h.commas before (after ++ more) (by simp)

theorem IsLongestRun.unique (h : IsLongestRun grouping body run) (hOther : IsLongestRun grouping body other) :
    run = other := by
  have hLength := Nat.le_antisymm (hOther.longest run h.starts h.isRun)
    (h.longest other hOther.starts hOther.isRun)
  exact (List.prefix_of_prefix_length_le h.starts hOther.starts (Nat.le_of_eq hLength)).eq_of_length hLength

/-- Every text starts with a longest run, which may be empty. -/
theorem exists_longestRun (grouping : Bool) (body : List Char) : ∃ run, IsLongestRun grouping body run := by
  classical
  let length := Nat.findGreatest (fun length => IsRun grouping (body.take length)) body.length
  have hRun : IsRun grouping (body.take length) := by
    refine Nat.findGreatest_spec (P := fun length => IsRun grouping (body.take length)) (Nat.zero_le _) ?_
    exact .mantissa IsMantissa.nil
  refine ⟨body.take length, List.take_prefix _ _, hRun, fun other hStarts hOther => ?_⟩
  have hTake : body.take other.length = other := (List.prefix_iff_eq_take.mp hStarts).symm
  have hMost : other.length ≤ length :=
    Nat.le_findGreatest hStarts.length_le (by rwa [hTake])
  rw [List.length_take]
  exact Nat.le_min.mpr ⟨hMost, hStarts.length_le⟩

/-! ### Exponents -/

/-- Behind its first character a numeral has nothing but digits. -/
theorem isDigit_of_isNumeral {first : Char} {more : List Char} (h : IsNumeral (first :: more) n) :
    ∀ c ∈ more, c.isDigit = true := by
  cases h with
  | unsigned hSome hDigits => exact fun c hc => hDigits c (List.mem_cons_of_mem first hc)
  | positive hSome hDigits | negative hSome hDigits => exact hDigits

theorem chars_of_isNumeral (h : IsNumeral text n) : ∀ c ∈ text, c.isDigit = true ∨ c = '+' ∨ c = '-' := by
  cases h with
  | unsigned hSome hDigits => exact fun c hc => .inl (hDigits c hc)
  | positive hSome hDigits =>
      exact List.forall_mem_cons.mpr ⟨.inr (.inl rfl), fun c hc => .inl (hDigits c hc)⟩
  | negative hSome hDigits =>
      exact List.forall_mem_cons.mpr ⟨.inr (.inr rfl), fun c hc => .inl (hDigits c hc)⟩

theorem ne_nil_of_isNumeral (h : IsNumeral text n) : text ≠ [] := by
  cases h with
  | unsigned hSome => exact hSome
  | positive | negative => exact List.cons_ne_nil _ _

/-- A numeral behind which no digit stands is the longest one at its place. -/
theorem length_le_of_isNumeral {m : Int} (h : IsNumeral text n) (hOther : IsNumeral other m)
    (hRest : ∀ c ∈ rest.head?, c.isDigit = false) (hStarts : other <+: text ++ rest) :
    other.length ≤ text.length := by
  by_contra hLonger
  obtain ⟨more, rfl⟩ := List.prefix_of_prefix_length_le (List.prefix_append text rest) hStarts (by omega)
  rw [List.prefix_append_right_inj] at hStarts
  obtain ⟨first, behind, rfl⟩ := List.exists_cons_of_ne_nil (ne_nil_of_isNumeral h)
  cases more with
  | nil => simp at hLonger
  | cons c more =>
      have hDigit : c.isDigit = true := isDigit_of_isNumeral hOther c (by simp)
      obtain ⟨after, rfl⟩ := hStarts
      rw [hRest c (by simp)] at hDigit
      cases hDigit

/-- The sign of an exponent, and the text behind it. -/
def exponentSign (text : List Char) : Bool × List Char :=
  match text with
  | '-' :: digits => (true, digits)
  | '+' :: digits => (false, digits)
  | _ => (false, text)

/-- Digits behind the sign are a numeral with it. -/
theorem exists_exponentSign (text : List Char) : ∃ sign, text = sign ++ (exponentSign text).2 ∧
    ∀ digits, digits ≠ [] → (∀ c ∈ digits, c.isDigit = true) → IsNumeral (sign ++ digits)
      (if (exponentSign text).1 then -(digitsValue digits : Int) else digitsValue digits) := by
  unfold exponentSign
  split
  · exact ⟨['-'], rfl, fun digits hSome hDigits => .negative hSome hDigits⟩
  · exact ⟨['+'], rfl, fun digits hSome hDigits => .positive hSome hDigits⟩
  · exact ⟨[], rfl, fun digits hSome hDigits => .unsigned hSome hDigits⟩

/-- A numeral has a digit behind its sign. -/
theorem isDigit_of_exponentSign (h : IsNumeral text n) (rest : List Char) :
    ∃ c ∈ (exponentSign (text ++ rest)).2.head?, c.isDigit = true := by
  have hFirst {digits : List Char} (hSome : digits ≠ []) (hDigits : ∀ c ∈ digits, c.isDigit = true) :
      ∃ c ∈ (digits ++ rest).head?, c.isDigit = true := by
    obtain ⟨c, more, rfl⟩ := List.exists_cons_of_ne_nil hSome
    exact ⟨c, rfl, hDigits c List.mem_cons_self⟩
  cases h with
  | positive hSome hDigits | negative hSome hDigits => exact hFirst hSome hDigits
  | unsigned hSome hDigits =>
      obtain ⟨c, more, rfl⟩ := List.exists_cons_of_ne_nil hSome
      have hDigit := hDigits c List.mem_cons_self
      have hMinus : c ≠ '-' := by rintro rfl; cases hDigit
      have hPlus : c ≠ '+' := by rintro rfl; cases hDigit
      refine ⟨c, ?_, hDigit⟩
      simp [exponentSign, hMinus, hPlus]

/-- The exponent that digits behind a sign make, or none where there are no digits. -/
def exponentOfDigits (text : List Char) (signed : Bool × List Char) : Option Int × List Char :=
  match takeDigits signed.2 with
  | ([], _) => (none, text)
  | (digits, rest) => (some (if signed.1 then -(digitsValue digits : Int) else digitsValue digits), rest)

theorem takeExponent_mark (text : List Char) : takeExponent ('E' :: text) =
    if (exponentSign text).2.takeWhile Char.isDigit = [] then (none, 'E' :: text)
    else
      let digits := (exponentSign text).2.takeWhile Char.isDigit
      (some (if (exponentSign text).1 then -(digitsValue digits : Int) else digitsValue digits),
        (exponentSign text).2.dropWhile Char.isDigit) := by
  have hTake : takeExponent ('E' :: text) = exponentOfDigits ('E' :: text) (exponentSign text) := by
    unfold takeExponent exponentSign
    split
    · next more hText =>
        obtain rfl := (List.cons.inj hText).2
        rfl
    · next hOther => exact absurd rfl (hOther text)
  rw [hTake, exponentOfDigits, takeDigits]
  cases (exponentSign text).2.takeWhile Char.isDigit <;> rfl

/-- There is an exponent at the start of a text where something is taken as one. -/
theorem takeExponent_eq_some (h : takeExponent text = (some n, rest)) : ∃ numeral,
    text = 'E' :: (numeral ++ rest) ∧ IsNumeral numeral n ∧ ∀ c ∈ rest.head?, c.isDigit = false := by
  obtain ⟨more, rfl⟩ : ∃ more, text = 'E' :: more := by
    unfold takeExponent at h
    split at h
    · exact ⟨_, rfl⟩
    · cases h
  rw [takeExponent_mark] at h
  split at h
  · cases h
  · next hSome =>
      obtain ⟨rfl, rfl⟩ : _ ∧ _ := by simpa using h
      obtain ⟨sign, hMore, hNumeral⟩ := exists_exponentSign more
      have hDigits := hNumeral _ hSome fun c hc => List.mem_takeWhile_imp hc
      refine ⟨_, ?_, hDigits, fun c hc => Text.head?_dropWhile hc⟩
      rw [List.append_assoc, List.takeWhile_append_dropWhile, ← hMore]

/-- Where nothing is taken as an exponent, there is none. -/
theorem takeExponent_eq_none (h : takeExponent text = (none, rest)) : rest = text ∧
    ∀ numeral n behind, IsNumeral numeral n → text ≠ 'E' :: (numeral ++ behind) := by
  by_cases hMark : ∃ more, text = 'E' :: more
  · obtain ⟨more, rfl⟩ := hMark
    rw [takeExponent_mark] at h
    split at h
    · next hEmpty =>
        obtain rfl := (Prod.mk.inj h).2
        refine ⟨rfl, fun numeral n behind hNumeral hText => ?_⟩
        obtain ⟨c, hc, hDigit⟩ := isDigit_of_exponentSign hNumeral behind
        rw [← (List.cons.inj hText).2] at hc
        obtain ⟨digits, hDigits⟩ := List.head?_eq_some_iff.mp hc
        rw [hDigits, List.takeWhile_cons_of_pos hDigit] at hEmpty
        cases hEmpty
    · cases (Prod.mk.inj h).1
  · refine ⟨?_, fun numeral n behind _ hText => hMark ⟨_, hText⟩⟩
    unfold takeExponent at h
    split at h
    · next more => exact absurd ⟨more, rfl⟩ hMark
    · exact (Prod.mk.inj h).2.symm

/-! ### What is taken -/

/-- The point and the digits behind it, where there are any. -/
def pointText : Option (List Char) → List Char
  | none => []
  | some places => '.' :: places

/-- How a mantissa spells the digits of a numeral. -/
structure SpellsDigits (grouping : Bool) (mantissa : List Char) (whole : List Char)
    (places : Option (List Char)) : Prop where
  spelling : ∃ written, mantissa = written ++ pointText places ∧ written.filter (· != ',') = whole ∧
    (∀ c ∈ written, c.isDigit = true ∨ c = ',' ∧ grouping = true) ∧ ∀ c ∈ written.head?, c.isDigit = true
  places : ∀ digits ∈ places, ∀ c ∈ digits, c.isDigit = true

/-- How the text behind a mantissa spells the exponent of a numeral. -/
inductive SpellsExponent : Option Int → List Char → Prop where
  | none : SpellsExponent none []
  | some {numeral : List Char} {n : Int} (h : IsNumeral numeral n) : SpellsExponent (some n) ('E' :: numeral)

theorem takeGrouped_spec (grouping started : Bool) (text : List Char) : ∃ written,
    text = written ++ (takeGrouped grouping started text).2 ∧
      written.filter (· != ',') = (takeGrouped grouping started text).1 ∧
      (∀ c ∈ written, c.isDigit = true ∨ c = ',' ∧ grouping = true) ∧
      (started = false → ∀ c ∈ written.head?, c.isDigit = true) ∧
      ∀ c ∈ (takeGrouped grouping started text).2.head?, c.isDigit = false ∧
        ¬(c = ',' ∧ grouping = true ∧ (started = true ∨ written ≠ [])) := by
  fun_induction takeGrouped grouping started text with
  | case1 started => exact ⟨[], rfl, rfl, nofun, fun _ => nofun, nofun⟩
  | case2 started c rest hDigit digits behind hTaken ih =>
      obtain ⟨written, hText, hDigits, hChars, -, hStops⟩ := ih
      rw [hTaken] at hText hDigits hStops
      have hComma : c ≠ ',' := by
        rintro rfl
        cases hDigit
      refine ⟨c :: written, by rw [hText, List.cons_append], ?_, List.forall_mem_cons.mpr ⟨.inl hDigit, hChars⟩,
        fun _ d hd => Option.some.inj hd ▸ hDigit, fun d hd => ?_⟩
      · rw [List.filter_cons_of_pos (by simpa using hComma), hDigits]
      · obtain ⟨hNoDigit, hNoComma⟩ := hStops d hd
        exact ⟨hNoDigit, fun h => hNoComma ⟨h.1, h.2.1, .inl rfl⟩⟩
  | case3 started c rest hDigit hComma ih =>
      obtain ⟨written, hText, hDigits, hChars, -, hStops⟩ := ih
      simp only [Bool.and_eq_true, beq_iff_eq] at hComma
      obtain ⟨⟨rfl, hGrouping⟩, rfl⟩ := hComma
      refine ⟨',' :: written, by rw [List.cons_append, ← hText], hDigits,
        List.forall_mem_cons.mpr ⟨.inr ⟨rfl, hGrouping⟩, hChars⟩, nofun, fun d hd => ?_⟩
      obtain ⟨hNoDigit, hNoComma⟩ := hStops d hd
      exact ⟨hNoDigit, fun h => hNoComma ⟨h.1, h.2.1, .inl rfl⟩⟩
  | case4 started c rest hDigit hComma =>
      refine ⟨[], rfl, rfl, nofun, fun _ => nofun, fun d hd => ?_⟩
      obtain rfl := Option.some.inj hd
      refine ⟨Bool.eq_false_iff.mpr hDigit, ?_⟩
      rintro ⟨rfl, hGrouping, hStarted | hSome⟩
      · simp [hGrouping, hStarted] at hComma
      · exact hSome rfl

section

variable {mantissa whole after : List Char} {places : Option (List Char)} {numeral : Numeral}

theorem pointText_chars (hPlaces : ∀ digits ∈ places, ∀ c ∈ digits, c.isDigit = true) :
    (∀ c ∈ pointText places, c.isDigit = true ∨ c = '.') ∧ (pointText places).count '.' ≤ 1 := by
  cases places with
  | none => exact ⟨nofun, by decide⟩
  | some digits =>
      have hDigits := hPlaces digits rfl
      have hNoPoint : '.' ∉ digits := fun hPoint => absurd (hDigits '.' hPoint) (by decide)
      refine ⟨List.forall_mem_cons.mpr ⟨.inr rfl, fun c hc => .inl (hDigits c hc)⟩, ?_⟩
      rw [pointText, List.count_cons_self, List.count_eq_zero_of_not_mem hNoPoint]

/-- What spells digits is a mantissa. -/
theorem SpellsDigits.isMantissa (h : SpellsDigits grouping mantissa whole places) :
    IsMantissa grouping mantissa := by
  obtain ⟨written, rfl, -, hChars, hFirst⟩ := h.spelling
  obtain ⟨hPointChars, hPoints⟩ := pointText_chars h.places
  have hNoPoint : '.' ∉ written := by
    intro hPoint
    rcases hChars '.' hPoint with hDigit | ⟨hComma, -⟩
    · cases hDigit
    · cases hComma
  constructor
  · intro c hc
    rcases List.mem_append.mp hc with hc | hc
    · exact (hChars c hc).imp_right fun hComma => .inr hComma.1
    · exact (hPointChars c hc).imp_right .inl
  · rwa [List.count_append, List.count_eq_zero_of_not_mem hNoPoint, Nat.zero_add]
  · intro before after hSplit
    have hWritten : ∃ more, written = before ++ ',' :: more := by
      have hNoComma : ',' ∉ pointText places := fun hComma => absurd (hPointChars ',' hComma) (by decide)
      rcases List.append_eq_append_iff.mp hSplit with ⟨between, rfl, hBetween⟩ | ⟨between, rfl, hBetween⟩
      · rw [hBetween] at hNoComma
        exact absurd (List.mem_append_right between List.mem_cons_self) hNoComma
      · cases between with
        | nil =>
            rw [List.nil_append] at hBetween
            rw [← hBetween] at hNoComma
            exact absurd List.mem_cons_self hNoComma
        | cons c between =>
            obtain ⟨rfl, -⟩ := List.cons.inj hBetween
            exact ⟨between, rfl⟩
    obtain ⟨more, rfl⟩ := hWritten
    refine ⟨?_, ?_, fun hPoint => hNoPoint (List.mem_append_left _ hPoint)⟩
    · rcases hChars ',' (by simp) with hDigit | ⟨-, hGrouping⟩
      · cases hDigit
      · exact hGrouping
    · cases before with
      | nil => cases hFirst ',' rfl
      | cons c before => exact ⟨c, List.mem_cons_self, hFirst c rfl⟩

/-- A mantissa that does not go on with the next character is the longest one. -/
theorem prefix_of_isMantissa (hNext : ∀ c ∈ after.head?, ¬IsMantissa grouping (mantissa ++ [c]))
    (hStarts : other <+: mantissa ++ after) (hOther : IsMantissa grouping other) : other <+: mantissa := by
  by_contra hNot
  have hShorter : ¬other.length ≤ mantissa.length := fun hLength =>
    hNot (List.prefix_of_prefix_length_le hStarts (List.prefix_append mantissa after) hLength)
  obtain ⟨more, rfl⟩ :=
    List.prefix_of_prefix_length_le (List.prefix_append mantissa after) hStarts (by omega)
  cases more with
  | nil => simp at hShorter
  | cons c more =>
      rw [List.prefix_append_right_inj] at hStarts
      obtain ⟨behind, rfl⟩ := hStarts
      exact hNext c rfl (hOther.of_prefix (by simp))

/-- What is no digit goes on with a mantissa only as its first point, or as a comma before that. -/
theorem not_isMantissa_concat {c : Char} (hNoDigit : c.isDigit = false) (hPoint : c = '.' → '.' ∈ mantissa)
    (hComma : c = ',' → grouping = true → HasDigit mantissa → '.' ∈ mantissa) :
    ¬IsMantissa grouping (mantissa ++ [c]) := by
  intro h
  rcases h.chars c (by simp) with hDigit | rfl | rfl
  · rw [hDigit] at hNoDigit
    cases hNoDigit
  · have hPoints := h.onePoint
    rw [List.count_append, List.count_singleton_self] at hPoints
    have hOne := List.count_pos_iff.mpr (hPoint rfl)
    omega
  · obtain ⟨hGrouping, hDigit, hNoPoint⟩ := h.commas mantissa [] rfl
    exact hNoPoint (hComma rfl hGrouping hDigit)

/-- What is taken as a number is a mantissa, as long as it can be, and an exponent if there is one. -/
theorem exists_mantissa (grouping : Bool) (body : List Char) : ∃ mantissa whole places after,
    body = mantissa ++ after ∧ SpellsDigits grouping mantissa whole places ∧
      (∀ c ∈ after.head?, ¬IsMantissa grouping (mantissa ++ [c])) ∧
      takeNumeral grouping body = if whole.isEmpty && (places.getD []).isEmpty then none
        else some (⟨whole, places, (takeExponent after).1⟩, (takeExponent after).2) := by
  obtain ⟨written, hBody, hWhole, hChars, hFirst, hStops⟩ := takeGrouped_spec grouping false body
  have hSpells {places : Option (List Char)} (hPlaces : ∀ digits ∈ places, ∀ c ∈ digits, c.isDigit = true) :
      SpellsDigits grouping (written ++ pointText places) (takeGrouped grouping false body).1 places :=
    ⟨⟨written, rfl, hWhole, hChars, hFirst rfl⟩, hPlaces⟩
  unfold takeNumeral
  generalize takeGrouped grouping false body = taken at *
  obtain ⟨whole, afterWhole⟩ := taken
  dsimp only at *
  by_cases hPoint : ∃ more, afterWhole = '.' :: more
  · obtain ⟨more, rfl⟩ := hPoint
    have hPlaces : ∀ digits ∈ some (more.takeWhile Char.isDigit), ∀ c ∈ digits, c.isDigit = true := by
      rintro _ ⟨⟩ c hc
      exact List.mem_takeWhile_imp hc
    refine ⟨_, whole, _, more.dropWhile Char.isDigit, ?_, hSpells hPlaces, fun c hc => ?_, rfl⟩
    · rw [hBody, pointText, List.append_assoc, List.cons_append, List.takeWhile_append_dropWhile]
    · have hMember : '.' ∈ written ++ pointText (some (more.takeWhile Char.isDigit)) :=
        List.mem_append_right _ List.mem_cons_self
      exact not_isMantissa_concat (Text.head?_dropWhile hc) (fun _ => hMember) fun _ _ _ => hMember
  · refine ⟨_, whole, none, afterWhole, ?_, hSpells nofun, fun c hc => ?_, ?_⟩
    · rw [hBody, pointText, List.append_nil]
    · obtain ⟨hNoDigit, hNoComma⟩ := hStops c hc
      rw [pointText, List.append_nil]
      refine not_isMantissa_concat hNoDigit (fun hChar => ?_) fun hChar hGrouping hDigit => ?_
      · obtain ⟨more, hMore⟩ := List.head?_eq_some_iff.mp hc
        exact absurd ⟨more, hChar ▸ hMore⟩ hPoint
      · obtain ⟨d, hd, -⟩ := hDigit
        exact absurd ⟨hChar, hGrouping, .inr (List.ne_nil_of_mem hd)⟩ hNoComma
    · split
      · next more => exact absurd ⟨more, rfl⟩ hPoint
      · rfl

/-- A mantissa has a digit if it spells one. -/
theorem SpellsDigits.hasDigit_iff (h : SpellsDigits grouping mantissa whole places) :
    HasDigit mantissa ↔ (whole.isEmpty && (places.getD []).isEmpty) = false := by
  obtain ⟨written, rfl, rfl, hChars, -⟩ := h.spelling
  rw [Bool.and_eq_false_iff, List.isEmpty_eq_false_iff, List.isEmpty_eq_false_iff]
  constructor
  · rintro ⟨c, hc, hDigit⟩
    rcases List.mem_append.mp hc with hc | hc
    · have hComma : c ≠ ',' := by
        rintro rfl
        cases hDigit
      exact .inl (List.ne_nil_of_mem (List.mem_filter.mpr ⟨hc, by simpa using hComma⟩))
    · cases places with
      | none => cases hc
      | some digits =>
          rcases List.mem_cons.mp hc with rfl | hc
          · cases hDigit
          · exact .inr (List.ne_nil_of_mem hc)
  · rintro (hSome | hSome)
    · obtain ⟨c, hc⟩ := List.exists_mem_of_ne_nil _ hSome
      obtain ⟨hWritten, hComma⟩ := List.mem_filter.mp hc
      rcases hChars c hWritten with hDigit | ⟨rfl, -⟩
      · exact ⟨c, List.mem_append_left _ hWritten, hDigit⟩
      · cases hComma
    · cases places with
      | none => exact absurd rfl hSome
      | some digits =>
          obtain ⟨c, hc⟩ := List.exists_mem_of_ne_nil digits hSome
          exact ⟨c, List.mem_append_right _ (List.mem_cons_of_mem _ hc), h.places digits rfl c hc⟩

/-- An exponent stands behind the longest mantissa, for no mantissa has the letter E in it. -/
theorem exponent_prefix {exponent : List Char} (hMantissa : IsMantissa grouping mantissa)
    (hNext : ∀ c ∈ after.head?, ¬IsMantissa grouping (mantissa ++ [c])) (hOther : IsMantissa grouping other)
    (hStarts : other ++ 'E' :: exponent <+: mantissa ++ after) :
    other = mantissa ∧ 'E' :: exponent <+: after := by
  obtain ⟨more, rfl⟩ := prefix_of_isMantissa hNext ((List.prefix_append other _).trans hStarts) hOther
  rw [List.append_assoc, List.prefix_append_right_inj] at hStarts
  cases more with
  | nil => exact ⟨(List.append_nil other).symm, hStarts⟩
  | cons c more =>
      obtain ⟨rfl, -⟩ := List.cons_prefix_cons.mp hStarts
      exact absurd (hMantissa.chars 'E' (by simp)) (by decide)

/-- What a run starts with has a digit if the run has one. -/
theorem IsRun.hasDigit (h : IsRun grouping run) (hDigit : HasDigit run) : ∃ mantissa,
    mantissa <+: run ∧ IsMantissa grouping mantissa ∧ HasDigit mantissa := by
  cases h with
  | mantissa h => exact ⟨run, List.prefix_refl run, h, hDigit⟩
  | exponent h hMantissa hExponent => exact ⟨_, List.prefix_append _ _, h, hMantissa⟩

/-- Nothing is taken as a number where the longest run has no digit. -/
theorem not_hasDigit_of_takeNumeral (h : takeNumeral grouping body = none) (hStarts : run <+: body)
    (hRun : IsRun grouping run) : ¬HasDigit run := by
  intro hDigit
  obtain ⟨mantissa, whole, places, after, rfl, hSpells, hNext, hTake⟩ := exists_mantissa grouping body
  obtain ⟨other, hOther, hMantissa, c, hc, hcDigit⟩ := hRun.hasDigit hDigit
  have hPrefix := prefix_of_isMantissa hNext (hOther.trans hStarts) hMantissa
  have hNone : ¬HasDigit mantissa := by
    rw [hSpells.hasDigit_iff]
    intro hSome
    rw [hTake, hSome] at h
    cases h
  exact hNone ⟨c, hPrefix.subset hc, hcDigit⟩

/-- The longest mantissa is the longest run where no exponent follows. -/
theorem isLongestRun_mantissa (hMantissa : IsMantissa grouping mantissa)
    (hNext : ∀ c ∈ after.head?, ¬IsMantissa grouping (mantissa ++ [c]))
    (hNone : ∀ numeral n behind, IsNumeral numeral n → after ≠ 'E' :: (numeral ++ behind)) :
    IsLongestRun grouping (mantissa ++ after) mantissa where
  starts := List.prefix_append mantissa after
  isRun := .mantissa hMantissa
  longest other hStarts hOther := by
    cases hOther with
    | mantissa hOther => exact (prefix_of_isMantissa hNext hStarts hOther).length_le
    | exponent hOther _ hNumeral =>
        obtain ⟨-, more, hMore⟩ := exponent_prefix hMantissa hNext hOther hStarts
        exact absurd hMore.symm (hNone _ _ more hNumeral)

/-- Where an exponent follows, it belongs to the run to its last digit. -/
theorem isLongestRun_exponent {exponent : List Char} (hMantissa : IsMantissa grouping mantissa)
    (hDigit : HasDigit mantissa) (hNumeral : IsNumeral exponent n)
    (hNext : ∀ c ∈ ('E' :: (exponent ++ rest)).head?, ¬IsMantissa grouping (mantissa ++ [c]))
    (hRest : ∀ c ∈ rest.head?, c.isDigit = false) :
    IsLongestRun grouping (mantissa ++ 'E' :: (exponent ++ rest)) (mantissa ++ 'E' :: exponent) where
  starts := ⟨rest, by simp⟩
  isRun := .exponent hMantissa hDigit hNumeral
  longest other hStarts hOther := by
    rw [List.length_append]
    cases hOther with
    | mantissa hOther =>
        have hLength := (prefix_of_isMantissa hNext hStarts hOther).length_le
        omega
    | exponent hOther _ hOtherNumeral =>
        obtain ⟨rfl, hExponent⟩ := exponent_prefix hMantissa hNext hOther hStarts
        have hLength := length_le_of_isNumeral hNumeral hOtherNumeral hRest
          (List.cons_prefix_cons.mp hExponent).2
        simp only [List.length_append, List.length_cons]
        omega

/-- What is taken as a number is the longest run, and it has a digit. -/
theorem isLongestRun_of_takeNumeral (h : takeNumeral grouping body = some (numeral, rest)) :
    ∃ mantissa exponent, body = (mantissa ++ exponent) ++ rest ∧ HasDigit mantissa ∧
      SpellsDigits grouping mantissa numeral.whole numeral.places ∧
      SpellsExponent numeral.exponent exponent ∧ IsLongestRun grouping body (mantissa ++ exponent) := by
  obtain ⟨mantissa, whole, places, after, rfl, hSpells, hNext, hTake⟩ := exists_mantissa grouping body
  rw [hTake] at h
  split at h
  · cases h
  · next hSome =>
      have hDigit : HasDigit mantissa := hSpells.hasDigit_iff.mpr (Bool.eq_false_iff.mpr hSome)
      obtain ⟨rfl, rfl⟩ := Prod.mk.inj (Option.some.inj h)
      generalize hTaken : takeExponent after = taken
      obtain ⟨n?, behind⟩ := taken
      cases n? with
      | none =>
          obtain ⟨rfl, hNone⟩ := takeExponent_eq_none hTaken
          refine ⟨mantissa, [], by simp, hDigit, hSpells, .none, ?_⟩
          rw [List.append_nil]
          exact isLongestRun_mantissa hSpells.isMantissa hNext hNone
      | some n =>
          obtain ⟨exponent, rfl, hNumeral, hRest⟩ := takeExponent_eq_some hTaken
          exact ⟨mantissa, 'E' :: exponent, by simp, hDigit, hSpells, .some hNumeral,
            isLongestRun_exponent hSpells.isMantissa hDigit hNumeral hNext hRest⟩

/-- Nothing is taken exactly if the longest run has no digit. -/
theorem takeNumeral_eq_none_iff :
    takeNumeral grouping body = none ↔ ∃ run, IsLongestRun grouping body run ∧ ¬HasDigit run := by
  constructor
  · intro h
    obtain ⟨run, hRun⟩ := exists_longestRun grouping body
    exact ⟨run, hRun, not_hasDigit_of_takeNumeral h hRun.starts hRun.isRun⟩
  · rintro ⟨run, hRun, hNone⟩
    cases hTaken : takeNumeral grouping body with
    | none => rfl
    | some taken =>
        obtain ⟨mantissa, exponent, -, ⟨c, hc, hDigit⟩, -, -, hLongest⟩ := isLongestRun_of_takeNumeral hTaken
        obtain rfl := hRun.unique hLongest
        exact absurd ⟨c, List.mem_append_left _ hc, hDigit⟩ hNone

end

end LogIngest.NumberFormat
