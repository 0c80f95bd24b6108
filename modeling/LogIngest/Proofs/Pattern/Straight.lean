import LogIngest.Pattern.Search
import LogIngest.Proofs.Text.CharSets
import LogIngest.Text.Lowercase
import Mathlib.Data.List.Forall2

/-!
Programs without branches, which take one character of each of several sets between the start and the end of
a text. Main statement: such a program finds a match in exactly the texts that have one character of each set.
-/

namespace LogIngest.Pattern

/-- The instructions that take a character of each set, and nothing before them or behind them. -/
def straight (sets : List CharSet) : Array Instr :=
  (.save 0 :: .look .textStart :: (sets.map .chars ++ [.look .textEnd, .save 1, .done])).toArray

/-- A text has one character of each set. -/
def Spells (sets : List CharSet) (text : List Char) : Prop :=
  List.Forall₂ (fun set c => set.contains c = true) sets text

theorem size_straight (sets : List CharSet) : (straight sets).size = sets.length + 5 := by
  simp [straight]

/-- Behind the first two instructions stand the sets, in their order. -/
theorem getElem?_straight_chars (used rest : List CharSet) (set : CharSet) :
    (straight (used ++ set :: rest))[used.length + 2]? = some (.chars set) := by
  simp [straight]

/-- Behind the sets the end of the text is asked for. -/
theorem getElem?_straight_look (sets : List CharSet) :
    (straight sets)[sets.length + 2]? = some (.look .textEnd) := by
  simp [straight]

theorem getElem?_straight_save (sets : List CharSet) : (straight sets)[sets.length + 3]? = some (.save 1) := by
  simp [straight]

theorem getElem?_straight_done (sets : List CharSet) : (straight sets)[sets.length + 4]? = some .done := by
  simp [straight]

/-- The sets of the letters of a word are spelled by the word in any case. -/
theorem spells_letters_iff {word : List Char} (hWord : ∀ c ∈ word, c.isLower = true) {text : List Char} :
    Spells (word.map CharSet.letter) text ↔ Text.sameIgnoringAsciiCase text word = true := by
  rw [Spells, Text.sameIgnoringAsciiCase, beq_iff_eq]
  induction word generalizing text with
  | nil => simp
  | cons small word ih =>
      obtain ⟨hSmall, hRest⟩ := List.forall_mem_cons.mp hWord
      cases text with
      | nil => simp
      | cons c text =>
          rw [List.map_cons, List.map_cons, List.map_cons, List.forall₂_cons, List.cons.injEq, ih hRest,
            CharSet.contains_letter hSmall, CharSet.toLower_eq_self hSmall]

/-! ### Threads at one instruction -/

section

variable {program : Array Instr} {place : Place} {bound address : Nat} {visited : Array Bool} {slots : Slots}
  {threads : List Thread}

theorem settle_nil : settle program place bound visited [] = [] := by
  cases bound <;> rfl

theorem getD_visit {other : Nat} (h : other ≠ address) :
    (visited.setIfInBounds address true).getD other true = visited.getD other true := by
  simp [Array.getD_eq_getD_getElem?, Array.getElem?_setIfInBounds_ne (Ne.symm h)]

/-- A thread at an instruction where one was before is dropped. -/
theorem settle_seen (hSeen : visited.getD address true = true) :
    settle program place (bound + 1) visited (⟨address, slots⟩ :: threads) =
      settle program place bound visited threads := by
  simp [settle, hSeen]

variable (hNew : visited.getD address true = false)
include hNew

/-- A thread waits at a set for the next character. -/
theorem settle_chars {set : CharSet} (h : program[address]? = some (.chars set)) :
    settle program place (bound + 1) visited (⟨address, slots⟩ :: threads) =
      ⟨address, slots⟩ :: settle program place bound (visited.setIfInBounds address true) threads := by
  simp [settle, hNew, h]

/-- A thread that has come to the end stays there. -/
theorem settle_done (h : program[address]? = some .done) :
    settle program place (bound + 1) visited (⟨address, slots⟩ :: threads) =
      ⟨address, slots⟩ :: settle program place bound (visited.setIfInBounds address true) threads := by
  simp [settle, hNew, h]

/-- A thread goes on behind a look if that holds at its place. -/
theorem settle_look {look : Look} (h : program[address]? = some (.look look)) :
    settle program place (bound + 1) visited (⟨address, slots⟩ :: threads) =
      settle program place bound (visited.setIfInBounds address true)
        (if look.holds place.before place.after then ⟨address + 1, slots⟩ :: threads else threads) := by
  simp [settle, hNew, h]

/-- A thread notes its place and goes on. -/
theorem settle_save {slot : Nat} (h : program[address]? = some (.save slot)) :
    settle program place (bound + 1) visited (⟨address, slots⟩ :: threads) =
      settle program place bound (visited.setIfInBounds address true)
        (⟨address + 1, slots.setIfInBounds slot (some place.index)⟩ :: threads) := by
  simp [settle, hNew, h]

end

/-! ### Searches place by place -/

section

variable {program : Array Instr} {slots : Slots} {index : Nat} {before : Option Char} {threads : List Thread}

/-- The threads of a search at its next place, a new one among them. -/
def settled (program : Array Instr) (slots : Slots) (place : Place) (threads : List Thread) : List Thread :=
  let threads := threads ++ [⟨0, slots⟩]
  settle program place (threads.length + 2 * program.size + 1) (Array.replicate program.size false) threads

/-- At the end of a text the threads have their last say. -/
theorem searchFrom_end :
    searchFrom program slots index before threads none [] =
      (untilDone program (settled program slots ⟨index, before, none⟩ threads)).2 := by
  unfold searchFrom settled
  simp only [Option.isNone_none, if_true, List.head?_nil, Option.or_none]

/-- Before that, every thread takes the next character or is dropped. -/
theorem searchFrom_cons {c : Char} {text : List Char}
    (hNone : (untilDone program (settled program slots ⟨index, before, some c⟩ threads)).2 = none) :
    searchFrom program slots index before threads none (c :: text) =
      searchFrom program slots (index + 1) (some c)
        ((untilDone program (settled program slots ⟨index, before, some c⟩ threads)).1.filterMap
          (Thread.take? program c)) none text := by
  unfold settled at hNone ⊢
  conv => lhs; unfold searchFrom
  simp only [Option.isNone_none, if_true, List.head?_cons, Option.or_none, hNone, Option.isSome_none,
    Bool.and_false, Bool.false_eq_true, if_false]

end

/-! ### The one thread of a program without branches -/

section

variable {sets used rest : List CharSet} {place : Place} {bound : Nat} {visited : Array Bool} {slots : Slots}

/-- No match starts behind the start of a text. -/
theorem settle_entry (hBefore : place.before ≠ none) :
    settle (straight sets) place bound visited [⟨0, slots⟩] = [] := by
  have hHolds : Look.holds .textStart place.before place.after = false := by
    obtain ⟨c, hc⟩ := Option.ne_none_iff_exists'.mp hBefore
    rw [hc]
    rfl
  have hStart (bound : Nat) (visited : Array Bool) (slots : Slots) :
      settle (straight sets) place bound visited [⟨1, slots⟩] = [] := by
    cases bound with
    | zero => rfl
    | succ bound =>
        cases hVisited : visited.getD 1 true with
        | true => rw [settle_seen hVisited, settle_nil]
        | false =>
            have hLook : (straight sets)[1]? = some (.look .textStart) := rfl
            rw [settle_look hVisited hLook, hHolds, if_neg Bool.false_ne_true, settle_nil]
  cases bound with
  | zero => rfl
  | succ bound =>
      cases hVisited : visited.getD 0 true with
      | true => rw [settle_seen hVisited, settle_nil]
      | false =>
          have hSave : (straight sets)[0]? = some (.save 0) := rfl
          rw [settle_save hVisited hSave, hStart]

/-- What becomes at a place of the thread that has taken a character of each used set: it waits for the next
character, or the program is done at the end of the text, or it dies. -/
def survivors (used rest : List CharSet) (slots : Slots) (place : Place) : List Thread :=
  match rest, place.after with
  | _ :: _, _ => [⟨used.length + 2, slots⟩]
  | [], some _ => []
  | [], none => [⟨used.length + 4, slots.setIfInBounds 1 (some place.index)⟩]

/-- A thread that comes first, to addresses not seen yet, is the one that is left where all others die. -/
theorem settle_straight (used : List CharSet) {threads : List Thread} (hBound : 3 ≤ bound)
    (hNew : ∀ address, 2 ≤ address → address < (used ++ rest).length + 5 → visited.getD address true = false)
    (hOthers : ∀ bound visited, settle (straight (used ++ rest)) place bound visited threads = []) :
    settle (straight (used ++ rest)) place bound visited (⟨used.length + 2, slots⟩ :: threads) =
      survivors used rest slots place := by
  obtain ⟨bound, rfl⟩ := Nat.exists_eq_add_of_le' hBound
  have hHere := hNew (used.length + 2) (by omega) (by simp; omega)
  unfold survivors
  cases rest with
  | cons set rest => rw [settle_chars hHere (getElem?_straight_chars used rest set), hOthers]
  | nil =>
      simp only [List.append_nil] at hNew hOthers ⊢
      rw [settle_look hHere (getElem?_straight_look used)]
      cases hAfter : place.after with
      | some c => exact hOthers _ _
      | none =>
          simp only [Look.holds, Option.isNone_none, if_true]
          rw [settle_save _ (getElem?_straight_save used), settle_done _ (getElem?_straight_done used),
            hOthers]
          · rw [getD_visit (by omega), getD_visit (by omega)]
            exact hNew _ (by omega) (by omega)
          · rw [getD_visit (by omega)]
            exact hNew _ (by omega) (by omega)

theorem getD_replicate_false {size address : Nat} (h : address < size) :
    (Array.replicate size false).getD address true = false := by
  simp [Array.getD_eq_getD_getElem?, h]

/-- A thread behind a character has no rival. -/
theorem settled_straight {noted : Slots} (hBefore : place.before ≠ none) :
    settled (straight (used ++ rest)) slots place [⟨used.length + 2, noted⟩] =
      survivors used rest noted place := by
  apply settle_straight used
  · simp
  · intro address _ hAddress
    exact getD_replicate_false (by rwa [size_straight])
  · intro bound visited
    exact settle_entry hBefore

/-- At the start of a text the new thread gets past the condition. -/
theorem settled_start (hBefore : place.before = none) :
    ∃ noted, settled (straight sets) slots place [] = survivors [] sets noted place := by
  refine ⟨slots.setIfInBounds 0 (some place.index), ?_⟩
  have hSave : (straight sets)[0]? = some (.save 0) := rfl
  have hLook : (straight sets)[1]? = some (.look .textStart) := rfl
  have hSize := size_straight sets
  have hBound : 0 + 1 + 2 * (straight sets).size + 1 = 2 * sets.length + 10 + 2 := by omega
  unfold settled
  simp only [List.nil_append, List.length_cons, List.length_nil]
  rw [hBound, settle_save _ hSave, settle_look _ hLook]
  · simp only [Look.holds, hBefore, Option.isNone_none, if_true]
    apply settle_straight []
    · omega
    · intro address hLow hHigh
      rw [getD_visit (by omega), getD_visit (by omega)]
      exact getD_replicate_false (by rw [hSize]; exact hHigh)
    · intro bound visited
      exact settle_nil
  · rw [getD_visit (by omega)]
    exact getD_replicate_false (by omega)
  · exact getD_replicate_false (by omega)

/-- Where no thread is left, there is no match. -/
theorem searchFrom_nil {text : List Char} {index : Nat} {before : Char} :
    searchFrom (straight sets) slots index (some before) [] none text = none := by
  have hSettled (place : Place) (hBefore : place.before ≠ none) :
      settled (straight sets) slots place [] = [] := settle_entry hBefore
  induction text generalizing index before with
  | nil =>
      rw [searchFrom_end, hSettled _ (Option.some_ne_none before)]
      rfl
  | cons c text ih =>
      rw [searchFrom_cons (by rw [hSettled _ (Option.some_ne_none before)]; rfl),
        hSettled _ (Option.some_ne_none before)]
      exact ih

/-- A thread that waits for a character of a set is not done, and takes the characters of the set. -/
theorem untilDone_waiting (used rest : List CharSet) (set : CharSet) (noted : Slots) :
    untilDone (straight (used ++ set :: rest)) [⟨used.length + 2, noted⟩] =
      ([⟨used.length + 2, noted⟩], none) := by
  simp [untilDone, getElem?_straight_chars]

/-- The one thread goes on to the next set if the character is in its own. -/
theorem take?_waiting (used rest : List CharSet) (set : CharSet) (noted : Slots) (c : Char) :
    Thread.take? (straight (used ++ set :: rest)) c ⟨used.length + 2, noted⟩ =
      if set.contains c then some ⟨used.length + 3, noted⟩ else none := by
  simp [Thread.take?, getElem?_straight_chars]

/-- The induction is on the text: the one thread there is has taken a character of each used set, and each
further character takes it behind one more. -/
theorem isSome_searchFrom_iff {text : List Char} {index : Nat} {before : Option Char} {threads : List Thread}
    {noted : Slots}
    (h : settled (straight (used ++ rest)) slots ⟨index, before, text.head?⟩ threads =
      survivors used rest noted ⟨index, before, text.head?⟩) :
    (searchFrom (straight (used ++ rest)) slots index before threads none text).isSome = true ↔
      Spells rest text := by
  induction text generalizing used rest index before threads noted with
  | nil =>
      rw [List.head?_nil] at h
      rw [searchFrom_end, h]
      cases rest with
      | nil => simp [survivors, untilDone, getElem?_straight_done, Spells]
      | cons set rest => simp [survivors, untilDone_waiting, Spells]
  | cons c text ih =>
      rw [List.head?_cons] at h
      cases rest with
      | nil =>
          rw [searchFrom_cons (by rw [h]; rfl), h]
          simp [survivors, untilDone, searchFrom_nil, Spells]
      | cons set rest =>
          rw [searchFrom_cons (by rw [h]; simp [survivors, untilDone_waiting]), h]
          simp only [survivors, untilDone_waiting, List.filterMap_cons, List.filterMap_nil, take?_waiting]
          rw [Spells, List.forall₂_cons]
          cases hTaken : set.contains c with
          | false => simp [searchFrom_nil]
          | true =>
              have hNext : settled (straight ((used ++ [set]) ++ rest)) slots
                  ⟨index + 1, some c, text.head?⟩ [⟨(used ++ [set]).length + 2, noted⟩] =
                    survivors (used ++ [set]) rest noted ⟨index + 1, some c, text.head?⟩ :=
                settled_straight (Option.some_ne_none c)
              simp only [if_true, true_and]
              rw [List.length_append] at hNext
              rw [List.append_cons]
              exact ih hNext

/-- A program without branches finds a match in exactly the texts that have one character of each set. -/
theorem isSome_search_straight_iff {groups : Nat} {text : List Char} :
    (search (straight sets) groups text).isSome = true ↔ Spells sets text := by
  have hStart : (⟨0, none, text.head?⟩ : Place).before = none := rfl
  obtain ⟨noted, hSettled⟩ := settled_start hStart
  exact isSome_searchFrom_iff hSettled

end

end LogIngest.Pattern
