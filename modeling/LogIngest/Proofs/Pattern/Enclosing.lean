import LogIngest.Pattern.Basic
import LogIngest.Proofs.Pattern.Assembly
import LogIngest.Proofs.Pattern.Code
import LogIngest.Proofs.Pattern.Tokens

/-!
Programs between the start and the end of a text. Main statements: a search with such a program finds no
match but of the whole text; so a pattern that is one by itself, if it has to match the whole of a text, finds
no other match.
-/

namespace LogIngest.Pattern

/-- The instructions of a program that asks for the start of the text before some code, and for its end
behind the code. The code keeps to its own addresses. -/
inductive Encloses (size : Nat) : (address : Nat) → Instr → Prop where
  | entry : Encloses size 0 (.save 0)
  | start : Encloses size 1 (.look .textStart)
  | body {address : Nat} {instr : Instr} (hStart : 2 ≤ address) (hStop : address < size + 2)
    (hKeeps : instr.KeepsTo 2 (size + 2)) : Encloses size address instr
  | stop : Encloses size (size + 2) (.look .textEnd)
  | exit : Encloses size (size + 3) (.save 1)
  | done : Encloses size (size + 4) .done

/-- What a thread at an address of such a program has noted at a place of the text. -/
structure Noted (size : Nat) (place : Place) (address : Nat) (slots : Slots) : Prop where
  room : 2 ≤ slots.size
  entered : address = 1 → slots[0]? = some (some place.index)
  /-- Behind the condition that the text starts, the match has started there. -/
  started : 2 ≤ address → slots[0]? = some (some 0)
  ended : size + 3 ≤ address → place.after = none
  left : size + 4 ≤ address → slots[1]? = some (some place.index)

/-- Every instruction of an enclosed node stands within the two looks. -/
theorem encloses_of_toProgram {node : Node} (hGroups : 0 ∉ node.groups) {limit : Nat}
    {program : Array Instr} (h : node.enclosed.toProgram limit = .ok program) {address : Nat} {instr : Instr}
    (hInstr : program[address]? = some instr) : Encloses node.size address instr := by
  have hCode := Node.compact_code hGroups
  unfold Node.toProgram at h
  split at h
  · cases h
  · rw [← Except.ok.inj h, List.getElem?_toArray] at hInstr
    simp only [Node.enclosed, Node.code, Node.size, List.append_assoc, List.cons_append,
      List.nil_append] at hInstr
    rcases address with _ | _ | place
    · rw [← Option.some.inj hInstr]
      exact .entry
    · rw [← Option.some.inj hInstr]
      exact .start
    · simp only [List.getElem?_cons_succ] at hInstr
      by_cases hPlace : place < node.size
      · rw [List.getElem?_append_left (by simpa [hCode.length_eq] using hPlace)] at hInstr
        have hKeeps := hCode.keepsTo 2 instr (List.mem_of_getElem? hInstr)
        exact .body (by omega) (by omega) (hKeeps.mono (Nat.le_refl _) (by omega))
      · rw [List.getElem?_append_right (by simpa [hCode.length_eq] using hPlace)] at hInstr
        simp only [hCode.length_eq] at hInstr
        obtain ⟨further, hFurther⟩ := Nat.exists_eq_add_of_le (Nat.le_of_not_lt hPlace)
        rw [hFurther, Nat.add_sub_cancel_left] at hInstr
        rcases further with _ | _ | _ | further
        · rw [← Option.some.inj hInstr, hFurther]
          exact .stop
        · rw [← Option.some.inj hInstr, hFurther]
          exact .exit
        · rw [← Option.some.inj hInstr, hFurther]
          exact .done
        · cases hInstr

namespace Noted

variable {size address : Nat} {place : Place} {slots : Slots}

/-- At the start nothing has been noted, which is all that is asked for there. -/
theorem fresh (hRoom : 2 ≤ slots.size) : Noted size place 0 slots where
  room := hRoom
  entered := nofun
  started := nofun
  ended := nofun
  left := nofun

/-- Within the enclosed code, and right behind it, nothing but the start of the match counts. -/
theorem within {target : Nat} (h : Noted size place address slots) (hAddress : 2 ≤ address)
    (hTarget : 2 ≤ target ∧ target ≤ size + 2) : Noted size place target slots where
  room := h.room
  entered := by omega
  started _ := h.started hAddress
  ended := by omega
  left := by omega

/-- Behind the first look the place is the start of the text, and behind the last one it is the end. -/
theorem look {l : Look} (h : Noted size place address slots) (hInstr : Encloses size address (.look l))
    (hHolds : l.holds place.before place.after = true) (hFirst : place.before = none → place.index = 0) :
    Noted size place (address + 1) slots := by
  cases hInstr with
  | start =>
      have hSlot := h.entered rfl
      rw [hFirst (Option.isNone_iff_eq_none.mp hHolds)] at hSlot
      exact ⟨h.room, by omega, fun _ => hSlot, by omega, by omega⟩
  | body hStart hStop hKeeps => exact h.within hStart (by omega)
  | stop =>
      have hAfter := Option.isNone_iff_eq_none.mp hHolds
      exact ⟨h.room, by omega, fun _ => h.started (by omega), fun _ => hAfter, by omega⟩

/-- Noting the start or the end keeps to what the looks have shown. -/
theorem save {slot : Nat} (h : Noted size place address slots)
    (hInstr : Encloses size address (.save slot)) :
    Noted size place (address + 1) (slots.setIfInBounds slot (some place.index)) := by
  have hRoom := h.room
  cases hInstr with
  | entry =>
      refine ⟨by simpa using hRoom, fun _ => ?_, by omega, by omega, by omega⟩
      exact Array.getElem?_setIfInBounds_self_of_lt (by omega)
  | body hStart hStop hKeeps =>
      -- A group of the enclosed code notes its places behind those of the match.
      have hStill : (slots.setIfInBounds slot (some place.index))[0]? = slots[0]? :=
        Array.getElem?_setIfInBounds_ne (by simp only [Instr.KeepsTo] at hKeeps; omega)
      refine ⟨by simpa using hRoom, by omega, fun _ => ?_, by omega, by omega⟩
      rw [hStill, h.started hStart]
  | exit =>
      refine ⟨by simpa using hRoom, by omega, fun _ => ?_, fun _ => h.ended (by omega), fun _ => ?_⟩
      · rw [Array.getElem?_setIfInBounds_ne (by omega), h.started (by omega)]
      · exact Array.getElem?_setIfInBounds_self_of_lt (by omega)

/-- Both branches of a choice are within the node. -/
theorem split {first second : Nat} (h : Noted size place address slots)
    (hInstr : Encloses size address (.split first second)) :
    Noted size place first slots ∧ Noted size place second slots := by
  cases hInstr with
  | body hStart hStop hKeeps => exact ⟨h.within hStart hKeeps.1, h.within hStart hKeeps.2⟩

/-- No jump leads out of the node. -/
theorem jump {target : Nat} (h : Noted size place address slots)
    (hInstr : Encloses size address (.jump target)) : Noted size place target slots := by
  cases hInstr with
  | body hStart hStop hKeeps => exact h.within hStart hKeeps

/-- A character leads to another place. -/
theorem chars {set : CharSet} (h : Noted size place address slots)
    (hInstr : Encloses size address (.chars set)) (next : Place) :
    Noted size next (address + 1) slots := by
  cases hInstr with
  | body hStart hStop hKeeps =>
      exact ⟨h.room, by omega, fun _ => h.started hStart, by omega, by omega⟩

/-- Nothing is done but at the end of the text, where the match covers it. -/
theorem done (h : Noted size place address slots) (hInstr : Encloses size address .done) :
    place.after = none ∧ slots[0]? = some (some 0) ∧ slots[1]? = some (some place.index) := by
  cases hInstr with
  | body hStart hStop hKeeps => exact hKeeps.elim
  | done => exact ⟨h.ended (by omega), h.started (by omega), h.left (Nat.le_refl _)⟩

end Noted

section

variable {program : Array Instr} {size : Nat}

/-- Threads are only dropped. -/
theorem untilDone_subset {threads : List Thread} : (untilDone program threads).1 ⊆ threads := by
  induction threads with
  | nil => nofun
  | cons thread threads ih =>
      unfold untilDone
      split
      · exact List.nil_subset _
      · exact List.cons_subset_cons thread ih

/-- A match was noted by a thread at the end of the program. -/
theorem exists_of_untilDone {threads : List Thread} {slots : Slots}
    (h : (untilDone program threads).2 = some slots) :
    ∃ thread ∈ threads, program[thread.address]? = some .done ∧ thread.slots = slots := by
  induction threads with
  | nil => cases h
  | cons thread threads ih =>
      unfold untilDone at h
      split at h
      · next hDone => exact ⟨thread, List.mem_cons_self, eq_of_beq hDone, Option.some.inj h⟩
      · obtain ⟨other, hOther, hFound⟩ := ih h
        exact ⟨other, List.mem_cons_of_mem thread hOther, hFound⟩

variable (hProgram : ∀ address instr, program[address]? = some instr → Encloses size address instr)
include hProgram

/-- Settling threads keeps what they have noted in order, by induction on the bound. -/
theorem noted_of_mem_settle {place : Place} (hFirst : place.before = none → place.index = 0) {bound : Nat}
    {visited : Array Bool} {threads : List Thread}
    (hThreads : ∀ thread ∈ threads, Noted size place thread.address thread.slots) :
    ∀ thread ∈ settle program place bound visited threads,
      Noted size place thread.address thread.slots := by
  induction bound generalizing visited threads with
  | zero => nofun
  | succ bound ih =>
      cases threads with
      | nil => nofun
      | cons thread threads =>
          obtain ⟨hThread, hThreads⟩ := List.forall_mem_cons.mp hThreads
          unfold settle
          split
          · exact ih hThreads
          · split
            · exact ih hThreads
            · exact List.forall_mem_cons.mpr ⟨hThread, ih hThreads⟩
            · exact List.forall_mem_cons.mpr ⟨hThread, ih hThreads⟩
            · next l hInstr =>
                split
                · next hHolds =>
                    have hNext := hThread.look (hProgram _ _ hInstr) hHolds hFirst
                    exact ih (List.forall_mem_cons.mpr ⟨hNext, hThreads⟩)
                · exact ih hThreads
            · next slot hInstr =>
                have hNext := hThread.save (hProgram _ _ hInstr)
                exact ih (List.forall_mem_cons.mpr ⟨hNext, hThreads⟩)
            · next first second hInstr =>
                obtain ⟨hNext, hOther⟩ := hThread.split (hProgram _ _ hInstr)
                exact ih (List.forall_mem_cons.mpr ⟨hNext, List.forall_mem_cons.mpr ⟨hOther, hThreads⟩⟩)
            · next target hInstr =>
                have hNext := hThread.jump (hProgram _ _ hInstr)
                exact ih (List.forall_mem_cons.mpr ⟨hNext, hThreads⟩)

/-- Nothing is done before the end of the text, and what is done there covers the text. -/
theorem covers_of_untilDone {place : Place} {threads : List Thread}
    (hThreads : ∀ thread ∈ threads, Noted size place thread.address thread.slots) {found : Slots}
    (h : (untilDone program threads).2 = some found) :
    place.after = none ∧ found[0]? = some (some 0) ∧ found[1]? = some (some place.index) := by
  obtain ⟨thread, hThread, hDone, rfl⟩ := exists_of_untilDone h
  exact (hThreads thread hThread).done (hProgram _ _ hDone)

/-- Taking a character keeps what a thread has noted in order. -/
theorem noted_of_take? {place next : Place} {c : Char} {thread moved : Thread}
    (hThread : Noted size place thread.address thread.slots) (h : thread.take? program c = some moved) :
    Noted size next moved.address moved.slots := by
  unfold Thread.take? at h
  split at h
  · next set hInstr =>
      split at h
      · rw [← Option.some.inj h]
        exact hThread.chars (hProgram _ _ hInstr) next
      · cases h
  · cases h

/-- The induction is on the text: threads that are behind a character have noted what they should at the
place behind it, and none is done before the last place. -/
theorem covers_of_searchFrom {slots found : Slots} (hRoom : 2 ≤ slots.size) {text : List Char} {index : Nat}
    {before : Option Char} (hFirst : before = none → index = 0) {threads : List Thread}
    (hThreads : ∀ thread ∈ threads, Noted size ⟨index, before, text.head?⟩ thread.address thread.slots)
    (h : searchFrom program slots index before threads none text = some found) :
    found[0]? = some (some 0) ∧ found[1]? = some (some (index + text.length)) := by
  induction text generalizing index before threads with
  | nil =>
      have hStarted : ∀ thread ∈ threads ++ [⟨0, slots⟩],
          Noted size ⟨index, before, none⟩ thread.address thread.slots :=
        List.forall_mem_append.mpr ⟨hThreads, List.forall_mem_singleton.mpr (Noted.fresh hRoom)⟩
      unfold searchFrom at h
      simp only [Option.isNone_none, if_true, List.head?_nil, Option.or_none] at h
      exact (covers_of_untilDone hProgram (noted_of_mem_settle hProgram hFirst hStarted) h).2
  | cons c text ih =>
      have hStarted : ∀ thread ∈ threads ++ [⟨0, slots⟩],
          Noted size ⟨index, before, some c⟩ thread.address thread.slots :=
        List.forall_mem_append.mpr ⟨hThreads, List.forall_mem_singleton.mpr (Noted.fresh hRoom)⟩
      unfold searchFrom at h
      simp only [Option.isNone_none, if_true, List.head?_cons, Option.or_none] at h
      generalize hSettle : settle program ⟨index, before, some c⟩ _ _ _ = settled at h
      have hSettled : ∀ thread ∈ settled,
          Noted size ⟨index, before, some c⟩ thread.address thread.slots :=
        hSettle ▸ noted_of_mem_settle hProgram hFirst hStarted
      cases hDone : (untilDone program settled).2 with
      | some slots => cases (covers_of_untilDone hProgram hSettled hDone).1
      | none =>
          simp only [hDone, Option.isSome_none, Bool.and_false, Bool.false_eq_true, if_false] at h
          have hMoved : ∀ moved ∈ (untilDone program settled).1.filterMap (Thread.take? program c),
              Noted size ⟨index + 1, some c, text.head?⟩ moved.address moved.slots := by
            intro moved hMem
            obtain ⟨thread, hThread, hTake⟩ := List.mem_filterMap.mp hMem
            exact noted_of_take? hProgram (hSettled thread (untilDone_subset hThread)) hTake
          obtain ⟨hStart, hStop⟩ := ih (by simp) hMoved h
          refine ⟨hStart, ?_⟩
          rw [hStop, List.length_cons, Nat.add_assoc, Nat.add_comm 1]

end

/-! ### Patterns of whole texts -/

variable {edition : Edition}

/-- The tokens of a pattern are read from its whole text. -/
theorem readTokens_of_tokenize {text : List Char} {tokens : List Token} {names : List GroupName}
    (h : tokenize edition text = .ok (tokens, names)) :
    ∃ final, readTokens (text.length + 1) { flags := { edition } } text = .ok (tokens, final) := by
  unfold tokenize at h
  cases hRead : readTokens (text.length + 1) { flags := { edition } } text with
  | error fault =>
      simp only [hRead] at h
      split at h <;> cases h
  | ok read =>
      simp only [hRead] at h
      split at h
      · cases h
      · cases h
        exact ⟨_, rfl⟩

/-- The tokens of a pattern in a group that does not capture, between the start and the end of a text. -/
theorem tokenize_enclosed {source : List Char} {tokens enclosing : List Token}
    {names enclosingNames : List GroupName} (hAlone : tokenize edition source = .ok (tokens, names))
    (hWhole : tokenize edition (enclosed source) = .ok (enclosing, enclosingNames)) :
    enclosing = .look .textStart :: .opening none :: tokens ++ [.closing, .look .textEnd] ∧
      .opening (some 0) ∉ tokens := by
  obtain ⟨final, hAlone⟩ := readTokens_of_tokenize hAlone
  obtain ⟨last, hWhole⟩ := readTokens_of_tokenize hWhole
  have hEnclosed : enclosed source = '^' :: '(' :: '?' :: ':' :: (source ++ closing) := rfl
  rw [hEnclosed] at hWhole
  obtain ⟨_, start, next, after, others, -, hStart, hWhole, rfl⟩ := readTokens_cons rfl hWhole
  cases hStart
  obtain ⟨_, start, next, after, others, -, hGroup, hWhole, rfl⟩ := readTokens_cons rfl hWhole
  cases hGroup
  have hOutside : ({ edition } : Flags).verbose = false ∧ ({ edition } : Flags).multiLine = false :=
    ⟨rfl, rfl⟩
  have hWithin (opening : Span) : Within { edition } { flags := { edition } }
      (Progress.enter { flags := { edition }, repeatable := true } opening { edition }) :=
    ⟨rfl, rfl, rfl, rfl, rfl⟩
  obtain ⟨rfl, hNumbered⟩ := readTokens_closed hOutside (hWithin _) (.behind source) hAlone hWhole
  exact ⟨rfl, hNumbered⟩

/-- A compiled pattern has tokens, a node of them and a program of that node. -/
theorem compile_eq_ok {source : String} {text : List Char} {pattern : Pattern}
    (h : compile edition source text = .ok pattern) :
    ∃ tokens names node, tokenize edition text = .ok (tokens, names) ∧
      Node.ofTokens? tokens = some node ∧ node.toProgram edition.sizeLimit = .ok pattern.program ∧
      0 < pattern.groups := by
  obtain ⟨⟨tokens, names⟩, hTokens, h⟩ := bind_eq_ok h
  obtain ⟨⟨program, numbers⟩, hAssemble, h⟩ := bind_eq_ok h
  unfold assemble at hAssemble
  cases hNode : Node.ofTokens? tokens with
  | none =>
      rw [hNode] at hAssemble
      cases hAssemble
  | some node =>
      rw [hNode] at hAssemble
      obtain ⟨_, hProgram, hBoth⟩ := map_eq_ok hAssemble
      obtain ⟨rfl, -⟩ := Prod.mk.inj hBoth
      cases h
      exact ⟨tokens, names, node, hTokens, hNode, hProgram, Nat.succ_pos _⟩

/-- Only the fault tells a pattern of a configuration from a pattern by itself. -/
theorem compile_of_ofText {source : String} {text : List Char} {pattern : Pattern}
    (h : ofText edition source text = .ok pattern) : compile edition source text = .ok pattern := by
  unfold ofText at h
  cases hCompile : compile edition source text with
  | error fault =>
      rw [hCompile] at h
      cases h
  | ok compiled =>
      rw [hCompile] at h
      rw [Except.ok.inj h]

/-- Whether a pattern finds no match but of the whole of a text. -/
def Covers (pattern : Pattern) : Prop :=
  ∀ text captures, pattern.find? text = some captures → captures.group? 0 = some text

/-- There is a match exactly if one can be found. -/
theorem occursIn_eq (pattern : Pattern) (text : String) :
    pattern.occursIn text = (pattern.find? text).isSome := by
  rw [occursIn, find?, Option.isSome_map]

theorem covers_of_wholeIn {source : String} {alone pattern : Pattern}
    (hAlone : anywhereIn edition source = .ok alone) (hWhole : wholeIn edition source = .ok pattern) :
    pattern.Covers := by
  obtain ⟨tokens, names, node, hTokens, hNode, -, -⟩ := compile_eq_ok (compile_of_ofText hAlone)
  obtain ⟨enclosing, _, other, hEnclosing, hOther, hProgram, hGroups⟩ :=
    compile_eq_ok (compile_of_ofText hWhole)
  obtain ⟨rfl, hNumbered⟩ := tokenize_enclosed hTokens hEnclosing
  obtain rfl := Option.some.inj (hOther.symm.trans (Node.ofTokens?_enclosed hNode))
  have hZero := Node.groups_of_ofTokens? hNode hNumbered
  intro text captures h
  obtain ⟨slots, hSearch, rfl⟩ := Option.map_eq_some_iff.mp h
  have hRoom : 2 ≤ (Array.replicate (2 * pattern.groups) (none : Option Nat)).size := by
    rw [Array.size_replicate]
    omega
  obtain ⟨hStart, hStop⟩ := covers_of_searchFrom (fun _ _ => encloses_of_toProgram hZero hProgram) hRoom
    (fun _ => rfl) (List.forall_mem_nil _) hSearch
  have hFirst : slots.getD 0 none = some 0 := by simp [hStart]
  have hLast : slots.getD 1 none = some text.toList.length := by simp [hStop]
  simp [Captures.group?, hFirst, hLast]

end LogIngest.Pattern
