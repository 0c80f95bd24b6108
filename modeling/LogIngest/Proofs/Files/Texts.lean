import LogIngest.Proofs.Files.Lines
import LogIngest.Proofs.Text.Pieces

/-!
The lines of any text in a file. Main statement: a file whose bytes are those of a text is read to its end, and
its lines are the pieces of the text between line feeds.
-/

namespace LogIngest.Files

/-- A piece before a line feed, without the carriage return at its end if there is one. -/
def withoutCarriage (piece : List Char) : List Char :=
  if piece.getLast? = some '\r' then piece.dropLast else piece

/-- The lines in the pieces between line feeds. What is behind the last line feed is a line only if it is not
empty, and a carriage return at its end is part of it. -/
def linesIn : List (List Char) → List String
  | [] => []
  | [last] => if last.isEmpty then [] else [String.ofList last]
  | piece :: pieces => String.ofList (withoutCarriage piece) :: linesIn pieces

/-- The lines of a text. -/
def textLines (text : String) : List String :=
  linesIn (Text.split ['\n'] text.toList)

/-! ### Bytes of lines -/

theorem textBytes_append (first second : List Char) :
    textBytes (first ++ second) = textBytes first ++ textBytes second :=
  List.flatMap_append

theorem textBytes_eq_nil_iff {text : List Char} : textBytes text = [] ↔ text = [] := by
  cases text with
  | nil => exact iff_of_true rfl rfl
  | cons c rest => simp [textBytes, utf8EncodeChar_ne_nil c]

theorem lineText_reverse_textBytes (text : List Char) :
    lineText (textBytes text).reverse = some (String.ofList text) := by
  have hText := lineText_textBytes (String.ofList text)
  rwa [String.toList_ofList] at hText

/-- A byte is that of a carriage return only where the text has one. -/
theorem withoutReturn_textBytes (piece : List Char) :
    withoutReturn (textBytes piece).reverse = (textBytes (withoutCarriage piece)).reverse := by
  rcases List.eq_nil_or_concat' piece with rfl | ⟨before, c, rfl⟩
  · rfl
  · rw [withoutCarriage, List.getLast?_concat, List.dropLast_concat]
    split
    · next hReturn =>
        obtain rfl := Option.some.inj hReturn
        rw [textBytes_append, List.reverse_append]
        rfl
    · next hOther =>
        have hNone : 0x0D ∉ textBytes [c] :=
          not_mem_textBytes rfl (by decide) fun hMem => hOther (congrArg some (List.mem_singleton.mp hMem).symm)
        -- the last byte belongs to the last character
        have hSome : textBytes [c] ≠ [] := mt textBytes_eq_nil_iff.mp (List.cons_ne_nil c [])
        obtain ⟨bytes, byte, hBytes⟩ := (List.eq_nil_or_concat' (textBytes [c])).resolve_left hSome
        have hByte : byte ≠ 0x0D := by
          rintro rfl
          exact hNone (hBytes ▸ List.mem_concat_self)
        rw [textBytes_append, hBytes, ← List.append_assoc, List.reverse_concat, withoutReturn]
        rintro _ ⟨⟩
        exact hByte rfl

/-! ### Lines of texts -/

theorem feed_not_mem_of_endsAtFirst {piece : List Char} (h : Text.EndsAtFirst ['\n'] piece) : '\n' ∉ piece := by
  intro hMem
  obtain ⟨before, after, rfl⟩ := List.append_of_mem hMem
  have hNone := h before (after ++ ['\n']) (by simp)
  simp at hNone

theorem linesFrom_join {pieces : List (List Char)} (h : Text.Pieces ['\n'] pieces) :
    linesFrom [] (textBytes (Text.join ['\n'] pieces)) = (linesIn pieces).map some := by
  induction h with
  | @last piece h =>
      have hFeed : '\n' ∉ piece := by
        intro hMem
        obtain ⟨before, after, rfl⟩ := List.append_of_mem hMem
        exact h ⟨before, after, by simp⟩
      have hBytes : 0x0A ∉ textBytes piece := not_mem_textBytes rfl (by decide) hFeed
      have hLine := linesFrom_append hBytes [] []
      rw [List.append_nil, List.append_nil] at hLine
      rw [Text.join, hLine, linesFrom, linesIn, lineText_reverse_textBytes]
      cases hPiece : piece with
      | nil => rfl
      | cons c rest => simp [textBytes_eq_nil_iff]
  | @cons piece pieces h rest ih =>
      have hBytes : 0x0A ∉ textBytes piece :=
        not_mem_textBytes rfl (by decide) (feed_not_mem_of_endsAtFirst h)
      have hLines : linesIn (piece :: pieces) = String.ofList (withoutCarriage piece) :: linesIn pieces := by
        obtain ⟨next, more, rfl⟩ := List.exists_cons_of_ne_nil rest.ne_nil
        rfl
      rw [Text.join_cons rest.ne_nil, textBytes_append, textBytes_append, List.append_assoc]
      change linesFrom [] (textBytes piece ++ 0x0A :: textBytes (Text.join ['\n'] pieces)) = _
      rw [linesFrom_append_feed hBytes, List.append_nil, withoutReturn_textBytes, lineText_reverse_textBytes, ih,
        hLines, List.map_cons]

theorem linesFrom_text (text : String) : linesFrom [] (textBytes text.toList) = (textLines text).map some := by
  rw [textLines, ← linesFrom_join (Text.pieces_split (List.cons_ne_nil _ _) text.toList),
    Text.join_split (List.cons_ne_nil _ _)]

example : textLines "a\r\n\r\nb\r" = ["a", "", "b\r"] := by decide +kernel

/-! ### Lines of files -/

theorem map_value_numbered (path : String) (lines : List String) :
    (numbered path lines).map Located.value = lines := by
  apply List.ext_getElem?
  intro i
  simp [numbered, Function.comp_def]

/-- The lines of a text that are not blank, under their numbers in a file. -/
def filledLines (path : String) (text : String) : List (Located String) :=
  (numbered path (textLines text)).filter fun located => !blank located.value

theorem linesOf_toUTF8 (path text : String) : linesOf path text.toUTF8 = { items := filledLines path text } := by
  rw [linesOf, toList_toUTF8, linesFrom_text, ofTexts_map_some, filledLines, numbered]

/-- Files of texts are read to their ends. -/
theorem readLines_toUTF8 {read : String → Except ReadFault ByteArray} {contents : String → String}
    {paths : List String} (h : ∀ path ∈ paths, read path = .ok (contents path).toUTF8) :
    readLines read paths = { items := paths.flatMap fun path => filledLines path (contents path) } := by
  induction paths with
  | nil => rfl
  | cons path paths ih =>
      obtain ⟨hFirst, hRest⟩ := List.forall_mem_cons.mp h
      simp only [readLines, hFirst, linesOf_toUTF8, ih hRest, Readout.andThen, List.flatMap_cons]

end LogIngest.Files
