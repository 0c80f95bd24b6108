import LogIngest.CommandLine.Environment

/-!
Lines are read back from the files that they are written to. Main statement: lines that hold no line break
and are not blank, each with a line feed at its end, are found in their order, each under its number.
-/

namespace LogIngest.Files

open CommandLine (Transcript)

/-! ### Bytes of texts -/

/-- The bytes of a text in UTF-8. -/
def textBytes (text : List Char) : List UInt8 :=
  text.flatMap String.utf8EncodeChar

theorem toList_loop (bytes : ByteArray) (i : Nat) (before : List UInt8) :
    ByteArray.toList.loop bytes i before = before.reverse ++ bytes.data.toList.drop i := by
  have hSize : bytes.data.toList.length = bytes.size := rfl
  induction i, before using ByteArray.toList.loop.induct bytes with
  | case1 i before hMore ih =>
      have hByte : bytes.data.toList.drop i = bytes.get! i :: bytes.data.toList.drop (i + 1) := by
        rw [List.drop_eq_getElem_cons (hSize ▸ hMore)]
        simp [ByteArray.get!, hMore]
      rw [ByteArray.toList.loop, if_pos hMore, ih, hByte, List.reverse_cons, List.append_assoc]
      rfl
  | case2 i before hEnd =>
      have hNone : bytes.data.toList.drop i = [] :=
        List.drop_eq_nil_of_le (hSize ▸ Nat.le_of_not_lt hEnd)
      rw [ByteArray.toList.loop, if_neg hEnd, hNone, List.append_nil]

/-- The bytes of a text are those of the library. -/
theorem toByteArray_textBytes (s : String) : (textBytes s.toList).toByteArray = s.toUTF8 :=
  String.utf8Encode_toList

theorem toList_toUTF8 (s : String) : s.toUTF8.toList = textBytes s.toList := by
  rw [ByteArray.toList, toList_loop, ← toByteArray_textBytes, List.toList_data_toByteArray]
  rfl

theorem utf8EncodeChar_ne_nil (c : Char) : String.utf8EncodeChar c ≠ [] := by
  apply List.ne_nil_of_length_pos
  rw [String.length_utf8EncodeChar]
  exact c.utf8Size_pos

/-- Bytes below 0x80 are no part of a character of several bytes. -/
theorem toNat_of_mem_utf8EncodeChar {c : Char} {byte : UInt8} (h : byte ∈ String.utf8EncodeChar c)
    (hByte : byte.toNat < 0x80) : byte.toNat = c.toNat := by
  have hLong : ∀ value lead : Nat, 0x80 ≤ lead → value + lead < 0x100 →
      byte ≠ UInt8.ofNat (value + lead) := by
    rintro value lead hLead hFits rfl
    rw [UInt8.toNat_ofNat_of_lt' hFits] at hByte
    omega
  unfold String.utf8EncodeChar at h
  simp only at h
  split at h
  · next hShort =>
      obtain rfl := List.mem_singleton.mp h
      exact UInt8.toNat_ofNat_of_lt' (Nat.lt_of_le_of_lt hShort (by decide))
  · -- all bytes of a longer form have their highest bit
    exfalso
    split at h
    · simp only [List.mem_cons, List.not_mem_nil, or_false] at h
      rcases h with h | h <;> exact hLong _ _ (by decide) (by omega) h
    · split at h <;> simp only [List.mem_cons, List.not_mem_nil, or_false] at h
      · rcases h with h | h | h <;> exact hLong _ _ (by decide) (by omega) h
      · rcases h with h | h | h | h <;> exact hLong _ _ (by decide) (by omega) h

/-- A character of ASCII is among the bytes of a text only if it is in the text. -/
theorem not_mem_textBytes {c : Char} {byte : UInt8} (hSame : byte.toNat = c.toNat)
    (hByte : byte.toNat < 0x80) {text : List Char} (h : c ∉ text) : byte ∉ textBytes text := by
  intro hMem
  obtain ⟨d, hd, hPart⟩ := List.mem_flatMap.mp hMem
  have hChar : c = d := Char.toNat_inj.mp (hSame.symm.trans (toNat_of_mem_utf8EncodeChar hPart hByte))
  exact h (hChar ▸ hd)

/-- The bytes of a line are its text. -/
theorem lineText_textBytes (s : String) : lineText (textBytes s.toList).reverse = some s := by
  have hArray : (⟨(textBytes s.toList).reverse.reverse.toArray⟩ : ByteArray) = s.toUTF8 := by
    rw [List.reverse_reverse, ← toByteArray_textBytes]
    exact ByteArray.ext (Array.toList_inj.mp List.toList_data_toByteArray.symm)
  rw [lineText, hArray]
  exact dif_pos s.isValidUTF8

/-! ### Lines of bytes -/

/-- A text without line breaks is a line. -/
structure IsLine (text : String) : Prop where
  feed : '\n' ∉ text.toList
  carriage : '\r' ∉ text.toList

/-- A line without carriage returns is not shortened. -/
theorem withoutReturn_of_not_mem {reversed : List UInt8} (h : 0x0D ∉ reversed) :
    withoutReturn reversed = reversed := by
  unfold withoutReturn
  split
  · exact absurd List.mem_cons_self h
  · rfl

/-- Bytes without a line feed belong to the current line. -/
theorem linesFrom_append {bytes : List UInt8} (h : 0x0A ∉ bytes) (reversed rest : List UInt8) :
    linesFrom reversed (bytes ++ rest) = linesFrom (bytes.reverse ++ reversed) rest := by
  induction bytes generalizing reversed with
  | nil => rfl
  | cons byte bytes ih =>
      have hFirst : byte ≠ 0x0A := (List.ne_of_not_mem_cons h).symm
      rw [List.cons_append, linesFrom, ih (List.not_mem_of_not_mem_cons h), List.reverse_cons,
        List.append_assoc, List.singleton_append]
      exact hFirst

/-- A line goes up to the first line feed. -/
theorem linesFrom_append_feed {bytes : List UInt8} (h : 0x0A ∉ bytes) (reversed rest : List UInt8) :
    linesFrom reversed (bytes ++ 0x0A :: rest) =
      lineText (withoutReturn (bytes.reverse ++ reversed)) :: linesFrom [] rest := by
  rw [linesFrom_append h]
  rfl

/-- Lines that are written with line feeds are found again. -/
theorem linesFrom_textBytes {lines : List String} (h : ∀ line ∈ lines, IsLine line) :
    linesFrom [] (textBytes (Transcript.text lines).toList) = lines.map some := by
  induction lines with
  | nil => rfl
  | cons line lines ih =>
      obtain ⟨hLine, hLines⟩ := List.forall_mem_cons.mp h
      have hText : textBytes (Transcript.text (line :: lines)).toList =
          textBytes line.toList ++ 0x0A :: textBytes (Transcript.text lines).toList := by
        rw [Transcript.text, List.map_cons, String.join_cons, String.toList_append,
          String.toList_append, textBytes, List.flatMap_append, List.flatMap_append,
          List.append_assoc]
        rfl
      have hReturn : 0x0D ∉ (textBytes line.toList).reverse := by
        rw [List.mem_reverse]
        exact not_mem_textBytes rfl (by decide) hLine.carriage
      rw [hText, linesFrom_append_feed (not_mem_textBytes rfl (by decide) hLine.feed), List.append_nil,
        withoutReturn_of_not_mem hReturn, lineText_textBytes, ih hLines, List.map_cons]

/-! ### Lines of files -/

theorem ofTexts_map_some (lines : List String) :
    Readout.ofTexts (lines.map some) = { items := lines } := by
  induction lines with
  | nil => rfl
  | cons line lines ih => simp only [List.map_cons, Readout.ofTexts, ih]

/-- Lines under their numbers in a file. -/
def numbered (path : String) (lines : List String) : List (Located String) :=
  lines.mapIdx fun i line => { path, line := i + 1, value := line }

/-- A file of such lines has just these, under their numbers. -/
theorem linesOf_text (path : String) {lines : List String}
    (h : ∀ line ∈ lines, IsLine line ∧ blank line = false) :
    linesOf path (Transcript.text lines).toUTF8 = { items := numbered path lines } := by
  have hFilled : (numbered path lines).filter (fun located => !blank located.value) =
      numbered path lines := by
    rw [List.filter_eq_self]
    intro located hLocated
    obtain ⟨i, hi, rfl⟩ := List.mem_mapIdx.mp hLocated
    simp [(h _ (List.getElem_mem hi)).2]
  rw [linesOf, toList_toUTF8, linesFrom_textBytes fun line hLine => (h line hLine).1,
    ofTexts_map_some]
  rw [numbered] at hFilled ⊢
  simp only [hFilled]

/-- The lines of files are read file by file. -/
theorem readLines_text {lines : String → List String}
    (h : ∀ path, ∀ line ∈ lines path, IsLine line ∧ blank line = false) (paths : List String) :
    readLines (fun path => .ok (Transcript.text (lines path)).toUTF8) paths =
      { items := paths.flatMap fun path => numbered path (lines path) } := by
  induction paths with
  | nil => rfl
  | cons path paths ih =>
      simp only [readLines, linesOf_text path (h path), ih, Readout.andThen, List.flatMap_cons]

end LogIngest.Files
