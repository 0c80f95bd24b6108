import LogIngest.Proofs.Fallible
import LogIngest.Proofs.Files.Lines

/-!
Texts and their bytes. Main statements: a text can be cut at exactly those of the places, counted in bytes, that
are boundaries of characters; and a text of ASCII characters stands at the start of another text exactly if its
characters are the first bytes of that one, and the place behind it is such a boundary.
-/

namespace LogIngest.Text

open Files (textBytes)

/-- Whether a text has only characters of one byte. -/
def IsAscii (text : List Char) : Prop :=
  ∀ c ∈ text, c.toNat < 0x80

/-- The bytes of a text, each seen as the character with its number. -/
def byteChars (text : List Char) : List Char :=
  (textBytes text).map Char.ofUInt8

variable {text run rest : List Char}

theorem toNat_ofUInt8 (byte : UInt8) : (Char.ofUInt8 byte).toNat = byte.toNat :=
  UInt8.toNat_toUInt32 byte

/-- A character of ASCII is one byte with its number. -/
theorem utf8EncodeChar_ascii {c : Char} (h : c.toNat < 0x80) :
    String.utf8EncodeChar c = [UInt8.ofNat c.toNat] := by
  have hShort : c.val.toNat ≤ 127 := Nat.le_of_lt_succ h
  simp only [String.utf8EncodeChar, hShort, if_true]
  rfl

/-- Such a character is its own byte. -/
theorem byteChars_cons_ascii {c : Char} (h : c.toNat < 0x80) (text : List Char) :
    byteChars (c :: text) = c :: byteChars text := by
  have hByte : Char.ofUInt8 (UInt8.ofNat c.toNat) = c := by
    rw [← Char.toNat_inj, toNat_ofUInt8]
    exact UInt8.toNat_ofNat_of_lt' (Nat.lt_trans h (by decide))
  simp only [byteChars, textBytes, List.flatMap_cons, utf8EncodeChar_ascii h, List.map_append, List.map_cons,
    List.map_nil, hByte]
  rfl

/-- A character of several bytes starts with a byte that is no ASCII character. -/
theorem exists_byteChars_cons {c : Char} (h : 0x80 ≤ c.toNat) (text : List Char) :
    ∃ first more, byteChars (c :: text) = first :: more ∧ 0x80 ≤ first.toNat := by
  obtain ⟨byte, bytes, hBytes⟩ := List.exists_cons_of_ne_nil (Files.utf8EncodeChar_ne_nil c)
  have hByte : ¬byte.toNat < 0x80 := by
    intro hShort
    have hSame := Files.toNat_of_mem_utf8EncodeChar (hBytes ▸ List.mem_cons_self) hShort
    omega
  refine ⟨Char.ofUInt8 byte, bytes.map Char.ofUInt8 ++ byteChars text, ?_, ?_⟩
  · simp [byteChars, textBytes, hBytes]
  · rw [toNat_ofUInt8]
    exact Nat.not_lt.mp hByte

/-- A text of such characters starts another one exactly if its bytes do. -/
theorem prefix_byteChars_iff (hRun : IsAscii run) : run <+: byteChars text ↔ run <+: text := by
  induction run generalizing text with
  | nil => simp
  | cons c run ih =>
      obtain ⟨hc, hRun⟩ := List.forall_mem_cons.mp hRun
      cases text with
      | nil => exact Iff.rfl
      | cons d text =>
          by_cases hd : d.toNat < 0x80
          · rw [byteChars_cons_ascii hd, List.cons_prefix_cons, List.cons_prefix_cons, ih hRun]
          · obtain ⟨first, more, hBytes, hFirst⟩ := exists_byteChars_cons (Nat.not_lt.mp hd) text
            rw [hBytes, List.cons_prefix_cons, List.cons_prefix_cons]
            constructor
            · rintro ⟨rfl, -⟩
              omega
            · rintro ⟨rfl, -⟩
              omega

/-! ### Cuts -/

variable {before behind : List Char}

@[simp] theorem byteSize_nil : byteSize [] = 0 := rfl

@[simp] theorem byteSize_cons (c : Char) (text : List Char) :
    byteSize (c :: text) = c.utf8Size + byteSize text := rfl

@[simp] theorem byteSize_append (text more : List Char) :
    byteSize (text ++ more) = byteSize text + byteSize more := by
  induction text with
  | nil => simp
  | cons c text ih => simp [ih, Nat.add_assoc]

/-- The number of bytes is that of the library. -/
theorem utf8ByteSize_ofList (text : List Char) : (String.ofList text).utf8ByteSize = byteSize text := by
  induction text with
  | nil => rfl
  | cons c text ih => simp [String.ofList_cons, ih]

/-- A text can be cut behind any part of it. -/
theorem cut_byteSize (before behind : List Char) :
    cut (byteSize before) (before ++ behind) = .ok (before, behind) := by
  induction before with
  | nil => rw [byteSize_nil, cut, List.nil_append]
  | cons c before ih =>
      obtain ⟨size, hSize⟩ := Nat.exists_eq_add_one_of_ne_zero (Nat.ne_of_gt c.utf8Size_pos)
      have hPlace : byteSize (c :: before) = size + byteSize before + 1 := by
        rw [byteSize_cons, hSize]
        omega
      have hWhole : ¬size + byteSize before + 1 < size + 1 := by omega
      have hLeft : size + byteSize before + 1 - (size + 1) = byteSize before := by omega
      rw [hPlace, List.cons_append, cut, hSize, if_neg hWhole, hLeft, ih]
      rfl

/-- A text is cut at the places where one part of it ends and the other one starts. -/
theorem cut_eq_ok_iff {place : Nat} :
    cut place text = .ok (before, behind) ↔ text = before ++ behind ∧ place = byteSize before := by
  constructor
  · intro h
    induction text generalizing place before with
    | nil =>
        cases place with
        | zero =>
            cases h
            exact ⟨rfl, rfl⟩
        | succ place => cases h
    | cons c text ih =>
        cases place with
        | zero =>
            cases h
            exact ⟨rfl, rfl⟩
        | succ place =>
            rw [cut] at h
            split at h
            · cases h
            · obtain ⟨⟨start, rest⟩, hRest, hParts⟩ := map_eq_ok h
              obtain ⟨rfl, rfl⟩ := Prod.mk.inj hParts
              obtain ⟨rfl, hPlace⟩ := ih hRest
              refine ⟨rfl, ?_⟩
              rw [byteSize_cons, ← hPlace]
              omega
  · rintro ⟨rfl, rfl⟩
    exact cut_byteSize before behind

/-- These places are the boundaries of characters. -/
theorem isValid_iff_exists_cut {place : Nat} : String.Pos.Raw.IsValid (String.ofList text) ⟨place⟩ ↔
    ∃ before behind, cut place text = .ok (before, behind) := by
  simp only [String.Pos.Raw.isValid_iff_exists_append, cut_eq_ok_iff]
  constructor
  · rintro ⟨before, behind, hText, hPlace⟩
    have hSize := utf8ByteSize_ofList before.toList
    rw [String.ofList_toList] at hSize
    refine ⟨before.toList, behind.toList, ?_, hSize ▸ congrArg String.Pos.Raw.byteIdx hPlace⟩
    rw [← String.toList_append, ← hText, String.toList_ofList]
  · rintro ⟨before, behind, rfl, rfl⟩
    refine ⟨String.ofList before, String.ofList behind, String.ofList_append, ?_⟩
    rw [← utf8ByteSize_ofList]
    rfl

/-- Two parts of a text meet at such a boundary. -/
theorem isValid_between {text : String} (h : text.toList = before ++ behind) :
    String.Pos.Raw.IsValid text ⟨byteSize before⟩ := by
  rw [← text.ofList_toList]
  exact isValid_iff_exists_cut.mpr ⟨before, behind, cut_eq_ok_iff.mpr ⟨h, rfl⟩⟩

/-- A part of a text is what stands between its two places. -/
theorem part_eq_ok (before between behind : List Char) :
    part (byteSize before) (byteSize before + byteSize between) (before ++ between ++ behind) =
      .ok between := by
  have hOrder : ¬byteSize before + byteSize between < byteSize before := by omega
  have hStop := cut_byteSize (before ++ between) behind
  rw [byteSize_append] at hStop
  rw [part, if_neg hOrder]
  exact bind_eq_ok_iff.mpr ⟨_, hStop, bind_eq_ok_iff.mpr ⟨_, cut_byteSize before between, rfl⟩⟩

/-- The place of the first character of a kind is the number of bytes before it. -/
theorem find?_placesFrom {p : Char → Bool} {c : Char} (hBefore : ∀ d ∈ before, p d = false) (hFound : p c = true)
    (place : Nat) (behind : List Char) :
    (placesFrom place (before ++ c :: behind)).find? (p ·.2) = some (place + byteSize before, c) := by
  induction before generalizing place with
  | nil => simp [placesFrom, hFound]
  | cons d before ih =>
      obtain ⟨hFirst, hRest⟩ := List.forall_mem_cons.mp hBefore
      simp [placesFrom, hFirst, ih hRest, Nat.add_assoc]

theorem find?_placesFrom_eq_none {p : Char → Bool} (h : ∀ c ∈ text, p c = false) (place : Nat) :
    (placesFrom place text).find? (p ·.2) = none := by
  induction text generalizing place with
  | nil => rfl
  | cons c text ih =>
      obtain ⟨hFirst, hRest⟩ := List.forall_mem_cons.mp h
      simp [placesFrom, hFirst, ih hRest]

/-- ASCII characters have one byte each. -/
theorem byteSize_of_isAscii (h : IsAscii text) : byteSize text = text.length := by
  induction text with
  | nil => rfl
  | cons c text ih =>
      obtain ⟨hc, hRest⟩ := List.forall_mem_cons.mp h
      rw [byteSize_cons, ← String.length_utf8EncodeChar, utf8EncodeChar_ascii hc, ih hRest]
      exact Nat.add_comm 1 text.length

/-- A text of ASCII characters can be cut at every place. -/
theorem cut_of_isAscii (h : IsAscii text) {place : Nat} (hPlace : place ≤ text.length) :
    cut place text = .ok (text.take place, text.drop place) := by
  have hBefore : IsAscii (text.take place) := fun c hc => h c (List.mem_of_mem_take hc)
  refine cut_eq_ok_iff.mpr ⟨(List.take_append_drop place text).symm, ?_⟩
  rw [byteSize_of_isAscii hBefore, List.length_take, Nat.min_eq_left hPlace]

/-- The place behind ASCII characters at the start of a text is the start of a character. -/
theorem isValid_behind_ascii (hRun : IsAscii run) (rest : List Char) :
    String.Pos.Raw.IsValid (String.ofList (run ++ rest)) ⟨run.length⟩ :=
  byteSize_of_isAscii hRun ▸ isValid_between String.toList_ofList

end LogIngest.Text
