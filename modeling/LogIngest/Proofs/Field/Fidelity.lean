import Mathlib.Data.Set.Function
import LogIngest.Field.Value
import LogIngest.Proofs.Json.Values

/-!
What fields keep of JSON values. Main statement: the field of a value is written as that value exactly if all
its whole numbers have 64 bits and all its doubles are finite, at every depth, so that no two such values have
the same field and each has the text of its field.
-/

namespace LogIngest

open Json (Number Value)

/-! ### Values as they are written -/

namespace Json

/-- What a number is written as. Doubles that are no numbers are written as null. -/
def Number.written : Number → Value
  | .integer n => .number (.integer n)
  | .double x => if x.isFinite then .number (.double x) else .null

namespace Value

mutual

/-- The value that stands in the text of a value. -/
def written : Value → Value
  | null => .null
  | bool b => .bool b
  | number n => n.written
  | string s => .string s
  | array items => .array (writtenItems items)
  | object members => .object (writtenMembers members)

def writtenItems : List Value → List Value
  | [] => []
  | v :: vs => written v :: writtenItems vs

def writtenMembers : List (String × Value) → List (String × Value)
  | [] => []
  | (k, v) :: rest => (k, written v) :: writtenMembers rest

end

theorem compact_written_number (n : Number) : n.written.compact = n.text := by
  cases n with
  | integer n => rfl
  | double x =>
      rw [Number.written, Number.text]
      split
      · next hFinite => exact if_pos hFinite
      · rfl

mutual

/-- It has the same text. -/
theorem compact_written : ∀ v : Value, v.written.compact = v.compact
  | null => rfl
  | bool _ => rfl
  | number n => compact_written_number n
  | string _ => rfl
  | array items => by rw [written, compact, compact, compactItems_written items]
  | object members => by rw [written, compact, compact, compactMembers_written members]

theorem compactItems_written : ∀ items : List Value, compactItems (writtenItems items) = compactItems items
  | [] => rfl
  | v :: vs => by rw [writtenItems, compactItems, compactItems, compact_written v, compactItems_written vs]

theorem compactMembers_written : ∀ members : List (String × Value),
    compactMembers (writtenMembers members) = compactMembers members
  | [] => rfl
  | (k, v) :: rest => by
      rw [writtenMembers, compactMembers, compactMembers, compact_written v, compactMembers_written rest]

end

end Value

/-- A number that a field can hold as it is. -/
def Number.IsHeld : Number → Prop
  | .integer n => Bounds.int64.admits n = true
  | .double x => x.isFinite = true

instance : DecidablePred Number.IsHeld
  | .integer n => inferInstanceAs (Decidable (Bounds.int64.admits n = true))
  | .double x => inferInstanceAs (Decidable (x.isFinite = true))

end Json

/-! ### Fields of values -/

namespace FieldValue

/-- A number within the bounds of a type is the number of its bits. -/
theorem bmod_of_admits {bounds : Bounds} {half : Nat} (hBounds : bounds = ⟨-half, half - 1⟩) {n : Int}
    (h : bounds.admits n = true) : n.bmod (2 * half) = n := by
  obtain ⟨hLeast, hGreatest⟩ := Bounds.admits_iff.mp (hBounds ▸ h)
  dsimp only at hLeast hGreatest
  exact Int.bmod_eq_of_le (by omega) (by omega)

theorem written_toJson_integer {n : Int} (h : Bounds.int32.admits n = true) :
    (integer (Int32.ofInt n)).toJson.written = .number (.integer n) := by
  rw [toJson, Int32.toInt_ofInt]
  exact congrArg (Value.number ∘ .integer) (@bmod_of_admits _ (2 ^ 31) (by decide) n h)

theorem written_toJson_long {n : Int} (h : Bounds.int64.admits n = true) :
    (long (Int64.ofInt n)).toJson.written = .number (.integer n) := by
  rw [toJson, Int64.toInt_ofInt]
  exact congrArg (Value.number ∘ .integer) (@bmod_of_admits _ (2 ^ 63) (by decide) n h)

/-- A double never becomes a whole number again. -/
theorem written_toJson_double_ne (x : Float) (n : Int) :
    (double x).toJson.written ≠ .number (.integer n) := by
  rw [toJson, Value.written, Number.written]
  split <;> simp

theorem admits_int64_of_int32 {n : Int} (h : Bounds.int32.admits n = true) : Bounds.int64.admits n = true := by
  rw [Bounds.admits_iff] at h ⊢
  simp only [Bounds.int32, Bounds.int64] at h ⊢
  omega

theorem written_toJson_ofNumber_iff (n : Number) :
    (ofNumber n).toJson.written = .number n ↔ n.IsHeld := by
  cases n with
  | integer n =>
      rw [ofNumber, Number.IsHeld]
      split
      · next hInteger => exact iff_of_true (written_toJson_integer hInteger) (admits_int64_of_int32 hInteger)
      · split
        · next hLong => exact iff_of_true (written_toJson_long hLong) hLong
        · next hBeyond => exact iff_of_false (written_toJson_double_ne _ n) hBeyond
  | double x =>
      rw [ofNumber, toJson, Value.written, Number.written, Number.IsHeld]
      split
      · next hFinite => exact iff_of_true rfl hFinite
      · next hInfinite => exact iff_of_false (by simp) hInfinite

mutual

/-- The field of a value is written as that value exactly if all its numbers can be held. -/
theorem written_toJson_ofJson_iff : ∀ v : Value,
    (ofJson v).toJson.written = v ↔ v.Numbers Number.IsHeld
  | .null => iff_of_true rfl .null
  | .bool b => iff_of_true rfl (.bool b)
  | .number n => (written_toJson_ofNumber_iff n).trans Value.numbers_number_iff.symm
  | .string s => iff_of_true rfl (.string s)
  | .array items => by
      rw [ofJson, toJson, Value.written, Value.numbers_array_iff, Value.array.injEq]
      exact writtenItems_toJson_ofJson_iff items
  | .object members => by
      rw [ofJson, toJson, Value.written, Value.numbers_object_iff, Value.object.injEq]
      exact writtenMembers_toJson_ofJson_iff members

theorem writtenItems_toJson_ofJson_iff : ∀ items : List Value,
    Value.writtenItems (toJsonItems (ofJsonItems items)) = items ↔
      ∀ item ∈ items, item.Numbers Number.IsHeld
  | [] => iff_of_true rfl nofun
  | v :: vs => by
      rw [ofJsonItems, toJsonItems, Value.writtenItems, List.cons.injEq, List.forall_mem_cons,
        written_toJson_ofJson_iff v, writtenItems_toJson_ofJson_iff vs]

theorem writtenMembers_toJson_ofJson_iff : ∀ members : List (String × Value),
    Value.writtenMembers (toJsonMembers (ofJsonMembers members)) = members ↔
      ∀ member ∈ members, member.2.Numbers Number.IsHeld
  | [] => iff_of_true rfl nofun
  | (k, v) :: rest => by
      rw [ofJsonMembers, toJsonMembers, Value.writtenMembers, List.cons.injEq, List.forall_mem_cons,
        Prod.mk.injEq, written_toJson_ofJson_iff v, writtenMembers_toJson_ofJson_iff rest]
      simp only [true_and]

end

/-- Where all numbers can be held, the field of a value has the same text as the value. -/
theorem compact_toJson_ofJson {v : Value} (h : v.Numbers Number.IsHeld) :
    (ofJson v).toJson.compact = v.compact := by
  rw [← Value.compact_written, (written_toJson_ofJson_iff v).mpr h]

/-- Fields keep values as they are: nothing is lost if all numbers can be held, and two such values have
different fields. -/
theorem faithful_ofJson :
    (∀ v : Value, (ofJson v).toJson.written = v ↔ v.Numbers Number.IsHeld) ∧
      Set.InjOn ofJson {v | v.Numbers Number.IsHeld} := by
  refine ⟨written_toJson_ofJson_iff, fun v hv w hw hSame => ?_⟩
  calc
    v = (ofJson v).toJson.written := ((written_toJson_ofJson_iff v).mpr hv).symm
    _ = (ofJson w).toJson.written := by rw [hSame]
    _ = w := (written_toJson_ofJson_iff w).mpr hw

/-- Numbers on both sides of where the type of whole numbers changes, one with a fraction, and containers
without elements. -/
def boundaryNumbers : Value :=
  .object
    [("", .array [.ofInt 2147483647, .ofInt 2147483648, .ofInt (-2147483648), .ofInt (-2147483649)]),
      ("deep", .object [("far", .array [.ofInt 9223372036854775807, .ofInt (-9223372036854775808)]),
        ("half", .number (.double 0.5))]),
      ("none", .array [.null, .array [], .object []])]

theorem faithful_ofJson_boundaryNumbers :
    (ofJson boundaryNumbers).toJson.written = boundaryNumbers ∧
      ofJson (.ofInt 5) ≠ ofJson (.number (.double 5)) ∧
      (ofJson (.ofInt 9223372036854775808)).toJson.written ≠ .ofInt 9223372036854775808 := by
  have hNull : Value.null.Numbers Number.IsHeld := .null
  have hHeld : boundaryNumbers.Numbers Number.IsHeld := by
    simp only [boundaryNumbers, Value.ofInt, Value.numbers_object_iff, Value.numbers_array_iff,
      Value.numbers_number_iff, List.forall_mem_cons, List.not_mem_nil, false_implies, implies_true, and_true,
      hNull]
    decide +kernel
  refine ⟨(faithful_ofJson.1 _).mpr hHeld, fun hSame => ?_, fun hSame => ?_⟩
  · have hWhole : (Value.ofInt 5).Numbers Number.IsHeld := .number (by decide)
    have hDouble : (Value.number (.double 5)).Numbers Number.IsHeld := .number (by decide +kernel)
    cases faithful_ofJson.2 hWhole hDouble hSame
  · have hBeyond := Value.numbers_number_iff.mp ((faithful_ofJson.1 _).mp hSame)
    exact absurd hBeyond (by decide)

end FieldValue

end LogIngest
