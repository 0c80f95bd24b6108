/-!
Durations in whole microseconds that fit in 64 bits. Sums stop at the longest one. Main statements:
addition is commutative and associative, and a sum is at least as long as each of its parts.
-/

namespace LogIngest

/-- A duration in microseconds. -/
structure Duration where
  micros : Nat
  micros_le : micros ≤ 18446744073709551615
deriving DecidableEq, Repr

namespace Duration

/-- The duration of so many microseconds, or the longest one. -/
def ofMicros (micros : Nat) : Duration where
  micros := min micros 18446744073709551615
  micros_le := by omega

def zero : Duration := ofMicros 0

instance : Inhabited Duration := ⟨zero⟩
instance : Zero Duration := ⟨zero⟩
instance : Add Duration := ⟨fun a b => ofMicros (a.micros + b.micros)⟩
instance : LE Duration := ⟨fun a b => a.micros ≤ b.micros⟩
instance (a b : Duration) : Decidable (a ≤ b) := inferInstanceAs (Decidable (a.micros ≤ b.micros))
instance : Min Duration := minOfLe
instance : Max Duration := maxOfLe

/-- A duration is its number of microseconds. -/
@[ext] theorem ext {a b : Duration} (h : a.micros = b.micros) : a = b := by
  cases a
  cases b
  cases h
  rfl

/-- A number that does not fit becomes the longest duration. -/
@[simp] theorem micros_ofMicros (micros : Nat) : (ofMicros micros).micros = min micros 18446744073709551615 := rfl
@[simp] theorem micros_zero : (0 : Duration).micros = 0 := rfl
@[simp] theorem micros_add (a b : Duration) :
    (a + b).micros = min (a.micros + b.micros) 18446744073709551615 := rfl

/-- Durations are compared by their numbers. -/
theorem le_iff {a b : Duration} : a ≤ b ↔ a.micros ≤ b.micros := Iff.rfl

@[simp] theorem micros_min (a b : Duration) : (min a b).micros = min a.micros b.micros := by
  simp only [min, le_iff]
  split <;> simp_all

@[simp] theorem micros_max (a b : Duration) : (max a b).micros = max a.micros b.micros := by
  simp only [max, le_iff]
  split <;> simp_all

theorem add_comm (a b : Duration) : a + b = b + a := by
  ext
  simp [Nat.add_comm]

/-- Stopping at the longest duration does not depend on the order of the sums. -/
theorem add_assoc (a b c : Duration) : a + b + c = a + (b + c) := by
  ext
  simp only [micros_add]
  omega

theorem min_comm (a b : Duration) : min a b = min b a := by
  ext
  simp [Nat.min_comm]

theorem min_assoc (a b c : Duration) : min (min a b) c = min a (min b c) := by
  ext
  simp [Nat.min_assoc]

theorem max_comm (a b : Duration) : max a b = max b a := by
  ext
  simp [Nat.max_comm]

theorem max_assoc (a b c : Duration) : max (max a b) c = max a (max b c) := by
  ext
  simp [Nat.max_assoc]

instance : Std.Associative (min : Duration → Duration → Duration) := ⟨min_assoc⟩
instance : Std.Associative (max : Duration → Duration → Duration) := ⟨max_assoc⟩

@[simp] theorem add_zero (a : Duration) : a + 0 = a := by
  ext
  have := a.micros_le
  simp only [micros_add, micros_zero]
  omega

@[simp] theorem max_zero (a : Duration) : max a 0 = a := by
  ext
  simp

/-- A sum is at least as long as its second part. -/
theorem le_add_left (a b : Duration) : b ≤ a + b := by
  have := b.micros_le
  simp only [le_iff, micros_add]
  omega

end Duration
end LogIngest
