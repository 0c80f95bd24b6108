import Mathlib.Data.List.Forall2

/-!
Computations that may fail, taken apart where they succeed, the faults that they fail with, and the first failure
among several.
-/

namespace LogIngest

variable {α β γ ε : Type}

/-- A computation in two steps that succeeds has succeeded in both. -/
theorem bind_eq_ok {x : Except ε α} {f : α → Except ε β} {b : β} (h : (x >>= f) = .ok b) :
    ∃ a, x = .ok a ∧ f a = .ok b := by
  cases x with
  | error fault => cases h
  | ok a => exact ⟨a, rfl, h⟩

theorem bind_eq_ok_iff {x : Except ε α} {f : α → Except ε β} {b : β} :
    (x >>= f) = .ok b ↔ ∃ a, x = .ok a ∧ f a = .ok b := by
  constructor
  · exact bind_eq_ok
  · rintro ⟨a, rfl, h⟩
    exact h

/-- What is made of a result comes from a result. -/
theorem map_eq_ok {x : Except ε α} {f : α → β} {b : β} (h : x.map f = .ok b) :
    ∃ a, x = .ok a ∧ f a = b := by
  cases x with
  | error fault => cases h
  | ok a => exact ⟨a, rfl, Except.ok.inj h⟩

theorem map_eq_ok_iff {x : Except ε α} {f : α → β} {b : β} :
    x.map f = .ok b ↔ ∃ a, x = .ok a ∧ f a = b := by
  constructor
  · exact map_eq_ok
  · rintro ⟨a, rfl, rfl⟩
    rfl

/-- A function that is applied to results passes faults on. -/
theorem map_eq_error {x : Except ε α} {f : α → β} {fault : ε} (h : x.map f = .error fault) :
    x = .error fault := by
  cases x with
  | error other => rw [Except.error.inj h]
  | ok a => cases h

/-- A function that is applied to faults leaves results alone. -/
theorem mapError_eq_ok {δ : Type} {x : Except ε α} {f : ε → δ} {a : α} (h : x.mapError f = .ok a) : x = .ok a := by
  cases x with
  | error fault => cases h
  | ok b => cases h; rfl

/-- A result that is seen as an option comes from a success. -/
theorem eq_ok_of_toOption {x : Except ε α} {a : α} (h : x.toOption = some a) : x = .ok a := by
  cases x with
  | error fault => cases h
  | ok b => rw [Option.some.inj h]

theorem exists_eq_error_of_toOption {x : Except ε α} (h : x.toOption = none) :
    ∃ fault, x = .error fault := by
  cases x with
  | error fault => exact ⟨fault, rfl⟩
  | ok a => cases h

/-- Several things are made by making the first one and then the others. -/
theorem mapM_cons_eq_ok_iff {f : α → Except ε β} {a : α} {as : List α} {cs : List β} :
    (a :: as).mapM f = .ok cs ↔ ∃ b bs, f a = .ok b ∧ as.mapM f = .ok bs ∧ b :: bs = cs := by
  rw [List.mapM_cons]
  cases f a with
  | error fault => simp [bind, Except.bind]
  | ok b => cases as.mapM f <;> simp [bind, Except.bind, pure, Except.pure]

/-- Things made of two lists are those made of the first, and behind them those made of the second. -/
theorem mapM_append_eq_ok_iff {f : α → Except ε β} {as others : List α} {cs : List β} :
    (as ++ others).mapM f = .ok cs ↔
      ∃ bs ds, as.mapM f = .ok bs ∧ others.mapM f = .ok ds ∧ bs ++ ds = cs := by
  rw [List.mapM_append]
  cases as.mapM f with
  | error fault => simp [bind, Except.bind]
  | ok bs => cases others.mapM f <;> simp [bind, Except.bind, pure, Except.pure]

/-- Where one computation succeeds, so does another one, and what they yield is related. -/
def Agree (r : α → β → Prop) (x : Except ε α) (y : Except ε β) : Prop :=
  ∀ a, x = .ok a → ∃ b, y = .ok b ∧ r a b

namespace Agree

variable {δ : Type} {r : α → β → Prop} {s : γ → δ → Prop}

theorem ok {a : α} {b : β} (h : r a b) : Agree r (.ok a : Except ε α) (.ok b) := by
  rintro _ ⟨⟩
  exact ⟨b, rfl, h⟩

theorem error {fault : ε} {y : Except ε β} : Agree r (.error fault) y :=
  nofun

/-- Agreement carries through steps that agree on related results. -/
theorem bind {x : Except ε α} {y : Except ε β} {f : α → Except ε γ} {g : β → Except ε δ}
    (h : Agree r x y) (hNext : ∀ a b, r a b → Agree s (f a) (g b)) : Agree s (x >>= f) (y >>= g) := by
  intro c hc
  obtain ⟨a, hx, hc⟩ := bind_eq_ok hc
  obtain ⟨b, hy, hab⟩ := h a hx
  obtain ⟨d, hd, hcd⟩ := hNext a b hab c hc
  exact ⟨d, by rw [hy]; exact hd, hcd⟩

/-- Agreement carries through functions that keep results related. -/
theorem map {x : Except ε α} {y : Except ε β} {f : α → γ} {g : β → δ} (h : Agree r x y)
    (hNext : ∀ a b, r a b → s (f a) (g b)) : Agree s (x.map f) (y.map g) := by
  intro c hc
  obtain ⟨a, hx, rfl⟩ := map_eq_ok hc
  obtain ⟨b, hy, hab⟩ := h a hx
  exact ⟨g b, by rw [hy]; rfl, hNext a b hab⟩

end Agree

/-- What is made of several things is made of each of them, in their order. -/
theorem forall₂_of_mapM_eq_ok {f : α → Except ε β} {as : List α} {bs : List β}
    (h : as.mapM f = .ok bs) : List.Forall₂ (fun a b => f a = .ok b) as bs := by
  induction as generalizing bs with
  | nil =>
      rw [List.mapM_nil] at h
      obtain rfl := Except.ok.inj h
      exact .nil
  | cons a as ih =>
      obtain ⟨b, bs, hFirst, hRest, rfl⟩ := mapM_cons_eq_ok_iff.mp h
      exact .cons hFirst (ih hRest)

/-- Everything that is made is made of something. -/
theorem exists_mem_of_mapM_eq_ok {f : α → Except ε β} {as : List α} {bs : List β} {b : β}
    (h : as.mapM f = .ok bs) (hb : b ∈ bs) : ∃ a ∈ as, f a = .ok b := by
  induction as generalizing bs with
  | nil =>
      rw [List.mapM_nil] at h
      obtain rfl := Except.ok.inj h
      cases hb
  | cons a as ih =>
      obtain ⟨first, rest, hFirst, hRest, rfl⟩ := mapM_cons_eq_ok_iff.mp h
      rcases List.mem_cons.mp hb with rfl | hLater
      · exact ⟨a, List.mem_cons_self, hFirst⟩
      · obtain ⟨other, hOther, hMade⟩ := ih hRest hLater
        exact ⟨other, List.mem_cons_of_mem a hOther, hMade⟩

/-- Things that are made look like those they were made of exactly when each one does. -/
theorem map_eq_iff_of_mapM_eq_ok {f : α → Except ε β} {g : α → γ} {k : β → γ} {as : List α} {bs : List β}
    (h : as.mapM f = .ok bs) : bs.map k = as.map g ↔ ∀ a ∈ as, ∀ b, f a = .ok b → k b = g a := by
  induction as generalizing bs with
  | nil =>
      rw [List.mapM_nil] at h
      obtain rfl := Except.ok.inj h
      exact ⟨fun _ => nofun, fun _ => rfl⟩
  | cons a as ih =>
      obtain ⟨b, bs, hFirst, hRest, rfl⟩ := mapM_cons_eq_ok_iff.mp h
      rw [List.map_cons, List.map_cons, List.cons.injEq, ih hRest, List.forall_mem_cons, hFirst]
      refine and_congr_left' ⟨?_, fun hHead => hHead b rfl⟩
      rintro hHead _ ⟨⟩
      exact hHead

/-- Several things can be made exactly when each of them can. -/
theorem exists_mapM_eq_ok_iff {f : α → Except ε β} {as : List α} :
    (∃ bs, as.mapM f = .ok bs) ↔ ∀ a ∈ as, ∃ b, f a = .ok b := by
  induction as with
  | nil => exact ⟨fun _ => nofun, fun _ => ⟨[], rfl⟩⟩
  | cons a as ih =>
      rw [List.forall_mem_cons, ← ih]
      constructor
      · rintro ⟨cs, h⟩
        obtain ⟨b, bs, hFirst, hRest, -⟩ := mapM_cons_eq_ok_iff.mp h
        exact ⟨⟨b, hFirst⟩, bs, hRest⟩
      · rintro ⟨⟨b, hFirst⟩, bs, hRest⟩
        exact ⟨b :: bs, mapM_cons_eq_ok_iff.mpr ⟨b, bs, hFirst, hRest, rfl⟩⟩

/-- Several things that can be made can be made in any order, which is then the order of what is made. -/
theorem exists_mapM_eq_ok_of_perm {f : α → Except ε β} {as others : List α} {bs : List β}
    (hPerm : as.Perm others) (h : as.mapM f = .ok bs) : ∃ cs, others.mapM f = .ok cs ∧ bs.Perm cs := by
  induction hPerm generalizing bs with
  | nil => exact ⟨bs, h, .refl bs⟩
  | cons a _ ih =>
      obtain ⟨b, rest, hFirst, hRest, rfl⟩ := mapM_cons_eq_ok_iff.mp h
      obtain ⟨cs, hOther, hSame⟩ := ih hRest
      exact ⟨b :: cs, mapM_cons_eq_ok_iff.mpr ⟨b, cs, hFirst, hOther, rfl⟩, hSame.cons b⟩
  | swap a a' as =>
      obtain ⟨b', _, hFirst, hMore, rfl⟩ := mapM_cons_eq_ok_iff.mp h
      obtain ⟨b, rest, hSecond, hRest, rfl⟩ := mapM_cons_eq_ok_iff.mp hMore
      refine ⟨b :: b' :: rest, mapM_cons_eq_ok_iff.mpr ⟨b, b' :: rest, hSecond, ?_, rfl⟩, .swap b b' rest⟩
      exact mapM_cons_eq_ok_iff.mpr ⟨b', rest, hFirst, hRest, rfl⟩
  | trans _ _ ih ihNext =>
      obtain ⟨between, hBetween, hSame⟩ := ih h
      obtain ⟨cs, hOther, hNext⟩ := ihNext hBetween
      exact ⟨cs, hOther, hSame.trans hNext⟩

/-! ### What goes wrong -/

/-- All that a computation fails with has a property. -/
def FailsOnly (p : ε → Prop) (x : Except ε α) : Prop :=
  ∀ fault, x = .error fault → p fault

namespace FailsOnly

variable {δ : Type} {p : ε → Prop}

theorem ok (a : α) : FailsOnly p (.ok a) :=
  nofun

theorem error {fault : ε} (h : p fault) : FailsOnly p (.error fault : Except ε α) := by
  rintro _ ⟨⟩
  exact h

theorem bind {x : Except ε α} {f : α → Except ε β} (h : FailsOnly p x) (hNext : ∀ a, FailsOnly p (f a)) :
    FailsOnly p (x >>= f) := by
  cases x with
  | error fault => exact error (h fault rfl)
  | ok a => exact hNext a

theorem map {x : Except ε α} (h : FailsOnly p x) (f : α → β) : FailsOnly p (x.map f) := by
  intro fault hFault
  exact h fault (map_eq_error hFault)

/-- A translation of faults has its say on all of them. -/
theorem mapError {f : δ → ε} (h : ∀ fault, p (f fault)) (x : Except δ α) : FailsOnly p (x.mapError f) := by
  cases x with
  | error fault => exact error (h fault)
  | ok a => exact ok a

/-- If each of several things fails only in some way, so do all of them together. -/
theorem mapM {f : α → Except ε β} (h : ∀ a, FailsOnly p (f a)) (as : List α) : FailsOnly p (as.mapM f) := by
  induction as with
  | nil => exact ok []
  | cons a as ih =>
      rw [List.mapM_cons]
      exact (h a).bind fun b => ih.bind fun bs => ok (b :: bs)

/-- An optional thing fails only in the way in which it does when it is there. -/
theorem optionMapM {f : α → Except ε β} (h : ∀ a, FailsOnly p (f a)) (a? : Option α) :
    FailsOnly p (a?.mapM f) := by
  cases a? with
  | none => exact ok none
  | some a => exact (h a).bind fun b => ok (some b)

end FailsOnly

/-! ### The first failure -/

/-- A failure is the first one among outcomes. -/
inductive FirstFailure : List (Except ε α) → ε → Prop where
  | here (fault : ε) (rest : List (Except ε α)) : FirstFailure (.error fault :: rest) fault
  | later (a : α) {rest : List (Except ε α)} {fault : ε} (h : FirstFailure rest fault) :
      FirstFailure (.ok a :: rest) fault

/-- What is made of successes does not change which failure is the first. -/
theorem firstFailure_map_iff {g : α → β} {outcomes : List (Except ε α)} {fault : ε} :
    FirstFailure (outcomes.map (Except.map g)) fault ↔ FirstFailure outcomes fault := by
  induction outcomes with
  | nil => exact ⟨nofun, nofun⟩
  | cons outcome rest ih =>
      cases outcome with
      | error other =>
          constructor
          · rintro ⟨⟩
            exact .here fault rest
          · rintro ⟨⟩
            exact .here fault _
      | ok a =>
          constructor
          · rintro (_ | ⟨_, h⟩)
            exact .later a (ih.mp h)
          · rintro (_ | ⟨_, h⟩)
            exact .later (g a) (ih.mpr h)

/-- The first thing that cannot be made keeps all from being made. -/
theorem mapM_eq_error_iff {f : α → Except ε β} {as : List α} {fault : ε} :
    as.mapM f = .error fault ↔ FirstFailure (as.map f) fault := by
  induction as with
  | nil => exact ⟨nofun, nofun⟩
  | cons a as ih =>
      rw [List.mapM_cons, List.map_cons]
      cases f a with
      | error other =>
          constructor
          · intro h
            obtain rfl := Except.error.inj h
            exact .here other _
          · rintro ⟨⟩
            rfl
      | ok b =>
          constructor
          · intro h
            cases hRest : as.mapM f with
            | error other =>
                rw [hRest] at h
                obtain rfl := Except.error.inj h
                exact .later b (ih.mp hRest)
            | ok bs =>
                rw [hRest] at h
                cases h
          · rintro (_ | ⟨_, h⟩)
            rw [ih.mpr h]
            rfl

end LogIngest
