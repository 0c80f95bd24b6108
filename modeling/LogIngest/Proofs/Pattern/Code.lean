import LogIngest.Pattern.Program

/-!
The code of nodes. Main statement: the code of a node leads nowhere but to its own instructions and to the
place behind them, and notes no place but those of the node's groups.
-/

namespace LogIngest.Pattern

/-- Whether an instruction leads nowhere but to the addresses between two others or to the next one, and
notes neither the start nor the end of the whole match. -/
def Instr.KeepsTo (start stop : Nat) : Instr → Prop
  | chars _ | look _ => True
  | save slot => 2 ≤ slot
  | split first second => (start ≤ first ∧ first ≤ stop) ∧ start ≤ second ∧ second ≤ stop
  | jump target => start ≤ target ∧ target ≤ stop
  | done => False

namespace Instr

variable {start stop : Nat} {instr : Instr}

theorem KeepsTo.mono {before behind : Nat} (h : instr.KeepsTo start stop) (hStart : before ≤ start)
    (hStop : stop ≤ behind) : instr.KeepsTo before behind := by
  cases instr with
  | chars set | look look | save slot | done => exact h
  | split first second =>
      simp only [KeepsTo] at h ⊢
      omega
  | jump target =>
      simp only [KeepsTo] at h ⊢
      omega

theorem keepsTo_branch {greedy : Bool} {body behind : Nat} (hBody : start ≤ body ∧ body ≤ stop)
    (hBehind : start ≤ behind ∧ behind ≤ stop) : (branch greedy body behind).KeepsTo start stop := by
  cases greedy with
  | true => exact ⟨hBody, hBehind⟩
  | false => exact ⟨hBehind, hBody⟩

end Instr

namespace Node

/-- Code that has the same size from every address on, and keeps to itself and the place behind it. -/
structure Compact (code : Nat → List Instr) (size : Nat) : Prop where
  length_eq : ∀ address, (code address).length = size
  keepsTo : ∀ address, ∀ instr ∈ code address, instr.KeepsTo address (address + size)

section

variable {code : Nat → List Instr} {size : Nat}

theorem Compact.append {others : Nat → List Instr} {sizeOfOthers : Nat} (hFirst : Compact code size)
    (hSecond : Compact others sizeOfOthers) :
    Compact (fun address => code address ++ others (address + size)) (size + sizeOfOthers) := by
  refine ⟨?_, ?_⟩
  · intro address
    rw [List.length_append, hFirst.length_eq, hSecond.length_eq]
  · intro address instr hInstr
    rcases List.mem_append.mp hInstr with hInstr | hInstr
    · exact (hFirst.keepsTo address instr hInstr).mono (by omega) (by omega)
    · exact (hSecond.keepsTo (address + size) instr hInstr).mono (by omega) (by omega)

theorem Compact.copies (hCode : Compact code size) (count : Nat) :
    Compact (copies code size count) (count * size) := by
  induction count with
  | zero => exact ⟨fun _ => by simp [Node.copies], by simp [Node.copies]⟩
  | succ count ih =>
      have hBoth := hCode.append ih
      rwa [show size + count * size = (count + 1) * size by rw [Nat.succ_mul, Nat.add_comm]] at hBoth

theorem Compact.oneOrMore (hCode : Compact code size) (greedy : Bool) :
    Compact (oneOrMore code size greedy) (size + 1) := by
  refine ⟨fun address => by simp [Node.oneOrMore, hCode.length_eq], ?_⟩
  intro address instr hInstr
  rcases List.mem_append.mp hInstr with hInstr | hInstr
  · exact (hCode.keepsTo address instr hInstr).mono (by omega) (by omega)
  · rw [List.mem_singleton.mp hInstr]
    exact Instr.keepsTo_branch (by omega) (by omega)

theorem length_upTo (hCode : Compact code size) (greedy : Bool) (stop count address : Nat) :
    (upTo code size greedy stop count address).length = count * (size + 1) := by
  induction count generalizing address with
  | zero => simp [upTo]
  | succ count ih =>
      simp only [upTo, List.cons_append, List.length_cons, List.length_append, hCode.length_eq, ih,
        Nat.succ_mul]
      omega

theorem keepsTo_of_mem_upTo (hCode : Compact code size) {greedy : Bool} {stop count address : Nat}
    (hStop : address + count * (size + 1) ≤ stop) :
    ∀ instr ∈ upTo code size greedy stop count address, instr.KeepsTo address stop := by
  induction count generalizing address with
  | zero => simp [upTo]
  | succ count ih =>
      rw [Nat.succ_mul] at hStop
      intro instr hInstr
      simp only [upTo, List.cons_append, List.mem_cons, List.mem_append] at hInstr
      rcases hInstr with rfl | hInstr | hInstr
      · exact Instr.keepsTo_branch (by omega) (by omega)
      · exact (hCode.keepsTo _ instr hInstr).mono (by omega) (by omega)
      · exact (ih (by omega) instr hInstr).mono (by omega) (by omega)

theorem Compact.upTo (hCode : Compact code size) (greedy : Bool) (count : Nat) :
    Compact (fun address => upTo code size greedy (address + count * (size + 1)) count address)
      (count * (size + 1)) :=
  ⟨fun _ => length_upTo hCode greedy _ count _, fun _ => keepsTo_of_mem_upTo hCode (Nat.le_refl _)⟩

theorem Compact.repeated (hCode : Compact code size) (least : Nat) (most : Option Nat)
    (greedy : Bool) : Compact (repeated code size least most greedy) (repetitionSize size least most) := by
  cases most with
  | some most => exact (hCode.copies least).append (hCode.upTo greedy (most - least))
  | none =>
      cases least with
      | succ before =>
          have hBoth := (hCode.copies before).append (hCode.oneOrMore greedy)
          rwa [show before * size + (size + 1) = repetitionSize size (before + 1) none by
            simp [repetitionSize, Nat.succ_mul, Nat.add_assoc]] at hBoth
      | zero =>
          have hLoop := hCode.oneOrMore greedy
          refine ⟨fun address => by simp [Node.repeated, repetitionSize, hLoop.length_eq], ?_⟩
          intro address instr hInstr
          rcases List.mem_cons.mp hInstr with rfl | hInstr
          · exact Instr.keepsTo_branch (by simp [repetitionSize]) (by simp [repetitionSize]; omega)
          · refine (hLoop.keepsTo _ instr hInstr).mono (by omega) ?_
            simp only [repetitionSize, beq_self_eq_true, if_true]
            omega

end

/-- Groups are numbered from one on, so none of them is taken for the whole match. -/
theorem compact_code {node : Node} (hGroups : 0 ∉ node.groups) : Compact node.code node.size := by
  induction node with
  | empty => exact ⟨fun _ => rfl, nofun⟩
  | chars set | look look =>
      refine ⟨fun _ => rfl, ?_⟩
      intro address instr hInstr
      rw [List.mem_singleton.mp hInstr]
      trivial
  | capture index body ih =>
      have hIndex : index ≠ 0 := fun h => hGroups (h ▸ List.mem_cons_self)
      have hBody := ih (List.not_mem_of_not_mem_cons hGroups)
      refine ⟨fun address => by simp [code, size, hBody.length_eq], ?_⟩
      intro address instr hInstr
      simp only [code, List.cons_append, List.mem_cons, List.mem_append, List.not_mem_nil,
        or_false] at hInstr
      rcases hInstr with rfl | hInstr | rfl
      · simp only [Instr.KeepsTo]
        omega
      · exact (hBody.keepsTo _ instr hInstr).mono (by omega) (by simp only [size]; omega)
      · simp only [Instr.KeepsTo]
        omega
  | seq first second ihFirst ihSecond =>
      simp only [groups, List.mem_append, not_or] at hGroups
      exact (ihFirst hGroups.1).append (ihSecond hGroups.2)
  | alt first second ihFirst ihSecond =>
      simp only [groups, List.mem_append, not_or] at hGroups
      have hFirst := ihFirst hGroups.1
      have hSecond := ihSecond hGroups.2
      refine ⟨fun address => ?_, ?_⟩
      · simp only [code, size, List.cons_append, List.length_cons, List.length_append,
          hFirst.length_eq, hSecond.length_eq]
        omega
      · intro address instr hInstr
        simp only [code, List.cons_append, List.mem_cons, List.mem_append] at hInstr
        simp only [size]
        rcases hInstr with rfl | hInstr | rfl | hInstr
        · simp only [Instr.KeepsTo]
          omega
        · exact (hFirst.keepsTo _ instr hInstr).mono (by omega) (by omega)
        · simp only [Instr.KeepsTo]
          omega
        · exact (hSecond.keepsTo _ instr hInstr).mono (by omega) (by omega)
  | repetition body least most greedy ih =>
      exact (ih hGroups).repeated least most greedy

end Node
end LogIngest.Pattern
