import LogIngest.Pattern.Node

/-!
Nodes from tokens. Main statement: tokens that make up a node make up the same node within a group, and its
groups have the numbers that the tokens give them.
-/

namespace LogIngest.Pattern

namespace Node

/-- A repetition captures no more than its body. -/
theorem groups_times_subset (body : Node) (least : Nat) (most : Option Nat) (greedy : Bool) :
    (body.times least most greedy).groups ⊆ body.groups := by
  simp only [times]
  generalize (if body.isHollow then _ else _ : Nat × Option Nat) = bounds
  by_cases hNever : (bounds.2 == some 0) = true
  · simp [hNever, groups]
  · by_cases hOnce : (bounds.1 == 1 && bounds.2 == some 1) = true <;> simp [hNever, hOnce, groups]

/-- Where one node comes to others, its groups come to theirs; so what joins nodes has the groups of all. -/
theorem groups_of_join {join : List Node → Node} (hNone : (join []).groups = [])
    (hOne : ∀ node, join [node] = node)
    (hMore : ∀ node other nodes, (join (node :: other :: nodes)).groups =
      node.groups ++ (join (other :: nodes)).groups) (nodes : List Node) :
    (join nodes).groups = nodes.flatMap groups := by
  induction nodes with
  | nil => exact hNone
  | cons node nodes ih =>
      cases nodes with
      | nil => simp [hOne]
      | cons other nodes => rw [hMore, ih, ← List.flatMap_cons]

theorem groups_sequence : ∀ nodes : List Node, (sequence nodes).groups = nodes.flatMap groups :=
  groups_of_join rfl (fun _ => rfl) fun _ _ _ => rfl

theorem groups_choice : ∀ nodes : List Node, (choice nodes).groups = nodes.flatMap groups :=
  groups_of_join rfl (fun _ => rfl) fun _ _ _ => rfl

end Node

/-- Whether no group of a level has the number of the whole match. -/
def Level.Numbered (level : Level) : Prop :=
  ∀ node ∈ level.all ++ level.branches, 0 ∉ node.groups

namespace Level

variable {level : Level}

/-- A branch has the groups of its nodes. -/
theorem Numbered.branch (h : level.Numbered) : 0 ∉ level.branch.groups := by
  rw [Level.branch, Node.groups_sequence]
  intro hMem
  obtain ⟨node, hNode, hZero⟩ := List.mem_flatMap.mp hMem
  exact h node (List.mem_append_left _ (List.mem_reverse.mp hNode)) hZero

/-- A level has the groups of its branches. -/
theorem Numbered.node (h : level.Numbered) : 0 ∉ level.node.groups := by
  rw [Level.node, Node.groups_choice]
  intro hMem
  obtain ⟨node, hNode, hZero⟩ := List.mem_flatMap.mp hMem
  rcases List.mem_cons.mp (List.mem_reverse.mp hNode) with rfl | hNode
  · exact h.branch hZero
  · exact h node (List.mem_append_right _ hNode) hZero

theorem Numbered.push {node : Node} (h : level.Numbered) (hNode : 0 ∉ node.groups) : (level.push node).Numbered :=
  List.forall_mem_cons.mpr ⟨hNode, h⟩

theorem Numbered.finish (h : level.Numbered) : level.finish.Numbered :=
  h

theorem Numbered.nextBranch (h : level.Numbered) : level.nextBranch.Numbered :=
  List.forall_mem_cons.mpr ⟨h.branch, fun node hNode => h node (List.mem_append_right _ hNode)⟩

theorem Numbered.times {last : Node} (h : level.Numbered) (hLast : level.last = some last) (least : Nat)
    (most : Option Nat) (greedy : Bool) :
    Numbered { level with last := some (last.times least most greedy) } := by
  unfold Numbered all at h ⊢
  simp only [hLast, Option.toList_some, List.cons_append] at h ⊢
  obtain ⟨hBody, hOthers⟩ := List.forall_mem_cons.mp h
  exact List.forall_mem_cons.mpr
    ⟨fun hZero => hBody (Node.groups_times_subset last least most greedy hZero), hOthers⟩

end Level

namespace Assembly

/-- Whether no group has the number of the whole match, neither those that are complete nor those around. -/
structure Numbered (assembly : Assembly) : Prop where
  level : assembly.level.Numbered
  outer : ∀ around ∈ assembly.outer, around.1 ≠ some 0 ∧ around.2.Numbered

variable {assembly next : Assembly} {token : Token}

/-- Every token but the opening of the whole match keeps the numbers of groups. -/
theorem Numbered.add? (h : assembly.Numbered) (hToken : token ≠ .opening (some 0))
    (hAdd : assembly.add? token = some next) : next.Numbered := by
  obtain ⟨hLevel, hOuter⟩ := h
  cases token with
  | chars set depth | look look =>
      rw [← Option.some.inj hAdd]
      exact ⟨hLevel.push nofun, hOuter⟩
  | repetition least most greedy =>
      simp only [Assembly.add?] at hAdd
      split at hAdd
      · next last hLast =>
          rw [← Option.some.inj hAdd]
          exact ⟨hLevel.times hLast least most greedy, hOuter⟩
      · cases hAdd
  | alternative =>
      rw [← Option.some.inj hAdd]
      exact ⟨hLevel.nextBranch, hOuter⟩
  | opening capture =>
      have hCapture : capture ≠ some 0 := fun hZero => hToken (congrArg Token.opening hZero)
      rw [← Option.some.inj hAdd]
      exact ⟨nofun, List.forall_mem_cons.mpr ⟨⟨hCapture, hLevel⟩, hOuter⟩⟩
  | closing =>
      simp only [Assembly.add?] at hAdd
      split at hAdd
      · next index around outer hAround =>
          obtain ⟨⟨hIndex, hAround⟩, hOuter⟩ := List.forall_mem_cons.mp (hAround ▸ hOuter)
          rw [← Option.some.inj hAdd]
          refine ⟨hAround.push ?_, hOuter⟩
          intro hZero
          rcases List.mem_cons.mp hZero with rfl | hZero
          · exact hIndex rfl
          · exact hLevel.node hZero
      · next around outer hAround =>
          obtain ⟨⟨-, hAround⟩, hOuter⟩ := List.forall_mem_cons.mp (hAround ▸ hOuter)
          rw [← Option.some.inj hAdd]
          exact ⟨hAround.push hLevel.node, hOuter⟩
      · cases hAdd
  | flags =>
      rw [← Option.some.inj hAdd]
      exact ⟨hLevel.finish, hOuter⟩

/-- By induction, so do all tokens of a pattern. -/
theorem Numbered.addAll {tokens : List Token} (h : assembly.Numbered)
    (hTokens : .opening (some 0) ∉ tokens) (hAdd : tokens.foldlM Assembly.add? assembly = some next) :
    next.Numbered := by
  induction tokens generalizing assembly with
  | nil => exact Option.some.inj hAdd ▸ h
  | cons token tokens ih =>
      obtain ⟨between, hToken, hAdd⟩ := Option.bind_eq_some_iff.mp hAdd
      exact ih (h.add? (List.ne_of_not_mem_cons hTokens).symm hToken)
        (List.not_mem_of_not_mem_cons hTokens) hAdd

/-- The groups around that a token does not leave are none of its business. -/
theorem add?_below (below : List (Option Nat × Level)) (h : assembly.add? token = some next) :
    add? ⟨assembly.level, assembly.outer ++ below⟩ token = some ⟨next.level, next.outer ++ below⟩ := by
  cases token with
  | closing =>
      simp only [Assembly.add?] at h ⊢
      split at h
      · next hAround =>
          rw [← Option.some.inj h, hAround]
          rfl
      · next hAround =>
          rw [← Option.some.inj h, hAround]
          rfl
      · cases h
  | repetition least most greedy =>
      simp only [Assembly.add?] at h ⊢
      split at h
      · rw [← Option.some.inj h]
      · cases h
  | _ =>
      rw [← Option.some.inj h]
      rfl

/-- Tokens that leave no group open do the same above levels that stay open. -/
theorem addAll_below (below : List (Option Nat × Level)) {tokens : List Token}
    (h : tokens.foldlM add? assembly = some next) :
    tokens.foldlM add? ⟨assembly.level, assembly.outer ++ below⟩ =
      some ⟨next.level, next.outer ++ below⟩ := by
  induction tokens generalizing assembly with
  | nil =>
      rw [← Option.some.inj h]
      rfl
  | cons token tokens ih =>
      obtain ⟨between, hToken, h⟩ := Option.bind_eq_some_iff.mp h
      rw [List.foldlM_cons, add?_below below hToken]
      exact ih h

end Assembly

namespace Node

variable {tokens : List Token} {node : Node}

/-- The tokens of a node leave no group open. -/
theorem ofTokens?_eq_some (h : ofTokens? tokens = some node) :
    ∃ level, tokens.foldlM Assembly.add? {} = some ⟨level, []⟩ ∧ level.node = node := by
  obtain ⟨⟨level, outer⟩, hAdd, h⟩ := Option.bind_eq_some_iff.mp h
  cases outer with
  | cons around outer => cases h
  | nil => exact ⟨level, hAdd, Option.some.inj h⟩

/-- No group of a pattern has the number of the whole match. -/
theorem groups_of_ofTokens? (h : ofTokens? tokens = some node) (hTokens : .opening (some 0) ∉ tokens) :
    0 ∉ node.groups := by
  obtain ⟨level, hAdd, rfl⟩ := ofTokens?_eq_some h
  have hStart : Assembly.Numbered {} := ⟨by simp [Level.Numbered, Level.all], by simp⟩
  exact (hStart.addAll hTokens hAdd).level.node

/-- The condition that the text starts, a node, and the condition that the text ends. -/
def enclosed (node : Node) : Node :=
  seq (look .textStart) (seq node (look .textEnd))

/-- Tokens within a group that does not capture, between the start and the end of the text. -/
theorem ofTokens?_enclosed (h : ofTokens? tokens = some node) :
    ofTokens? (.look .textStart :: .opening none :: tokens ++ [.closing, .look .textEnd]) =
      some node.enclosed := by
  obtain ⟨level, hAdd, rfl⟩ := ofTokens?_eq_some h
  have hWithin := Assembly.addAll_below [(none, Level.push {} (.look .textStart))] hAdd
  have hBefore : (Token.look .textStart :: .opening none :: tokens).foldlM Assembly.add? {} =
      some ⟨level, [(none, Level.push {} (.look .textStart))]⟩ := hWithin
  rw [ofTokens?, List.foldlM_append, hBefore]
  rfl

end Node
end LogIngest.Pattern
