import LogIngest.Pattern.Token

/-!
The structure of patterns, and how it is built from tokens.
-/

namespace LogIngest.Pattern

inductive Node where
  | empty
  | chars (set : CharSet)
  | look (look : Look)
  | capture (index : Nat) (body : Node)
  | seq (first second : Node)
  | alt (first second : Node)
  /-- The body at least `least` times and, with `most`, at most as often as that. -/
  | repetition (body : Node) (least : Nat) (most : Option Nat) (greedy : Bool)
deriving Repr

namespace Node

/-- Whether a node matches nothing but the empty text. -/
def isHollow : Node → Bool
  | empty | look _ => true
  | chars _ => false
  | capture _ body => body.isHollow
  | seq first second => first.isHollow && second.isHollow
  | alt first second => first.isHollow && second.isHollow
  | repetition body _ _ _ => body.isHollow

/-- The repetition of a node. One that matches only the empty text is not repeated more than once,
and a node that is not to occur at all is dropped with its groups. -/
def times (body : Node) (least : Nat) (most : Option Nat) (greedy : Bool) : Node :=
  let (least, most) := if body.isHollow then (min least 1, some (min (most.getD 1) 1)) else (least, most)
  if most == some 0 then empty
  else if least == 1 && most == some 1 then body
  else repetition body least most greedy

/-- Nodes one after another. -/
def sequence : List Node → Node
  | [] => empty
  | [node] => node
  | node :: nodes => seq node (sequence nodes)

/-- Nodes one instead of another, the first ones preferred. -/
def choice : List Node → Node
  | [] => empty
  | [node] => node
  | node :: nodes => alt node (choice nodes)

/-- The numbers of the groups of a node. -/
def groups : Node → List Nat
  | empty | chars _ | look _ => []
  | capture index body => index :: body.groups
  | seq first second => first.groups ++ second.groups
  | alt first second => first.groups ++ second.groups
  | repetition body _ _ _ => body.groups

end Node

/-- A group that is being built, or the whole pattern. -/
structure Level where
  /-- The alternatives that are complete, last one first. -/
  branches : List Node := []
  /-- The nodes of the current alternative before the last one, that one first. -/
  nodes : List Node := []
  /-- The last node of the current alternative, as long as it can be repeated. -/
  last : Option Node := none

namespace Level

/-- All the nodes of the current alternative, last one first. -/
def all (level : Level) : List Node :=
  level.last.toList ++ level.nodes

/-- Adds a node that can be repeated. -/
def push (level : Level) (node : Node) : Level :=
  { level with nodes := level.all, last := some node }

/-- Ends the last node, so that it cannot be repeated any more. -/
def finish (level : Level) : Level :=
  { level with nodes := level.all, last := none }

/-- The current alternative. -/
def branch (level : Level) : Node :=
  .sequence level.all.reverse

/-- Starts another alternative. -/
def nextBranch (level : Level) : Level where
  branches := level.branch :: level.branches

/-- The node of the group. -/
def node (level : Level) : Node :=
  .choice (level.branch :: level.branches).reverse

end Level

/-- The groups around a place of a pattern: the innermost one, and those around it with the number
under which the group within them captures. -/
structure Assembly where
  level : Level := {}
  outer : List (Option Nat × Level) := []

namespace Assembly

/-- Adds a token. There is none if the token does not fit: tokens are read in such an order that this
does not happen. -/
def add? (assembly : Assembly) (token : Token) : Option Assembly :=
  let level := assembly.level
  match token with
  | .chars set _ => some { assembly with level := level.push (.chars set) }
  | .look l => some { assembly with level := level.push (.look l) }
  | .repetition least most greedy =>
    match level.last with
    | some node =>
      some { assembly with level := { level with last := some (node.times least most greedy) } }
    | none => none
  | .alternative => some { assembly with level := level.nextBranch }
  | .opening capture => some ⟨{}, (capture, level) :: assembly.outer⟩
  | .closing =>
    match assembly.outer with
    | (some index, around) :: outer => some ⟨around.push (.capture index level.node), outer⟩
    | (none, around) :: outer => some ⟨around.push level.node, outer⟩
    | [] => none
  | .flags => some { assembly with level := level.finish }

end Assembly

/-- The node of a list of tokens, if they fit. -/
def Node.ofTokens? (tokens : List Token) : Option Node := do
  let assembly ← tokens.foldlM Assembly.add? {}
  match assembly.outer with
  | [] => some assembly.level.node
  | _ :: _ => none

end LogIngest.Pattern
