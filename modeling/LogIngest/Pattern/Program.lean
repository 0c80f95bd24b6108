import LogIngest.Pattern.Node

/-!
Programs that match patterns: instructions in the order in which they are carried out unless one of
them says otherwise.
-/

namespace LogIngest.Pattern

inductive Instr where
  /-- Takes a character of a set. -/
  | chars (set : CharSet)
  /-- Goes on only where a condition holds. -/
  | look (look : Look)
  /-- Notes the place under a number. -/
  | save (slot : Nat)
  /-- Goes on at both addresses, preferring the first. -/
  | split (first second : Nat)
  | jump (target : Nat)
  /-- The pattern matches up to here. -/
  | done
deriving DecidableEq, Repr

namespace Instr

/-- Goes on at the body or at the end; a greedy repetition prefers the body. -/
def branch (greedy : Bool) (body stop : Nat) : Instr :=
  if greedy then split body stop else split stop body

end Instr

/-- The number of bytes that a state of a program takes. -/
def stateWeight : Nat := 32

/-- About the number of bytes that the states for a set take: there is a state for each byte of a single
character, and otherwise two for each range, or one for several ranges within ASCII. -/
def setWeight (set : CharSet) : Nat :=
  match set.edges.toList with
  | [first, last] =>
    if last = first + 1 then (Char.ofNat first).utf8Size * stateWeight else 2 * stateWeight
  | edges => if edges.all (· ≤ 0x80) then stateWeight else edges.length * stateWeight

namespace Node

/-- The number of instructions for the bounds of a repetition with a body of some size. -/
def repetitionSize (size least : Nat) : (most : Option Nat) → Nat
  | none => if least == 0 then size + 2 else least * size + 1
  | some most => least * size + (most - least) * (size + 1)

/-- The number of instructions of a node. -/
def size : Node → Nat
  | empty => 0
  | chars _ | look _ => 1
  | capture _ body => body.size + 2
  | seq first second => first.size + second.size
  | alt first second => first.size + second.size + 2
  | repetition body least most _ => repetitionSize body.size least most

/-- The number of bytes for the bounds of a repetition with a body of some weight. -/
def repetitionWeight (weight least : Nat) : (most : Option Nat) → Nat
  | none => max 1 least * weight + 2 * stateWeight
  | some most => least * weight + (most - least) * (weight + stateWeight)

/-- About the number of bytes that the states for a node take. -/
def weight : Node → Nat
  | empty => 0
  | chars set => setWeight set
  | look _ => stateWeight
  | capture _ body => body.weight + 2 * stateWeight
  | seq first second => first.weight + second.weight
  | alt first second => first.weight + second.weight + 2 * stateWeight
  | repetition body least most _ => repetitionWeight body.weight least most

/-- Code a number of times, one after the other, from an address on. -/
def copies (code : Nat → List Instr) (size : Nat) : (count address : Nat) → List Instr
  | 0, _ => []
  | count + 1, address => code address ++ copies code size count (address + size)

/-- Code up to a number of times: before each time there is a way out to the end. -/
def upTo (code : Nat → List Instr) (size : Nat) (greedy : Bool) (stop : Nat) :
    (count address : Nat) → List Instr
  | 0, _ => []
  | count + 1, address =>
    Instr.branch greedy (address + 1) stop :: code (address + 1) ++
      upTo code size greedy stop count (address + 1 + size)

/-- Code one or more times. -/
def oneOrMore (code : Nat → List Instr) (size : Nat) (greedy : Bool) (address : Nat) : List Instr :=
  code address ++ [Instr.branch greedy address (address + size + 1)]

/-- The instructions of a repetition, given those of its body from each address on. -/
def repeated (code : Nat → List Instr) (size least : Nat) (most : Option Nat) (greedy : Bool)
    (address : Nat) : List Instr :=
  match most with
  | none =>
    match least with
    | 0 =>
      Instr.branch greedy (address + 1) (address + size + 2) ::
        oneOrMore code size greedy (address + 1)
    | before + 1 =>
      copies code size before address ++ oneOrMore code size greedy (address + before * size)
  | some most =>
    let behind := address + least * size
    copies code size least address ++
      upTo code size greedy (behind + (most - least) * (size + 1)) (most - least) behind

/-- The instructions of a node from an address on. They end behind the last of them. -/
def code : Node → (address : Nat) → List Instr
  | empty, _ => []
  | chars set, _ => [.chars set]
  | look l, _ => [.look l]
  | capture index body, address =>
    .save (2 * index) :: body.code (address + 1) ++ [.save (2 * index + 1)]
  | seq first second, address => first.code address ++ second.code (address + first.size)
  | alt first second, address =>
    let other := address + first.size + 2
    .split (address + 1) other :: first.code (address + 1) ++
      .jump (other + second.size) :: second.code other
  | repetition body least most greedy, address =>
    repeated (fun address => body.code address) body.size least most greedy address

end Node

/-- The program of a node, which may take so many bytes. It notes where the match starts and where it ends. -/
def Node.toProgram (limit : Nat) (node : Node) : Except Fault (Array Instr) :=
  if limit < node.weight then .error (.tooLarge limit)
  else .ok (Instr.save 0 :: node.code 1 ++ [Instr.save 1, Instr.done]).toArray

end LogIngest.Pattern
