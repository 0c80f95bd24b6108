import LogIngest.Pattern.Program

/-!
The search for the first match of a program. Threads go through the text side by side, ordered by
preference; of those at the same instruction only the preferred one counts. A match starts as far to
the left as one can, and of those that start there the preferred one is found.
-/

namespace LogIngest.Pattern

/-- The places noted so far. -/
abbrev Slots := Array (Option Nat)

/-- A way to match up to the current place. -/
structure Thread where
  address : Nat
  slots : Slots

/-- The characters around a place, and its distance from the start of the text. -/
structure Place where
  index : Nat
  before : Option Char
  after : Option Char

/-- Carries out the instructions of threads that take no character, preferred threads first. What
remains are threads at instructions that take one, or at the end. An address counts once. There are at
most as many steps as `bound` says. -/
def settle (program : Array Instr) (place : Place) :
    (bound : Nat) → (visited : Array Bool) → List Thread → List Thread
  | 0, _, _ => []
  | _ + 1, _, [] => []
  | bound + 1, visited, thread :: threads =>
    if visited.getD thread.address true then settle program place bound visited threads
    else
      let visited := visited.setIfInBounds thread.address true
      let next := thread.address + 1
      match program[thread.address]? with
      | none => settle program place bound visited threads
      | some (.chars _) | some .done => thread :: settle program place bound visited threads
      | some (.look l) =>
        let threads :=
          if l.holds place.before place.after then { thread with address := next } :: threads
          else threads
        settle program place bound visited threads
      | some (.save slot) =>
        let slots := thread.slots.setIfInBounds slot (some place.index)
        settle program place bound visited (⟨next, slots⟩ :: threads)
      | some (.split first second) =>
        settle program place bound visited
          ({ thread with address := first } :: { thread with address := second } :: threads)
      | some (.jump target) =>
        settle program place bound visited ({ thread with address := target } :: threads)

/-- The threads preferred to the first one that has come to the end, and what that one has noted. -/
def untilDone (program : Array Instr) : List Thread → List Thread × Option Slots
  | [] => ([], none)
  | thread :: threads =>
    if program[thread.address]? == some .done then ([], some thread.slots)
    else
      let (preferred, found) := untilDone program threads
      (thread :: preferred, found)

/-- The thread behind a character, if its instruction takes it. -/
def Thread.take? (program : Array Instr) (c : Char) (thread : Thread) : Option Thread :=
  match program[thread.address]? with
  | some (.chars set) => if set.contains c then some ⟨thread.address + 1, thread.slots⟩ else none
  | _ => none

/-- Goes on with a search at a place, given the text behind it, the threads that have come there, and
what the best match so far has noted. As long as there is none, another thread starts at each place. -/
def searchFrom (program : Array Instr) (slots : Slots) (index : Nat) (before : Option Char)
    (threads : List Thread) (found : Option Slots) (text : List Char) : Option Slots :=
  let threads := if found.isNone then threads ++ [⟨0, slots⟩] else threads
  let place : Place := ⟨index, before, text.head?⟩
  let settled := settle program place (threads.length + 2 * program.size + 1)
    (Array.replicate program.size false) threads
  let (preferred, done) := untilDone program settled
  let found := done.or found
  match text with
  | [] => found
  | c :: rest =>
    let threads := preferred.filterMap (Thread.take? program c)
    if threads.isEmpty && found.isSome then found
    else searchFrom program slots (index + 1) (some c) threads found rest

/-- What the first match of a program in a text has noted. -/
def search (program : Array Instr) (groups : Nat) (text : List Char) : Option Slots :=
  searchFrom program (Array.replicate (2 * groups) none) 0 none [] none text

end LogIngest.Pattern
