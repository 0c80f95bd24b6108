import LogIngest.Text.Alphabet

/-!
Conditions on a place in a text: they look at the characters on both sides and consume none.
-/

namespace LogIngest.Pattern

/-- Where a place lies in relation to words. -/
inductive WordEdge where
  /-- A word is on exactly one side. -/
  | boundary
  /-- A word is on both sides or on none. -/
  | inner
  | start
  | stop
  /-- No word is before the place. -/
  | startHalf
  /-- No word is behind the place. -/
  | stopHalf
deriving DecidableEq, Repr

inductive Look where
  | textStart
  | textEnd
  | lineStart
  | lineEnd
  /-- As `lineStart`, where a carriage return and a line feed end a line together or alone. -/
  | returnLineStart
  | returnLineEnd
  /-- A condition on words, whose characters are those of ASCII unless `unicode` is set. -/
  | word (unicode : Bool) (edge : WordEdge)
deriving DecidableEq, Repr

/-- The ASCII characters of words. -/
def asciiWord : CharSet where
  edges := #[0x30, 0x3A, 0x41, 0x5B, 0x5F, 0x60, 0x61, 0x7B]

namespace WordEdge

/-- Whether the edge lies between two places that are in words or not. -/
def holds : WordEdge → (before after : Bool) → Bool
  | boundary, before, after => before != after
  | inner, before, after => before == after
  | start, before, after => !before && after
  | stop, before, after => before && !after
  | startHalf, before, _ => !before
  | stopHalf, _, after => !after

end WordEdge

namespace Look

/-- Whether the condition holds between two characters; there is none at the ends of a text. -/
def holds (look : Look) (before after : Option Char) : Bool :=
  match look with
  | textStart => before.isNone
  | textEnd => after.isNone
  | lineStart => before.isNone || before == some '\n'
  | lineEnd => after.isNone || after == some '\n'
  | returnLineStart =>
    before.isNone || before == some '\n' || (before == some '\r' && after != some '\n')
  | returnLineEnd =>
    after.isNone || after == some '\r' || (after == some '\n' && before != some '\r')
  | word unicode edge =>
    let words := if unicode then CharSet.word else asciiWord
    edge.holds (before.any words.contains) (after.any words.contains)

end Look
end LogIngest.Pattern
