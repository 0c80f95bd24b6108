import LogIngest.Text.Case
import LogIngest.Text.CaseRun

/-!
Lower-case forms of characters and of texts. A character's form does not depend on its neighbours and
may be longer than one character; in a text, a capital sigma at the end of a word takes its final form.
-/

namespace LogIngest.Text

/-- The lower-case form of a character: itself when it has none. The dotted capital I is the one
character whose form has two characters. -/
def lowerChar (c : Char) : List Char :=
  let n := c.toNat
  if n < 0x80 then [c.toLower]
  else if n == 0x130 then ['i', '\u0307']
  else match CaseRun.find? CaseRun.toLower n with
    | some run => [Char.ofNat (run.image n)]
    | none => [c]

/-- Whether the next character that counts, reading on from here, has case. -/
def meetsCased (text : List Char) : Bool :=
  match text.dropWhile CharSet.caseIgnorable.contains with
  | [] => false
  | c :: _ => CharSet.cased.contains c

/-- The lower-case form of a text, given the characters before it, nearest first. A capital sigma
that ends a word (a letter before it, none after it) becomes the final small sigma. -/
def lowerFrom (before : List Char) : List Char → List Char
  | [] => []
  | c :: rest =>
    let form :=
      if c == 'Σ' then
        if meetsCased before && !meetsCased rest then ['ς'] else ['σ']
      else lowerChar c
    form ++ lowerFrom (c :: before) rest

/-- The lower-case form of a text. -/
def lower (text : List Char) : List Char :=
  lowerFrom [] text

/-- Equality of texts up to the case of ASCII letters. -/
def sameIgnoringAsciiCase (a b : List Char) : Bool :=
  a.map Char.toLower == b.map Char.toLower

end LogIngest.Text
