/-!
Cutting a text at a separator and putting pieces together again, cutting it at places that are counted in
bytes, before each of its characters and at its end, but not inside of a character, and setting it in a
column of a given width in characters.
-/

namespace LogIngest.Text

/-- Puts a character in front of the first piece. -/
def consHead (c : Char) : List (List Char) → List (List Char)
  | [] => [[c]]
  | piece :: pieces => (c :: piece) :: pieces

/-- Cuts a text at every occurrence of the separator, from left to right without overlaps. The first
`skip` characters belong to an occurrence already found and are passed over. -/
def splitFrom (separator : List Char) : Nat → List Char → List (List Char)
  | _, [] => [[]]
  | skip + 1, _ :: rest => splitFrom separator skip rest
  | 0, c :: rest =>
    if separator.isPrefixOf (c :: rest) then
      [] :: splitFrom separator (separator.length - 1) rest
    else
      consHead c (splitFrom separator 0 rest)

/-- The pieces of a text between the occurrences of a separator, empty pieces included. -/
def split (separator text : List Char) : List (List Char) :=
  splitFrom separator 0 text

/-- The pieces one after another with the separator between them. -/
def join (separator : List Char) : List (List Char) → List Char
  | [] => []
  | [piece] => piece
  | piece :: pieces => piece ++ separator ++ join separator pieces

/-- The text with every occurrence of `old` replaced. -/
def replace (old new text : List Char) : List Char :=
  join new (split old text)

/-- The number of bytes of a text in UTF-8. -/
def byteSize (text : List Char) : Nat :=
  text.foldr (fun c size => c.utf8Size + size) 0

/-- Why a text has no part between two places. -/
inductive CutFault where
  | insideCharacter
  | behindEnd
  | reversed
deriving DecidableEq, Repr

def CutFault.message : CutFault → String
  | insideCharacter => "a place in a text is inside of a character"
  | behindEnd => "a place in a text is behind its end"
  | reversed => "a part of a text ends before it starts"

/-- The characters of a text, each with its place, counted on from the place of the first one. -/
def placesFrom (place : Nat) : List Char → List (Nat × Char)
  | [] => []
  | c :: rest => (place, c) :: placesFrom (place + c.utf8Size) rest

def places (text : List Char) : List (Nat × Char) :=
  placesFrom 0 text

/-- What stands before and behind a place of a text. -/
def cut : (place : Nat) → (text : List Char) → Except CutFault (List Char × List Char)
  | 0, text => .ok ([], text)
  | _ + 1, [] => .error .behindEnd
  | place + 1, c :: rest =>
    if place + 1 < c.utf8Size then .error .insideCharacter
    else (cut (place + 1 - c.utf8Size) rest).map fun (before, behind) => (c :: before, behind)

/-- What stands between two places of a text. -/
def part (start stop : Nat) (text : List Char) : Except CutFault (List Char) :=
  if stop < start then .error .reversed
  else do
    let (before, _) ← cut stop text
    let (_, between) ← cut start before
    return between

/-- Spaces that fill a text up to a width. -/
def filler (width : Nat) (text : String) : Nat :=
  width - text.length

def spaces (n : Nat) : String :=
  String.ofList (List.replicate n ' ')

/-- A text at the left of its column. -/
def alignLeft (width : Nat) (text : String) : String :=
  text ++ spaces (filler width text)

/-- A text at the right of its column. -/
def alignRight (width : Nat) (text : String) : String :=
  spaces (filler width text) ++ text

/-- A text in the middle of its column; an odd space stands behind it. -/
def centre (width : Nat) (text : String) : String :=
  let before := filler width text / 2
  spaces before ++ text ++ spaces (filler width text - before)

/-- A character so many times. -/
def bar (c : Char) (n : Nat) : String :=
  String.ofList (List.replicate n c)

end LogIngest.Text
