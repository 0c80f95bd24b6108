import LogIngest.Files.Snapshot
import LogIngest.Text.Blank

/-!
The lines of files, up to the first that cannot be read.
-/

namespace LogIngest.Files

/-- Something found in a line of a file. -/
structure Located (α : Type) where
  path : String
  /-- The number of the line, from one. -/
  line : Nat
  value : α
deriving DecidableEq, Repr

namespace Located

variable {α β : Type}

def map (f : α → β) (located : Located α) : Located β where
  path := located.path
  line := located.line
  value := f located.value

/-- The file and the line. -/
def position (located : Located α) : String :=
  let line := located.line
  located.path ++ s!":{line}"

end Located

/-- What was read, and the fault that put an end to it if one did. -/
structure Readout (α : Type) where
  items : List α
  fault : Option ReadFault := none

namespace Readout

variable {α β : Type}

def map (f : α → β) (readout : Readout α) : Readout β where
  items := readout.items.map f
  fault := readout.fault

/-- Goes on reading if there was no fault. -/
def andThen (first second : Readout α) : Readout α :=
  match first.fault with
  | some _ => first
  | none => { items := first.items ++ second.items, fault := second.fault }

/-- The texts up to the first bytes that are none. -/
def ofTexts : List (Option String) → Readout String
  | [] => { items := [] }
  | none :: _ => { items := [], fault := some .notUtf8 }
  | some text :: rest =>
    let readout := ofTexts rest
    { readout with items := text :: readout.items }

end Readout

/-- The text of a line whose bytes are given in reverse order, without its end. -/
def lineText (reversed : List UInt8) : Option String :=
  String.fromUTF8? ⟨reversed.reverse.toArray⟩

/-- The bytes of a line without the carriage return before its line feed. -/
def withoutReturn : List UInt8 → List UInt8
  | 0x0D :: reversed => reversed
  | reversed => reversed

/-- The lines of some bytes, given the bytes of the first line read so far in reverse order. A line ends
with a line feed or with a carriage return and a line feed; the end of the last line may be missing. -/
def linesFrom (reversed : List UInt8) : List UInt8 → List (Option String)
  | [] => if reversed.isEmpty then [] else [lineText reversed]
  | 0x0A :: rest => lineText (withoutReturn reversed) :: linesFrom [] rest
  | byte :: rest => linesFrom (byte :: reversed) rest

/-- The lines of the contents of a file that are not blank. The blank ones count too. -/
def linesOf (path : String) (contents : ByteArray) : Readout (Located String) :=
  let readout := Readout.ofTexts (linesFrom [] contents.toList)
  { readout with
    items := (readout.items.mapIdx fun i text => { path, line := i + 1, value := text }).filter
      fun located : Located String => !blank located.value }

/-- The lines of several files one after another. -/
def readLines (read : String → Except ReadFault ByteArray) :
    List String → Readout (Located String)
  | [] => { items := [] }
  | path :: paths =>
    match read path with
    | .error fault => { items := [], fault := some fault }
    | .ok contents => (linesOf path contents).andThen (readLines read paths)

end LogIngest.Files
