import LogIngest.Files.Snapshot
import LogIngest.Files.Wildcard

/-!
The files that a pattern stands for. The pattern is cut at its slashes, and each component leads from
some places in a tree on to others.
-/

namespace LogIngest.Files

/-- A place in a tree and the text of the path by which it was reached. -/
structure Place where
  text : String
  path : Path
  kind : Kind
deriving DecidableEq, Repr

/-- A part of a pattern between slashes. -/
inductive Component where
  | name (text : String)
  | form (tokens : List WildcardToken)
  | anyDirectories
deriving DecidableEq, Repr

namespace Component

/-- The text that the tokens stand for, if they stand for one only. -/
def text? : List WildcardToken → Option (List Char)
  | [] => some []
  | .exactly c :: rest => (text? rest).map (c :: ·)
  | _ :: _ => none

def ofTokens (tokens : List WildcardToken) : Component :=
  if tokens.contains .anyDirectories then .anyDirectories
  else
    match text? tokens with
    | some text => .name (String.ofList text)
    | none => .form tokens

/-- Whether a name in a directory fits the component. -/
def admits (component : Component) (name : String) : Bool :=
  match component with
  | .name text => name == text
  | .form tokens => Wildcard.fits tokens name.toList
  | .anyDirectories => true

/-- Leaves one of several components in a row that stand for any directories. -/
def collapse : List Component → List Component
  | .anyDirectories :: .anyDirectories :: rest => collapse (.anyDirectories :: rest)
  | component :: rest => component :: collapse rest
  | [] => []

end Component

namespace Place

/-- Whether a path is the directory where all relative paths start. -/
def isHere (path : String) : Bool :=
  path.toList.head? == some '.' && (pieces path).all fun p => p.isEmpty || p == "."

/-- The path of something in a directory. -/
def joined (directory name : String) : String :=
  if directory.isEmpty || directory.toList.getLast? == some '/' then directory ++ name
  else directory ++ "/" ++ name

/-- The path of something in a directory; the directory is left out if it is where relative paths
start. -/
def inside (directory name : String) : String :=
  if isHere directory then name else joined directory name

/-- Where a walk starts. -/
def start (tree : Tree) : Place where
  text := if tree.isAbsolute then "/" else "."
  path := []
  kind := .directory

/-- The place of an entry below a directory. -/
def ofEntry (directory : Place) (entry : Path × Kind) : Place where
  text := (entry.1.drop directory.path.length).foldl inside directory.text
  path := entry.1
  kind := entry.2

/-- The last name on the way to a place. -/
def name (place : Place) : String :=
  place.path.getLastD ""

end Place

namespace Tree

/-- The place of a path in the tree, if something stands there. -/
def place? (tree : Tree) (path : String) : Option Place :=
  (tree.locate path).toOption.map fun (names, kind) => { text := path, path := names, kind }

/-- The place to which a name leads. -/
def step? (tree : Tree) (place : Place) (name : String) : Option Place :=
  if name == "." || name == ".." then
    if place.kind = .directory then tree.place? (Place.inside place.text name) else none
  else tree.place? (Place.inside place.text name)

/-- The links of a directory to its parent and to itself, where a form names them. A form that does not
start with a dot does not. -/
def links (tree : Tree) (place : Place) (tokens : List WildcardToken) : List Place :=
  if tokens.head? == some (.exactly '.') then
    ["..", "."].filterMap fun name =>
      if Wildcard.fits tokens name.toList then tree.place? (Place.joined place.text name) else none
  else []

/-- The places to which components lead from a place. -/
def expand (tree : Tree) : List Component → Place → List Place
  | [], place => [place]
  | .name text :: rest, place => (tree.step? place text).toList.flatMap (tree.expand rest)
  | .form tokens :: rest, place =>
    if place.kind = .directory then
      (tree.links place tokens).flatMap (tree.expand rest) ++
      (tree.children place.path).flatMap fun entry =>
        let child := place.ofEntry entry
        if Wildcard.fits tokens child.name.toList then tree.expand rest child else []
    else []
  | [.anyDirectories], place =>
    if place.kind = .directory then
      ((tree.below place.path).map place.ofEntry).filter (·.kind = .directory)
    else []
  | .anyDirectories :: component :: rest, place =>
    if place.kind = .directory then
      (tree.below place.path).flatMap fun entry =>
        let found := place.ofEntry entry
        if component.admits found.name then tree.expand rest found else []
    else []

end Tree

namespace Wildcard

/-- The components of a pattern. One slash at either end makes no component. -/
def components (pattern : String) : Except WildcardFault (List Component) := do
  let text := if startsAtRoot pattern then pattern.toList.drop 1 else pattern.toList
  let cut := Text.split ['/'] text
  let cut := if cut.getLast? == some [] then cut.dropLast else cut
  let components ← cut.mapM fun piece => (tokensFrom none 0 piece).map Component.ofTokens
  return Component.collapse components

/-- The paths that a pattern stands for. With a slash at its end it stands for directories only. -/
def paths (tree : Tree) (pattern : String) : Except WildcardFault (List String) := do
  let _ ← tokens pattern
  let components ← components pattern
  let onlyDirectories := pattern.toList.getLast? == some '/'
  if startsAtRoot pattern != tree.isAbsolute then return []
  let places := tree.expand components (.start tree)
  return (places.filter fun p => !onlyDirectories || p.kind = .directory).map Place.text

/-- The paths that several arguments stand for, those without wildcards for themselves. -/
def expandAll (tree : String → Tree) (arguments : List String) :
    Except WildcardFault (List String) := do
  let found ← arguments.mapM fun argument =>
    if isPattern argument then paths (tree argument) argument else .ok [argument]
  return found.flatten

end Wildcard
end LogIngest.Files
