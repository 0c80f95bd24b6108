import LogIngest.Text.Pieces

/-!
Files as they were at one time: their tree and their contents. A tree is held by name only, as the paths
below its root in the order in which a walk comes to them: a directory before what is in it, and names in
increasing order.
-/

namespace LogIngest.Files

inductive ReadFault where
  | missing
  /-- Something that should be a directory is a file. -/
  | notDirectory
  /-- Something that should be a file is a directory. -/
  | directory
  | notUtf8
  | other (reason : String)
deriving DecidableEq, Repr

namespace ReadFault

def message : ReadFault → String
  | missing => "No such file or directory (os error 2)"
  | notDirectory => "Not a directory (os error 20)"
  | directory => "Is a directory (os error 21)"
  | notUtf8 => "stream did not contain valid UTF-8"
  | other reason => reason

end ReadFault

/-- The names on the way from the root of a tree. Steps above the root are written as two dots. -/
abbrev Path := List String

inductive Kind where
  | file
  | directory
deriving DecidableEq, Repr

structure Tree where
  /-- Whether the root is that of the file system, so that paths start with a slash. -/
  isAbsolute : Bool := false
  entries : List (Path × Kind) := []
deriving Repr

/-- The pieces of the text of a path between slashes. -/
def pieces (path : String) : List String :=
  (Text.split ['/'] path.toList).map String.ofList

/-- Whether the text of a path starts at the root of the file system. -/
def startsAtRoot (path : String) : Bool :=
  path.toList.head? == some '/'

namespace Tree

/-- The directories on the way to a path. -/
def parents (path : Path) : List Path :=
  (List.range path.length).tail.map path.take

/-- Whether a walk comes to a path before another one or at the same time. -/
def isBefore : Path → Path → Bool
  | [], _ => true
  | _ :: _, [] => false
  | a :: as, b :: bs => a < b || (a == b && isBefore as bs)

/-- The tree of some entries and of the directories on the way to them. -/
def ofEntries (entries : List (Path × Kind)) (isAbsolute : Bool := false) : Tree where
  isAbsolute
  entries :=
    let all := entries ++ (entries.flatMap fun e => parents e.1).map (·, .directory)
    let sorted := all.mergeSort fun a b => isBefore a.1 b.1
    sorted.eraseDups

/-- What stands at a path. The root is a directory, and so is all above it. -/
def kind? (tree : Tree) (path : Path) : Option Kind :=
  if path.all (· == "..") then some .directory else tree.entries.lookup path

/-- The path of a directory around another one. -/
def parent (path : Path) : Path :=
  if path.all (· == "..") then ".." :: path else path.dropLast

/-- Follows the pieces of a path from a place where something of some kind stands. Empty pieces and
dots stay in place, but only in a directory. -/
def follow (tree : Tree) (path : Path) (kind : Kind) : List String → Except ReadFault (Path × Kind)
  | [] => .ok (path, kind)
  | piece :: rest =>
    match kind with
    | .file => .error .notDirectory
    | .directory =>
      if piece.isEmpty || piece == "." then follow tree path .directory rest
      else if piece == ".." then follow tree (parent path) .directory rest
      else
        match tree.kind? (path ++ [piece]) with
        | some found => follow tree (path ++ [piece]) found rest
        | none => .error .missing

/-- Finds what the text of a path stands for. -/
def locate (tree : Tree) (path : String) : Except ReadFault (Path × Kind) :=
  if path.isEmpty || startsAtRoot path != tree.isAbsolute then .error .missing
  else tree.follow [] .directory (pieces path)

/-- What is in a directory and in the directories in it, in the order of the walk. -/
def below (tree : Tree) (directory : Path) : List (Path × Kind) :=
  tree.entries.filter fun e => directory.isPrefixOf e.1 && directory.length < e.1.length

/-- What is in a directory, by increasing name. -/
def children (tree : Tree) (directory : Path) : List (Path × Kind) :=
  tree.entries.filter fun e =>
    directory.isPrefixOf e.1 && e.1.length == directory.length + 1

end Tree

structure Snapshot where
  tree : Tree
  contents : List (Path × ByteArray)

namespace Snapshot

/-- The snapshot of some files, given by their paths from where relative paths start. -/
def ofFiles (files : List (String × ByteArray)) : Snapshot :=
  let contents := files.map fun (path, bytes) => ((pieces path).filter (· != "."), bytes)
  { tree := .ofEntries (contents.map fun (path, _) => (path, .file)), contents }

/-- The contents of the file at a path. -/
def read (snapshot : Snapshot) (path : String) : Except ReadFault ByteArray :=
  match snapshot.tree.locate path with
  | .error fault => .error fault
  | .ok (_, .directory) => .error .directory
  | .ok (names, .file) =>
    match snapshot.contents.lookup names with
    | some bytes => .ok bytes
    | none => .error .missing

end Snapshot
end LogIngest.Files
