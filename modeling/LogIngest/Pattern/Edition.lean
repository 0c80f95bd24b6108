import LogIngest.Pattern.Fault
import LogIngest.Text.Age
import LogIngest.Text.Segmentation

/-!
Editions of the language of patterns. The grammar is the same in all of them; an edition settles which classes
of characters have the names of Unicode properties, how deep patterns may nest and how large they may be.
-/

namespace LogIngest.Pattern

/-- How a class of characters with some property is written: by one name, which may be a single letter, or by
the name of a property and a value of it. -/
inductive ClassName where
  | named (name : List Char)
  | valued (property value : List Char)
deriving DecidableEq, Repr

namespace ClassName

/-- What stands before and behind the first occurrence of a mark. -/
def cutAt? (mark : List Char) : List Char → Option (List Char × List Char)
  | [] => none
  | c :: rest =>
    if mark.isPrefixOf (c :: rest) then some ([], (c :: rest).drop mark.length)
    else (cutAt? mark rest).map fun (before, behind) => (c :: before, behind)

/-- The name that stands in braces. A property stands apart from its value by one of three marks, which all
mean the same. -/
def ofText (text : List Char) : ClassName :=
  match (cutAt? ['!', '='] text).or ((cutAt? [':'] text).or (cutAt? ['='] text)) with
  | some (property, value) => valued property value
  | none => named text

/-- What counts of a name: its characters of ASCII in lower case, without separators and without the two
letters `is` at its start. A name of which `c` would be left keeps them. -/
def folded (name : List Char) : String :=
  let (marked, rest) := match name with
    | i :: s :: rest => if i.toLower == 'i' && s.toLower == 's' then (true, rest) else (false, name)
    | name => (false, name)
  let kept := rest.filter fun c => c.toNat < 0x80 && c != ' ' && c != '_' && c != '-'
  let folded := kept.map Char.toLower
  if marked && folded == ['c'] then "isc" else String.ofList folded

/-- The set of a name that stands alone: of a property, of a general category or of a script. -/
def set? (name : String) : Option CharSet :=
  (NamedSet.find? properties name).or ((NamedSet.find? generalCategories name).or (script? name))

/-- The set of the characters for which a property has some value. The value of the age is a version of the standard,
and the other properties are not known by their values. -/
def valueSet (property value : String) : Except Cause CharSet :=
  let known (found : Option CharSet) : Except Cause CharSet := found.elim (.error .unknownValue) .ok
  match property with
  | "generalcategory" | "gc" => known (NamedSet.find? generalCategories value)
  | "script" | "sc" => known (script? value)
  | "scriptextensions" | "scx" => known (scriptExtension? value)
  | "age" => known (age? value)
  | "graphemeclusterbreak" | "gcb" => known (NamedSet.find? clusterBreaks value)
  | "sentencebreak" | "sb" => known (NamedSet.find? sentenceBreaks value)
  | "wordbreak" | "wb" => known (NamedSet.find? wordBreaks value)
  | _ => .error .unknownProperty

/-- The set that a name stands for. -/
def set : ClassName → Except Cause CharSet
  | named name => (set? (folded name)).elim (.error .unknownProperty) .ok
  | valued property value => valueSet (folded property) (folded value)

end ClassName

structure Edition where
  /-- The classes of characters by their names. -/
  classes : ClassName → Except Cause CharSet
  /-- In how many levels a pattern may nest. -/
  nestLimit : Nat
  /-- How many bytes the program of a pattern may take. -/
  sizeLimit : Nat

/-- The edition in which the patterns of configurations are written. -/
def Edition.standard : Edition where
  classes := ClassName.set
  nestLimit := 250
  sizeLimit := 10 * 1024 * 1024

end LogIngest.Pattern
