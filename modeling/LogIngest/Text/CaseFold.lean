import LogIngest.Text.CaseRun
import LogIngest.Text.CharSet

/-!
Sets of characters that do not tell upper case from lower case.
-/

namespace LogIngest

/-- The code points that differ from a given one in case only, itself among them. -/
def CaseRun.variants (point : Nat) : List Nat :=
  let fold := match find? toFold point with
    | some run => run.image point
    | none => point
  let others := toFold.filterMap fun run =>
    let origin := (fold - run.shift).toNat
    if run.covers origin then some origin else none
  fold :: others

/-- The code points that folding changes, with what it changes them to. -/
def CaseRun.folded : List (Nat × Nat) :=
  toFold.flatMap pairs

namespace CharSet

/-- Membership of a code point. -/
def containsPoint (set : CharSet) (point : Nat) : Bool :=
  set.rank point % 2 == 1

/-- The set of some code points. -/
def ofPoints (points : List Nat) : CharSet :=
  unions (points.map fun point => interval point point)

/-- A character in every case. -/
def anyCase (c : Char) : CharSet :=
  ofPoints (CaseRun.variants c.toNat)

/-- The set with every character that differs from a member in case only. Folding sends each
character to one that stands for all its variants, so two passes over the folded ones find them. -/
def caseClosure (set : CharSet) : CharSet :=
  let folds := CaseRun.folded.filterMap fun (point, fold) =>
    if set.containsPoint point && !set.containsPoint fold then some fold else none
  let set := set.union (ofPoints folds)
  let points := CaseRun.folded.filterMap fun (point, fold) =>
    if set.containsPoint fold && !set.containsPoint point then some point else none
  set.union (ofPoints points)

/-- The characters `distance` code points away from members that lie from `first` to `last`. -/
def shifted (set : CharSet) (first last : Nat) (distance : Int) : CharSet :=
  let within := set.inter (interval first last)
  ⟨within.edges.map fun (edge : Nat) => ((edge : Int) + distance).toNat⟩

/-- The set with every ASCII letter that differs from a member in case only. -/
def asciiCaseClosure (set : CharSet) : CharSet :=
  (set.union (set.shifted 0x41 0x5A 32)).union (set.shifted 0x61 0x7A (-32))

end CharSet
end LogIngest
