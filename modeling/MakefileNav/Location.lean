/-
Module: MakefileNav.Location
Purpose: A range inside a named file.
Main exports:
  Location, Location.sameStart
-/
import MakefileNav.Path
import MakefileNav.Position

namespace MakefileNav

/-- A range inside a file. -/
structure Location where
  file : Path
  range : TextRange
deriving Repr, DecidableEq, Inhabited

namespace Location

/-- Whether two locations start at one place of one file. -/
def sameStart (left right : Location) : Bool :=
  left.file.same right.file && left.range.start == right.range.start

/-- The same place, a number of lines further down. -/
def shiftLines (count : Nat) (location : Location) : Location :=
  { location with range := location.range.shiftLines count }

end Location

end MakefileNav
