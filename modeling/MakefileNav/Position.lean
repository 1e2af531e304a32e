/-
Module: MakefileNav.Position
Purpose: Places and ranges in a document.
Main exports:
  Position, Position.limit, TextRange, TextRange.onLine, TextRange.contains
-/

namespace MakefileNav

/-- A place in a document: a line counted from zero and a byte column in it. -/
structure Position where
  line : Nat
  character : Nat
deriving Repr, DecidableEq, Inhabited

namespace Position

/-- Greatest line or column that can be reported; a larger one is reported as
this one. -/
def limit : Nat := 4294967295

/-- A line or column number within the limit. -/
def clamp (n : Nat) : Nat := min n limit

/-- Document order: by line, then by column. -/
def order (left right : Position) : Ordering :=
  (compare left.line right.line).then (compare left.character right.character)

/-- Whether a place is not after another. -/
def notAfter (left right : Position) : Bool :=
  (order left right).isLE

end Position

/-- A stretch of a document.  The end is exclusive. -/
structure TextRange where
  start : Position
  stop : Position
deriving Repr, DecidableEq, Inhabited

namespace TextRange

/-- A range on one line, from the column `start` to the column `stop`. -/
def onLine (line start stop : Nat) : TextRange where
  start := ⟨Position.clamp line, Position.clamp start⟩
  stop := ⟨Position.clamp line, Position.clamp stop⟩

/-- Whether a place touches a range, both ends included. -/
def contains (range : TextRange) (place : Position) : Bool :=
  range.start.notAfter place && place.notAfter range.stop

/-- The same range, a number of lines further down. -/
def shiftLines (count : Nat) (range : TextRange) : TextRange where
  start := { range.start with line := range.start.line + count }
  stop := { range.stop with line := range.stop.line + count }

end TextRange

end MakefileNav
