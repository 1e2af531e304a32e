/-
Module: MakefileNav.Cursor
Purpose: The name that a cursor touches.
Main exports:
  Cursor.wordAt?, Cursor.referenceAt?, nameAt?
-/
import MakefileNav.Line
import MakefileNav.Position

namespace MakefileNav

namespace Cursor

/-- Characters of a word under the cursor.  There are more of them than in the
name of a variable, so that a file name is one word. -/
def isWordChar (c : Char) : Bool :=
  c.isAlphanum || c == '_' || c == '.' || c == '-' || c == '/'

/-- The word that a column touches, both ends included. -/
def wordAt? (line : Text) (column : Nat) : Option Token :=
  (line.runs isWordChar).find? fun word => word.offset ≤ column && column ≤ word.stop

/-- The text between the last `$(` and the end of a text, which is given last
character first.  `inner` holds the characters already passed. -/
def sinceOpening? : Text → Text → Option Text
  | '(' :: '$' :: _, inner => some inner
  | c :: before, inner => sinceOpening? before (c :: inner)
  | [], _ => none

/-- What stands between the parentheses of the reference around a column: the last
`$(` before the column opens it, and the first `)` after that closes it, which
has to come at the column or later. -/
def referenceAt? (line : Text) (column : Nat) : Option Text :=
  let (before, after) := line.splitBytes column
  match sinceOpening? before.reverse [], after.cut? ')' with
  | some inner, some (rest, _) =>
      let name := inner ++ rest
      if inner.contains ')' || name.isEmpty then none else some name
  | _, _ => none

/-- The name that a column of a line touches.  Nothing is touched unless a word is.
Inside a reference the answer is the text in its parentheses; elsewhere on a line
with a colon it is the word, and on the name of an assignment that name. -/
def nameOnLine? (line : Text) (column : Nat) : Option Text :=
  match wordAt? line column with
  | none => none
  | some word =>
      match referenceAt? line column with
      | some name => some name
      | none =>
          if line.contains ':' then some word.text
          else
            match Line.assignedName? line with
            | some name => if column ≤ name.byteLength then some name else some word.text
            | none => some word.text

end Cursor

/-- The name that a cursor touches.  A column inside a character counts as the start
of that character, and one past the line as its end. -/
def nameAt? (text : Text) (place : Position) : Option Text :=
  match text.lines[place.line]? with
  | none => none
  | some line => Cursor.nameOnLine? line (line.snap place.character)

end MakefileNav
