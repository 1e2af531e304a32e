/-
Module: MakefileNav.Toml.StringArrays
Purpose: TOML documents that give a name to arrays of strings.
Main exports:
  Toml.StringArrays, Toml.Reading, Toml.Reading.step?, Toml.stringArrays?
-/
import MakefileNav.Toml.Lexeme

namespace MakefileNav.Toml

/-- Arrays of strings by name, in the order of the document.  No name comes twice. -/
abbrev StringArrays := List (Text × List Text)

/-- What a reader of a document expects next. -/
inductive Reading where
  /-- A key, or an empty line. -/
  | lineStart
  /-- The sign after a key. -/
  | afterKey (key : Text)
  /-- The bracket that opens the array of a key. -/
  | afterEquals (key : Text)
  /-- An element, or the end of the array.  The elements so far have the last one
  first. -/
  | beforeElement (key : Text) (elements : List Text)
  /-- A comma, or the end of the array. -/
  | afterElement (key : Text) (elements : List Text)
  /-- The end of the line. -/
  | lineEnd
deriving Repr, DecidableEq

namespace Reading

/-- End an array, unless its key has been used before. -/
def close? (arrays : StringArrays) (key : Text) (elements : List Text) :
    Option (StringArrays × Reading) :=
  if arrays.any (·.1 = key) then none
  else some (arrays ++ [(key, elements.reverse)], .lineEnd)

/-- Take in one lexeme.  Line endings are free inside an array. -/
def step? : StringArrays × Reading → Lexeme → Option (StringArrays × Reading)
  | (arrays, .lineStart), .newline => some (arrays, .lineStart)
  | (arrays, .lineStart), .bare key => some (arrays, .afterKey key)
  | (arrays, .lineStart), .quoted key => some (arrays, .afterKey key)
  | (arrays, .afterKey key), .equals => some (arrays, .afterEquals key)
  | (arrays, .afterEquals key), .openBracket => some (arrays, .beforeElement key [])
  | (arrays, .beforeElement key elements), .newline =>
      some (arrays, .beforeElement key elements)
  | (arrays, .beforeElement key elements), .quoted content =>
      some (arrays, .afterElement key (content :: elements))
  | (arrays, .beforeElement key elements), .block content =>
      some (arrays, .afterElement key (content :: elements))
  | (arrays, .beforeElement key elements), .closeBracket => close? arrays key elements
  | (arrays, .afterElement key elements), .newline =>
      some (arrays, .afterElement key elements)
  | (arrays, .afterElement key elements), .comma =>
      some (arrays, .beforeElement key elements)
  | (arrays, .afterElement key elements), .closeBracket => close? arrays key elements
  | (arrays, .lineEnd), .newline => some (arrays, .lineStart)
  | _, _ => none

end Reading

/-- The arrays of a document.  There is no answer for a document that is not well
formed or gives a name to anything else. -/
def stringArrays? (document : Text) : Option StringArrays :=
  match (lexemes? document).bind (·.foldlM Reading.step? ([], .lineStart)) with
  | some (arrays, .lineStart) => some arrays
  | some (arrays, .lineEnd) => some arrays
  | _ => none

end MakefileNav.Toml
