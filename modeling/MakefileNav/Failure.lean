/-
Module: MakefileNav.Failure
Purpose: Why a command fails, and how that is reported.
Main exports:
  Failure, Failure.message, Failure.rendered, closestSuggestion?
-/
import MakefileNav.Path
import MakefileNav.Position
import MakefileNav.Settings

namespace MakefileNav

/-- Why a command fails. -/
inductive Failure where
  /-- A named file does not exist or is not text. -/
  | fileNotFound (path : Path)
  /-- The settings cannot be read from the disk. -/
  | io (reason : Text)
  /-- Structured output could not be written. -/
  | json (reason : Text)
  /-- The cursor touches no name. -/
  | noSymbolAtPosition (file : Path) (place : Position)
  /-- The name under the cursor is not declared; `declared` are the names that its
  file does declare. -/
  | symbolNotFound (file : Path) (declared : List Text) (symbol : Text)
  /-- The settings are not well formed. -/
  | invalidSettings (reason : Text)
  /-- The directory tree cannot be watched. -/
  | watch (reason : Text)
deriving Repr, DecidableEq

/-- The first declared name that is equal to a name up to the case of ASCII letters. -/
def closestSuggestion? (symbol : Text) (declared : List Text) : Option Text :=
  declared.find? fun name => name.map Char.toLower == symbol.map Char.toLower

namespace Failure

/-- The failure in one line. -/
def message : Failure → Text
  | .fileNotFound path => Text.concat ["file not found: ", path.text]
  | .io reason => Text.concat ["io: ", reason]
  | .json reason => Text.concat ["json: ", reason]
  | .noSymbolAtPosition file place =>
      Text.concat ["no symbol at ", file.text, ":", Text.ofNat place.line, ":",
        Text.ofNat place.character]
  | .symbolNotFound file _ symbol =>
      Text.concat ["symbol not found: `", symbol, "` in ", file.text]
  | .invalidSettings reason => Text.concat ["toml deserialize: ", reason]
  | .watch reason => Text.concat ["watch: ", reason]

/-- The section that helps with an unknown name: the name that was probably meant,
or else all names that the file declares. -/
def suggestionSection (symbol : Text) (declared : List Text) : Text :=
  match closestSuggestion? symbol declared with
  | some name => Text.concat ["\n## Did you mean `", name, "`?\n"]
  | none =>
      if declared.isEmpty then []
      else
        ("\n## Declared in this file\n\n" : Text) ++
          declared.flatMap fun name => Text.concat ["- `", name, "`\n"]

/-- The failure as a Markdown document. -/
def rendered : Failure → Text
  | .fileNotFound path =>
      Text.concat ["# Error: File Not Found\n\n`", path.text,
        "` does not exist or is not a text file.\n"]
  | .io reason => Text.concat ["# Error: I/O\n\n", reason, "\n"]
  | .json reason => Text.concat ["# Error: JSON Output\n\n", reason, "\n"]
  | .noSymbolAtPosition file place =>
      Text.concat ["# Error: No Symbol At Position\n\nNothing at line ", Text.ofNat place.line,
        ", column ", Text.ofNat place.character, " of `", file.text,
        "` names a target or variable.\n\n## Fix\n\n",
        "Positions are zero-based. Point at a target name, a dependency, or the\n",
        "inside of a `$(NAME)` reference:\n\n    makeref symbols ", file.text, "\n"]
  | .symbolNotFound file declared symbol =>
      Text.concat ["# Error: Symbol Not Found\n\n`", symbol, "` is not declared in `", file.text,
        "` or any other Makefile in the workspace.\n", suggestionSection symbol declared]
  | .invalidSettings reason =>
      Text.concat ["# Error: Invalid TOML\n\n", reason, "\n\n## Fix\n\nCheck `", Settings.fileName,
        "` against the supported keys:\n",
        "`include`, `exclude`, `exclude_dirs`, `predefined_variables`.\n"]
  | .watch reason => Text.concat ["# Error: Watch Failed\n\n", reason, "\n"]

/-- The lines that a terminal shows for the failure: headings are in bold. -/
def terminalLines (failure : Failure) : List Text :=
  failure.rendered.lines.dropLast.map fun line =>
    if line.head? = some '#' then
      Text.concat ["\x1b[1m", line, "\x1b[0m"]
    else line

end Failure

end MakefileNav
