/-
Module: MakefileNav.Usage
Purpose: Where a document uses a name.
Main exports:
  Usage.patternLimit, Usage.patternSize, Usage.isTooLong, Line.usages, usages,
  usagesWithDeclaration
-/
import MakefileNav.Symbol
import MakefileNav.Text.Search

namespace MakefileNav

/-!
A line uses a name in three ways: as the variable of a reference `$(NAME)`, as an
entry of a `.PHONY` list, and as a whole word after the first colon.  References
are looked for on every line.  An assignment has no other uses, a `.PHONY` line
only its entries, and every other line the words after its colon.  A name that is
used in two ways at one place is listed twice.

A name is searched for with patterns that are compiled from it, and a compiled
pattern is limited in size.  How long a name may be follows from this limit.
-/

namespace Usage

/-- Greatest number of bytes that a compiled search pattern may take. -/
def patternLimit : Nat := 10 * 1024 * 1024

/-- Number of bytes that a compiled search pattern takes.  It has a state of 32
bytes for each step of the pattern and six more: three that pass over what comes
before a match, one at either end of the match and one that accepts it.  The
branches of the first three take another 16 bytes. -/
def patternSize (steps : Nat) : Nat :=
  32 * (steps + 6) + 16

/-- Whether a name is too long to be searched for.  The pattern of a reference has
a step for each byte of the name and for the three characters around it, that of a
whole word one for each byte and for the two ends of the word.  One of the two is
too large when the name has 327671 bytes or more. -/
def isTooLong (name : Text) : Bool :=
  patternLimit < patternSize (name.byteLength + 3) ||
    patternLimit < patternSize (name.byteLength + 2)

/-- Whether a text starts with the reference `$(NAME)` to a name. -/
def startsWithReference (name : Text) : Text → Bool
  | '$' :: '(' :: rest =>
      match name.isPrefixOf? rest with
      | some (')' :: _) => true
      | _ => false
  | _ => false

/-- Byte offsets of a name inside its references `$(NAME)`. -/
def inReferences (name line : Text) : List Nat :=
  (line.scan fun _ suffix =>
    if startsWithReference name suffix then some (name.length + 3) else none).map (· + 2)

/-- Byte offsets of a name among the entries of a `.PHONY` list. -/
def inEntries (name : Text) (entries : List Token) : List Nat :=
  (entries.filter (·.text = name)).map Token.offset

/-- Byte offsets of a name as a whole word after the first colon of a line. -/
def inDependencies (name line : Text) : List Nat :=
  match Line.afterColon? line with
  | none => []
  | some rest => (Text.wholeWordOccurrences name rest.text).map (rest.offset + ·)

/-- Byte offsets at which a line uses a name outside references. -/
def outsideReferences (name line : Text) : List Nat :=
  if Line.isAssignment line then []
  else
    match Line.phonyEntries? line with
    | some entries => inEntries name entries
    | none => inDependencies name line

end Usage

/-- Byte offsets at which a line uses a name. -/
def Line.usageOffsets (name line : Text) : List Nat :=
  Usage.inReferences name line ++ Usage.outsideReferences name line

/-- The usages of a name on one line. -/
def Line.usages (file : Path) (name : Text) (number : Nat) (line : Text) : List Location :=
  (usageOffsets name line).map fun offset =>
    ⟨file, .onLine number offset (offset + name.byteLength)⟩

/-- The usages of a name on the lines of a document. -/
def usagesOnLines (file : Path) (lines : List Text) (name : Text) : List Location :=
  if name.isEmpty || Usage.isTooLong name then []
  else scanLines (Line.usages file name) 0 lines

/-- The usages of a name in a document, in line order.  The empty name and names
beyond the limit have none. -/
def usages (file : Path) (text name : Text) : List Location :=
  usagesOnLines file text.lines name

/-- The usages of a name, with its first declaration in front when it is asked for
and there is one.  The declaration is listed once. -/
def usagesWithDeclaration (file : Path) (text name : Text) (withDeclaration : Bool) :
    List Location :=
  match if withDeclaration then firstDeclaration? (declarations file text) name else none with
  | none => usages file text name
  | some symbol =>
      symbol.location :: (usages file text name).filter (· ≠ symbol.location)

end MakefileNav
