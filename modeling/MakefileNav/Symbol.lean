/-
Module: MakefileNav.Symbol
Purpose: The names that a Makefile declares.
Main exports:
  SymbolKind, Symbol, Line.declaredNames, declarations, firstDeclaration?
-/
import MakefileNav.Line
import MakefileNav.Location

namespace MakefileNav

/-- What a name is declared as. -/
inductive SymbolKind where
  | target
  | variable
deriving Repr, DecidableEq, Inhabited

namespace SymbolKind

/-- The kind as it is shown to a reader. -/
def label : SymbolKind → Text
  | .target => "Target"
  | .variable => "Variable"

/-- The kind as it is written in structured output. -/
def tag : SymbolKind → Text
  | .target => "target"
  | .variable => "variable"

/-- The kind of outline entry that an editor shows for it. -/
def outline : SymbolKind → Text
  | .target => "function"
  | .variable => "variable"

end SymbolKind

/-- A declared name and the place where it stands. -/
structure Symbol where
  kind : SymbolKind
  name : Text
  location : Location
deriving Repr, DecidableEq, Inhabited

namespace Symbol

/-- Range of the name in its file. -/
def range (symbol : Symbol) : TextRange :=
  symbol.location.range

/-- The same symbol, a number of lines further down. -/
def shiftLines (count : Nat) (symbol : Symbol) : Symbol :=
  { symbol with location := symbol.location.shiftLines count }

end Symbol

/-! ### Declarations -/

/-- The names that one line declares.  A rule declares its target and an assignment
its variable; a line that is both declares the target first.  Blank lines,
comments and `.PHONY` lists declare nothing. -/
def Line.declaredNames (line : Text) : List (SymbolKind × Text) :=
  if isBlankOrComment line.trim || (phonyList? line.trim).isSome then []
  else
    ((ruleTarget? line).map (SymbolKind.target, ·)).toList ++
      ((assignedName? line).map (SymbolKind.variable, ·)).toList

/-- The symbols that one line declares.  A declared name starts its line. -/
def Line.declarations (file : Path) (number : Nat) (line : Text) : List Symbol :=
  (declaredNames line).map fun (kind, name) =>
    { kind, name, location := ⟨file, .onLine number 0 name.byteLength⟩ }

/-- Results of a scan of every line, in line order.  The scan is told the number of
each line, the first one being `first`. -/
def scanLines {α : Type} (scan : Nat → Text → List α) (first : Nat) (lines : List Text) :
    List α :=
  (lines.zipIdx first).flatMap fun (line, number) => scan number line

/-- The symbols that a document declares, in line order. -/
def declarations (file : Path) (text : Text) : List Symbol :=
  scanLines (Line.declarations file) 0 text.lines

/-- The first declaration of a name. -/
def firstDeclaration? (symbols : List Symbol) (name : Text) : Option Symbol :=
  symbols.find? (·.name = name)

end MakefileNav
