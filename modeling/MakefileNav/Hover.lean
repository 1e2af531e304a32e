/-
Module: MakefileNav.Hover
Purpose: A description of the declaration that a cursor points at.
Main exports:
  Hover, Hover.describe, hover?
-/
import MakefileNav.Cursor
import MakefileNav.Usage

namespace MakefileNav

/-- A description in Markdown and the range of the name it describes. -/
structure Hover where
  contents : Text
  range : TextRange
deriving Repr, DecidableEq

namespace Hover

/-- Name and kind of a symbol in a fenced block. -/
def heading (symbol : Symbol) : Text :=
  ("```makefile\n" : Text) ++ symbol.name ++ (" (" : Text) ++ symbol.kind.label ++
    (")\n```\n" : Text)

/-- What the line of a rule says after its colons. -/
def dependenciesOf (line : Text) : Option Text :=
  (line.cut? ':').map fun (_, rest) => Text.trim (rest.dropWhile (· == ':'))

/-- The paragraphs on a target: its dependencies and the type of its rule. -/
def targetDetails (symbol : Symbol) (line : Text) : Text :=
  let dependencies : Text :=
    match dependenciesOf line with
    | none => []
    | some [] => "\n**Dependencies:** None"
    | some list => ("\n**Dependencies:** `" : Text) ++ list ++ ("`" : Text)
  let type : Text :=
    if symbol.name.contains '%' then "\n\n**Type:** Pattern Rule"
    else "\n\n**Type:** Explicit Target"
  dependencies ++ type

/-- What an assignment line assigns: the text after its first equals sign. -/
def valueOf (line : Text) : Text :=
  match line.cut? '=' with
  | none => []
  | some (_, rest) => rest.trim

/-- The paragraphs on a variable: its value, unless that is empty, and the number
of its usages. -/
def variableDetails (usageCount : Nat) (line : Text) : Text :=
  let value : Text :=
    match valueOf line with
    | [] => []
    | value => ("\n**Value:** `" : Text) ++ value ++ ("`" : Text)
  value ++ ("\n\n**References:** " : Text) ++ Text.ofNat usageCount ++
    (" usage(s) found" : Text)

/-- Where a symbol is declared, with lines counted from one. -/
def whereabouts (symbol : Symbol) : Text :=
  ("\n\n**Location:** Line " : Text) ++
    Text.ofNat (Position.clamp (symbol.range.start.line + 1))

/-- The whole description of a symbol of a document. -/
def describe (file : Path) (text : Text) (symbol : Symbol) : Text :=
  let line := text.lines[symbol.range.start.line]?.getD []
  let details :=
    match symbol.kind with
    | .target => targetDetails symbol line
    | .variable => variableDetails (usages file text symbol.name).length line
  heading symbol ++ details ++ whereabouts symbol

end Hover

/-- Description of the first declaration of the name that a cursor touches.  There
is none when the cursor touches no name or the document does not declare it. -/
def hover? (file : Path) (text : Text) (place : Position) : Option Hover :=
  match nameAt? text place with
  | none => none
  | some name =>
      (firstDeclaration? (declarations file text) name).map fun symbol =>
        ⟨Hover.describe file text symbol, symbol.range⟩

end MakefileNav
