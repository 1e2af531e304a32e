/-
Module: MakefileNav.Lint.Checks
Purpose: The checks that a document has to pass.
Main exports:
  Lint.builtinVariables, Lint.tabRequired?, Lint.undefinedVariables,
  Lint.undefinedTargets, Lint.unusedVariables, lint
-/
import MakefileNav.Lint.Diagnostic
import MakefileNav.Usage

namespace MakefileNav

namespace Lint

/-! ### What is declared -/

/-- Variables that make sets by itself, with the automatic variables at the end. -/
def builtinVariables : List Text :=
  (["CC", "CXX", "CPP", "FC", "PC", "CO", "GET", "LEX", "YACC", "CFLAGS", "CXXFLAGS",
    "CPPFLAGS", "FFLAGS", "PFLAGS", "LDFLAGS", "ARFLAGS", "YFLAGS", "LFLAGS", "MAKE",
    "SHELL", "MAKESHELL", "MAKEFLAGS", "MAKECMDGOALS",
    "@", "<", "^", "?", "*", "+", "|"] : List String).map String.toList

/-- The names that symbols of one kind declare. -/
def namesOf (kind : SymbolKind) (symbols : List Symbol) : List Text :=
  (symbols.filter (·.kind = kind)).map Symbol.name

/-! ### Checks of one line -/

/-- Whether a line indented with spaces under this one lacks its tab: the line has
a colon and is not a comment. -/
def expectsRecipe (line : Text) : Bool :=
  line.contains ':' && line.trim.head? != some '#'

/-- The check for a missing tab.  It looks at a line that is not blank and starts
with a space, and at the line before it. -/
def tabRequired? (number : Nat) (previous : Option Text) (line : Text) : Option Diagnostic :=
  if line.head? = some ' ' ∧ line.trim ≠ [] ∧ previous.any expectsRecipe then
    some ⟨.tabRequired, .onLine number 0 line.indent⟩
  else none

/-- The variables that a line refers to and that are not in the list of known
ones. -/
def undefinedVariables (known : List Text) (number : Nat) (line : Text) : List Diagnostic :=
  ((Line.variableUses line).filter (!known.contains ·.text)).map fun token =>
    ⟨.undefinedVariable token.text, .onLine number token.offset token.stop⟩

/-- Whether a dependency looks like a target: it is not the bar before order-only
dependencies and contains no sign of a variable, a pattern or a file name. -/
def looksLikeTarget (name : Text) : Bool :=
  name != ['|'] && !name.any fun c => c == '$' || c == '%' || c == '.' || c == '/'

/-- The dependencies of a line that look like targets and are not declared. -/
def undefinedTargets (targets : List Text) (number : Nat) (line : Text) : List Diagnostic :=
  ((Line.dependencies line).filter fun token =>
      looksLikeTarget token.text && !targets.contains token.text).map fun token =>
    ⟨.undefinedTarget token.text, .onLine number token.offset token.stop⟩

/-- All checks of one line.  `known` are the variables that are set and `targets` the targets. -/
def checkLine (known targets : List Text) (number : Nat) (previous : Option Text)
    (line : Text) : List Diagnostic :=
  (tabRequired? number previous line).toList ++ undefinedVariables known number line ++
    undefinedTargets targets number line

/-! ### Checks of a document -/

/-- Checks of all lines, in line order, each beside the line before it. -/
def checkLines (known targets : List Text) (lines : List Text) : List Diagnostic :=
  ((none :: lines.map some).zip lines).zipIdx.flatMap fun ((previous, line), number) =>
    checkLine known targets number previous line

/-- The declared variables that no line of the document uses. -/
def unusedVariables (file : Path) (lines : List Text) (symbols : List Symbol) :
    List Diagnostic :=
  (symbols.filter fun symbol =>
      symbol.kind = .variable && (usagesOnLines file lines symbol.name).isEmpty).map
    fun symbol => ⟨.unusedVariable symbol.name, symbol.range⟩

end Lint

/-- All findings in a document: those of its lines, in line order, and then its
unused variables.  The names in `predefined` count as set, like those that make
sets by itself. -/
def lint (file : Path) (text : Text) (predefined : List Text) : List Diagnostic :=
  let lines := text.lines
  let symbols := declarations file text
  let known := Lint.namesOf .variable symbols ++ Lint.builtinVariables ++ predefined
  Lint.checkLines known (Lint.namesOf .target symbols) lines ++
    Lint.unusedVariables file lines symbols

end MakefileNav
