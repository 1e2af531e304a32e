/-
Module: MakefileNav.Completion
Purpose: What can be typed at a place of a document.
Main exports:
  Completion, Completion.Kind, Completion.Context, Completion.contextOf,
  completions
-/
import MakefileNav.Symbol

namespace MakefileNav

namespace Completion

/-- What a completion stands for. -/
inductive Kind where
  /-- A function of make, or a target. -/
  | function
  /-- A special target. -/
  | keyword
  /-- A variable. -/
  | variable
deriving Repr, DecidableEq

/-- The kind as it is written in structured output. -/
def Kind.tag : Kind → Text
  | .function => "function"
  | .keyword => "keyword"
  | .variable => "variable"

/-- What the text before a cursor asks for. -/
inductive Context where
  /-- The name of a variable, after `$(`. -/
  | variableReference
  /-- A dependency, after a colon. -/
  | dependency
  /-- Anything that can start a line. -/
  | general
deriving Repr, DecidableEq

end Completion

/-- One thing that can be typed. -/
structure Completion where
  label : Text
  kind : Completion.Kind
  detail : Option Text := none
  documentation : Option Text := none
  /-- Text to type in place of the label. -/
  insertText : Option Text := none
  /-- Text to sort by in place of the label. -/
  sortText : Option Text := none
deriving Repr, DecidableEq

namespace Completion

/-! ### What make provides -/

/-- Functions: name, purpose and form of a call. -/
def functions : List (String × String × String) :=
  [("wildcard", "Find files matching pattern", "$(wildcard pattern)"),
   ("patsubst", "Pattern substitution", "$(patsubst pattern,replacement,text)"),
   ("subst", "Text substitution", "$(subst from,to,text)"),
   ("filter", "Filter words matching patterns", "$(filter pattern,text)"),
   ("filter-out", "Filter out words matching patterns", "$(filter-out pattern,text)"),
   ("sort", "Sort words", "$(sort list)"),
   ("dir", "Directory part of filenames", "$(dir names)"),
   ("notdir", "Non-directory part of filenames", "$(notdir names)"),
   ("basename", "Remove suffix from filenames", "$(basename names)"),
   ("addsuffix", "Add suffix to words", "$(addsuffix suffix,names)"),
   ("addprefix", "Add prefix to words", "$(addprefix prefix,names)")]

/-- Variables that make sets: name and purpose. -/
def predefinedVariables : List (String × String) :=
  [("CC", "C compiler command"),
   ("CXX", "C++ compiler command"),
   ("CFLAGS", "C compiler flags"),
   ("CXXFLAGS", "C++ compiler flags"),
   ("LDFLAGS", "Linker flags"),
   ("MAKE", "Make command"),
   ("SHELL", "Shell to use"),
   ("@", "Target name"),
   ("<", "First prerequisite"),
   ("^", "All prerequisites"),
   ("?", "Prerequisites newer than target")]

/-- Special targets: name and purpose. -/
def specialTargets : List (String × String) :=
  [(".PHONY", "Declare phony targets"),
   (".DEFAULT", "Default target for unmatched files"),
   (".PRECIOUS", "Preserve intermediate files"),
   (".INTERMEDIATE", "Mark targets as intermediate"),
   (".SECONDARY", "Mark targets as secondary"),
   (".DELETE_ON_ERROR", "Delete targets on command failure"),
   (".IGNORE", "Ignore errors in commands"),
   (".SILENT", "Silent execution of commands"),
   (".EXPORT_ALL_VARIABLES", "Export all variables to sub-makes")]

/-! ### Candidates -/

/-- A variable to be put into a reference, whose parenthesis it closes. -/
def ofVariable (name detail : Text) : Completion where
  label := name
  kind := .variable
  detail := some detail
  insertText := some (name ++ [')'])

/-- The variables of a document in the order of their declarations, then those that
make sets. -/
def variableCompletions (symbols : List Symbol) : List Completion :=
  (symbols.filter (·.kind = .variable)).map
      (fun symbol => ofVariable symbol.name "User-defined variable") ++
    predefinedVariables.map (fun (name, purpose) => ofVariable name purpose)

/-- A target to be put into a dependency list.  Patterns are sorted to the end. -/
def ofTarget (name : Text) : Completion :=
  if name.contains '%' then
    { label := name
      kind := .function
      detail := some "Pattern rule (may not be suitable as dependency)"
      sortText := some ('z' :: name) }
  else
    { label := name, kind := .function, detail := some "Makefile target" }

/-- The targets of a document in the order of their declarations. -/
def targetCompletions (symbols : List Symbol) : List Completion :=
  (symbols.filter (·.kind = .target)).map (fun symbol => ofTarget symbol.name)

/-- A special target, with the colon that starts its list. -/
def ofSpecialTarget (name purpose : Text) : Completion where
  label := name
  kind := .keyword
  detail := some purpose
  insertText := some (name ++ [':', ' '])

/-- A function of make. -/
def ofFunction (name purpose form : Text) : Completion where
  label := name
  kind := .function
  detail := some purpose
  documentation := some form
  insertText := some name

/-- What can start a line: the special targets, then the functions. -/
def generalCompletions : List Completion :=
  specialTargets.map (fun (name, purpose) => ofSpecialTarget name purpose) ++
    functions.map (fun (name, purpose, form) => ofFunction name purpose form)

/-! ### Contexts -/

/-- Whether a text ends with `$(` and letters or low lines after it. -/
def endsInReference (before : Text) : Bool :=
  ['(', '$'].isPrefixOf (before.reverse.dropWhile fun c => c.isAlpha || c == '_')

/-- What the text before a cursor asks for.  A dependency needs something after the
first colon. -/
def contextOf (before : Text) : Context :=
  if endsInReference before then .variableReference
  else
    match before.cut? ':' with
    | some (_, _ :: _) => .dependency
    | _ => .general

end Completion

/-- What can be typed at a place of a document. -/
def completions (file : Path) (text : Text) (place : Position) : List Completion :=
  let line := text.lines[place.line]?.getD []
  match Completion.contextOf (line.splitBytes place.character).1 with
  | .variableReference => Completion.variableCompletions (declarations file text)
  | .dependency => Completion.targetCompletions (declarations file text)
  | .general => Completion.generalCompletions

end MakefileNav
