/-
Module: MakefileNav.Command
Purpose: What the program can be asked to do.
Main exports:
  Spot, Command, Command.run
-/
import MakefileNav.Action
import MakefileNav.Cursor
import MakefileNav.Report
import MakefileNav.Workspace

namespace MakefileNav

/-- A cursor in a file. -/
structure Spot where
  file : Path
  place : Position
deriving Repr, DecidableEq

/-- What the program can be asked to do. -/
inductive Command where
  /-- Check the given files, or all Makefiles of the workspace. -/
  | check (files : List Path)
  /-- List what can be typed at a place. -/
  | complete (spot : Spot)
  /-- Find where the name at a place is declared. -/
  | definition (spot : Spot)
  /-- Describe what the name at a place stands for. -/
  | hover (spot : Spot)
  /-- Find where the name at a place is used. -/
  | references (spot : Spot) (withDeclaration : Bool)
  /-- Give the name at a place. -/
  | resolve (spot : Spot)
  /-- List what a file declares. -/
  | symbols (file : Path)
  /-- Check the workspace, now and after every change. -/
  | watch
deriving Repr, DecidableEq

/-- Number with which the program ends. -/
abbrev ExitCode := Nat

namespace Command

/-! ### Reading -/

/-- Settings of the workspace at a root.  Without a settings file they have their
defaults. -/
def loadSettings (disk : Disk) (root : Path) : Action Settings :=
  match disk.read (root.child Settings.fileName) with
  | .error .notFound => do
      Action.log .debug ["no ", Settings.fileName, " in ", root.text, ", using defaults"]
      return {}
  | .error fault => throw (.io fault.message)
  | .ok text =>
      match Settings.parse? text with
      | none => throw (.invalidSettings "the document is not a table of string arrays")
      | some settings => return settings

/-- The workspace at a root, with its settings. -/
def openWorkspace (disk : Disk) (root : Path) : Action Workspace := do
  return { disk, root, settings := ← loadSettings disk root }

/-- Text of a named file. -/
def readDocument (disk : Disk) (file : Path) : Action Text :=
  match disk.read file with
  | .ok text => return text
  | .error fault => do
      Action.log .debug ["read ", file.text, " failed: ", fault.message]
      throw (.fileNotFound file)

/-- Log what came of searching a workspace for its documents. -/
def logDiscovery (workspace : Workspace) : Action Unit := do
  Action.log .debug ["discovered ", Text.ofNat workspace.discover.length,
    " makefiles under ", workspace.root.text]
  workspace.readings.forM fun (file, reading) =>
    match reading with
    | .ok _ => pure ()
    | .error fault => Action.log .warning ["skipping ", file.text, ": ", fault.message]

/-- Log that a name is too long to be searched for, if it is. -/
def logSearch (name : Text) : Action Unit :=
  if Usage.isTooLong name then
    Action.log .debug ["name too large to search for: ", Text.ofNat name.byteLength, " bytes"]
  else pure ()

/-- The name at a spot of a document. -/
def nameUnder (spot : Spot) (text : Text) : Action Text :=
  match nameAt? text spot.place with
  | some name => return name
  | none => throw (.noSymbolAtPosition spot.file spot.place)

/-- The failure to find a name, with the names that its file declares. -/
def notDeclared (file : Path) (text name : Text) : Failure :=
  .symbolNotFound file ((declarations file text).map Symbol.name) name

/-! ### Commands -/

/-- Findings in one document. -/
def checkDocument (settings : Settings) (document : Path × Text) : Action FileReport := do
  let (file, text) := document
  ((declarations file text).filter (·.kind = .variable)).forM fun symbol =>
    logSearch symbol.name
  let diagnostics := lint file text settings.predefinedVariables
  Action.log .debug [file.text, ": ", Text.ofNat diagnostics.length, " diagnostics"]
  return { file, diagnostics }

/-- The documents that a check looks at: the named files, all of which have to be
readable, or the documents of the workspace. -/
def documentsToCheck (workspace : Workspace) (files : List Path) :
    Action (List (Path × Text)) :=
  if files.isEmpty then do
    logDiscovery workspace
    return workspace.documents
  else
    files.mapM fun file => return (file, ← readDocument workspace.disk file)

/-- Exit code of a check: errors count more than warnings, and nothing else counts. -/
def checkCode (reports : List FileReport) : ExitCode :=
  if 0 < Report.count .error reports then 2
  else if 0 < Report.count .warning reports then 1
  else 0

/-- Check files and report on them. -/
def checkFiles (disk : Disk) (root : Path) (format : Format) (files : List Path) :
    Action ExitCode := do
  let workspace ← openWorkspace disk root
  let documents ← documentsToCheck workspace files
  let reports ← documents.mapM (checkDocument workspace.settings)
  Action.print (Report.ofCheck format root reports)
  return checkCode reports

/-- List what can be typed at a spot. -/
def printCompletions (disk : Disk) (format : Format) (spot : Spot) : Action ExitCode := do
  let text ← readDocument disk spot.file
  Action.print (Report.ofCompletions format (completions spot.file text spot.place))
  return 0

/-- Print where the name at a spot is declared. -/
def printDefinitions (disk : Disk) (root : Path) (format : Format) (spot : Spot) :
    Action ExitCode := do
  let text ← readDocument disk spot.file
  let name ← nameUnder spot text
  let workspace ← openWorkspace disk root
  if (firstDeclaration? (declarations spot.file text) name).isNone then
    logDiscovery workspace
  let locations := workspace.definitions spot.file text name
  if locations.isEmpty then throw (notDeclared spot.file text name)
  Action.print (Report.ofLocations format root locations)
  return 0

/-- Print a description of the name at a spot. -/
def printHover (disk : Disk) (format : Format) (spot : Spot) : Action ExitCode := do
  let text ← readDocument disk spot.file
  let name ← nameUnder spot text
  match hover? spot.file text spot.place with
  | none => throw (notDeclared spot.file text name)
  | some description =>
      let declared := firstDeclaration? (declarations spot.file text) name
      if declared.any (·.kind = .variable) then
        logSearch name
      Action.print (Report.ofHover format description)
      return 0

/-- Print where the name at a spot is used. -/
def printReferences (disk : Disk) (root : Path) (format : Format) (spot : Spot)
    (withDeclaration : Bool) : Action ExitCode := do
  let text ← readDocument disk spot.file
  let name ← nameUnder spot text
  let workspace ← openWorkspace disk root
  logSearch name
  logDiscovery workspace
  (workspace.otherDocuments spot.file).forM fun _ => logSearch name
  let locations := workspace.usages spot.file text name withDeclaration
  Action.log .info [Text.ofNat locations.length, " references to `", name, "`"]
  Action.print (Report.ofLocations format root locations)
  return 0

/-- Print the name at a spot.  The exit code tells whether there is one. -/
def printName (disk : Disk) (format : Format) (spot : Spot) : Action ExitCode := do
  let text ← readDocument disk spot.file
  let name := nameAt? text spot.place
  Action.print (Report.ofName format name)
  return if name.isSome then 0 else 1

/-- Print what a file declares. -/
def printSymbols (disk : Disk) (format : Format) (file : Path) : Action ExitCode := do
  let text ← readDocument disk file
  Action.print (Report.ofSymbols format (declarations file text))
  return 0

/-- Exit code for a failure. -/
def failureCode : ExitCode := 3

/-- A check whose failure is shown and does not end the computation. -/
def checkAgain (disk : Disk) (root : Path) (format : Format) : Action ExitCode :=
  tryCatch (checkFiles disk root format []) fun failure => do
    failure.terminalLines.forM Action.announce
    return failureCode

/-- What a watch does before it waits for changes: a first check, and loading the
settings that tell which changes matter. -/
def startWatch (disk : Disk) (root : Path) (format : Format) : Action ExitCode := do
  Action.announce "watch: initial check"
  let code ← checkAgain disk root format
  let _ ← loadSettings disk root
  return code

/-- Carry out a command in the workspace at a root. -/
def run (disk : Disk) (root : Path) (format : Format) : Command → Action ExitCode
  | .check files => checkFiles disk root format files
  | .complete spot => printCompletions disk format spot
  | .definition spot => printDefinitions disk root format spot
  | .hover spot => printHover disk format spot
  | .references spot withDeclaration => printReferences disk root format spot withDeclaration
  | .resolve spot => printName disk format spot
  | .symbols file => printSymbols disk format file
  | .watch => startWatch disk root format

end Command

end MakefileNav
