/-
Module: MakefileNav.Workspace
Purpose: The Makefiles of a directory tree, searched together.
Main exports:
  Workspace, Workspace.isMakefile, Workspace.discover, Workspace.readings,
  Workspace.documents, Workspace.otherDocuments, Workspace.definitions,
  Workspace.usages
-/
import MakefileNav.FileTree.Disk
import MakefileNav.Settings
import MakefileNav.Usage

namespace MakefileNav

/-- A directory tree on a disk, with its settings. -/
structure Workspace where
  disk : Disk
  root : Path
  settings : Settings

namespace Workspace

/-! ### Discovery -/

/-- Names of the files that make reads by itself. -/
def makefileNames : List Text :=
  (["GNUmakefile", "Makefile", "makefile"] : List String).map String.toList

/-- Extensions of the files that Makefiles include. -/
def makefileExtensions : List Text :=
  (["mak", "mk"] : List String).map String.toList

/-- Whether a path names a Makefile, by its file name or by its extension. -/
def isMakefile (path : Path) : Bool :=
  path.fileName?.any makefileNames.contains || path.extension?.any makefileExtensions.contains

/-- The tree that is searched: what the root stands for, and for a link the
directory it leads to. -/
def tree? (workspace : Workspace) : Option Node :=
  match workspace.disk.status .keepLink workspace.root with
  | .error _ => none
  | .ok (.link _) =>
      match workspace.disk.status .followLink workspace.root with
      | .ok (.directory entries) => some (.directory entries)
      | _ => none
  | .ok node => some node

/-- Path of what the given names lead to below the root. -/
def pathOf (workspace : Workspace) (names : List Text) : Path :=
  names.foldl Path.child workspace.root

/-- Whether the directory of the file that the given names lead to can be opened by
its path. -/
def opensDirectoryOf (workspace : Workspace) (names : List Text) : Bool :=
  Disk.admits (workspace.pathOf names.dropLast)

/-- The regular files of the tree outside excluded directories. -/
def files (workspace : Workspace) : List Path :=
  match workspace.tree? with
  | none => []
  | some node =>
      ((node.filesBelow workspace.settings.excludeDirs.contains).filter
        workspace.opensDirectoryOf).map workspace.pathOf

/-- Whether a file of the tree is one of the Makefiles to be searched. -/
def selects (workspace : Workspace) (path : Path) : Bool :=
  isMakefile path &&
    workspace.settings.shouldScan (workspace.root.shownFrom path).text

/-- The Makefiles of the workspace, in the order of their paths. -/
def discover (workspace : Workspace) : List Path :=
  (workspace.files.filter workspace.selects).mergeSort Path.notAfter

/-! ### Documents -/

/-- The Makefiles of the workspace, each with what came of reading it. -/
def readings (workspace : Workspace) : List (Path × Except Disk.Fault Text) :=
  workspace.discover.map fun file => (file, workspace.disk.read file)

/-- The Makefiles of the workspace that can be read, with their texts. -/
def documents (workspace : Workspace) : List (Path × Text) :=
  workspace.readings.filterMap fun (file, reading) =>
    match reading with
    | .ok text => some (file, text)
    | .error _ => none

/-- Whether a file of the workspace is the current one.  A current file that exists
is known by the place it leads to, any other by its path. -/
def isCurrent (workspace : Workspace) (current file : Path) : Bool :=
  match workspace.disk.canonical? current with
  | none => file.same current
  | some place => workspace.disk.canonical? file == some place

/-- The documents of the workspace apart from the current file. -/
def otherDocuments (workspace : Workspace) (current : Path) : List (Path × Text) :=
  workspace.documents.filter fun (file, _) => !workspace.isCurrent current file

/-! ### Searches

The text of the current file is handed in, because an editor may hold a newer one
than the disk. -/

/-- Place of the first declaration of a name in a document. -/
def declaration? (file : Path) (text name : Text) : Option Location :=
  (firstDeclaration? (declarations file text) name).map Symbol.location

/-- Where a name is declared: in the current file if that declares it, and otherwise
once in every other document that does. -/
def definitions (workspace : Workspace) (current : Path) (text name : Text) :
    List Location :=
  match declaration? current text name with
  | some location => [location]
  | none =>
      (workspace.otherDocuments current).filterMap fun (file, other) =>
        declaration? file other name

/-- Add the usages of a name in a document to the locations found so far.  The
declaration comes after them when it is asked for and not listed yet. -/
def addUsages (name : Text) (withDeclaration : Bool) (found : List Location)
    (document : Path × Text) : List Location :=
  let found := found ++ MakefileNav.usages document.1 document.2 name
  match if withDeclaration then declaration? document.1 document.2 name else none with
  | none => found
  | some location =>
      if found.any (·.sameStart location) then found else found ++ [location]

/-- Where a name is used: in the current file first, then in the other documents. -/
def usages (workspace : Workspace) (current : Path) (text name : Text)
    (withDeclaration : Bool) : List Location :=
  (workspace.otherDocuments current).foldl (addUsages name withDeclaration)
    (usagesWithDeclaration current text name withDeclaration)

end Workspace

end MakefileNav
