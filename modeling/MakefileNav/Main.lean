/-
Module: MakefileNav.Main
Purpose: The program on a real file system.
Main exports:
  main
-/
import MakefileNav.CommandLine.Session
import MakefileNav.Watch

namespace MakefileNav

/-!
The working directory is read into a `Disk` once, the run itself is a function of
that disk, and its result is printed.  Only Makefiles, settings and the files that
the command line names are read in full; of all other files the run needs no more
than that they exist.
-/

namespace Shell

/-- Whether the contents of a file matter to a run that does not name it. -/
def isOfInterest (name : Text) : Bool :=
  Workspace.isMakefile ⟨name⟩ || name = Settings.fileName

/-- Read a directory and everything below it.  What cannot be read is left out. -/
partial def loadDirectory (directory : String) : IO Node := do
  let mut entries := []
  for entry in ← (← IO.FS.realPath directory).readDir do
    let name := entry.fileName.toList
    let path := directory ++ "/" ++ entry.fileName
    try
      match (← entry.path.symlinkMetadata).type with
      | .dir => entries := (name, ← loadDirectory path) :: entries
      | .file =>
          let bytes ← if isOfInterest name then IO.FS.readBinFile path else pure ByteArray.empty
          entries := (name, Node.file bytes) :: entries
      | .symlink =>
          entries := (name, Node.link (← IO.FS.realPath path).toString.toList) :: entries
      | .other => pure ()
    catch _ => pure ()
  return .directory entries

/-- The disk as it is seen from the working directory. -/
def loadDisk (arguments : List String) : IO Disk := do
  let here := (← IO.FS.realPath ".").toString
  let place := Disk.steps here.toList
  let mut disk : Disk :=
    { root := Node.empty.put place (← loadDirectory here), workingDirectory := place }
  for argument in arguments do
    try
      disk := disk.write ⟨argument.toList⟩ (.file (← IO.FS.readBinFile argument))
    catch _ => pure ()
  return disk

/-- Print what a run leaves behind. -/
def report (session : Session) : IO Unit := do
  (← IO.getStderr).putStr (String.ofList session.errors)
  (← IO.getStdout).putStr (String.ofList session.output)
  (← IO.getStdout).flush

/-- What a watch compares: the files whose change calls for a new check. -/
def fingerprint (disk : Disk) (excludeDirs : List Text) : List (List Text × Option ByteArray) :=
  match disk.root.at? disk.workingDirectory with
  | none => []
  | some node =>
      ((node.filesBelow excludeDirs.contains).filter fun names =>
          isRelevantChange ⟨[]⟩ excludeDirs (names.foldl Path.child ⟨[]⟩)).map fun names =>
        (names, match node.at? names with
          | some (.file bytes) => some bytes
          | _ => none)

/-- Look at the disk again and again, and repeat the check after a change. -/
partial def watchFrom (invocation : Invocation) (excludeDirs : List Text)
    (seen : List (List Text × Option ByteArray)) : IO Unit := do
  IO.sleep 500
  let disk ← loadDisk []
  let now := fingerprint disk excludeDirs
  if now == seen then
    watchFrom invocation excludeDirs seen
  else
    IO.eprintln "watch: change detected, re-checking..."
    report (Session.ofResult invocation.verbosity
      (Command.checkAgain disk Session.root invocation.format).start)
    watchFrom invocation excludeDirs now

/-- Start to watch the working directory. -/
def watch (invocation : Invocation) (disk : Disk) : IO Unit := do
  match (Command.loadSettings disk Session.root).start.1 with
  | .error _ => pure ()
  | .ok settings =>
      let here := (← IO.FS.realPath ".").toString
      IO.eprintln ("watch: monitoring " ++ here ++ ", press Ctrl+C to stop")
      watchFrom invocation settings.excludeDirs (fingerprint disk settings.excludeDirs)

end Shell

end MakefileNav

open MakefileNav in
/-- Run the program with the arguments of the command line. -/
def main (arguments : List String) : IO UInt32 := do
  let disk ← Shell.loadDisk arguments
  let session := Session.run disk (arguments.map String.toList)
  Shell.report session
  match Invocation.parse (arguments.map String.toList) with
  | .ok invocation =>
      if invocation.command = .watch ∧ session.exitCode ≠ Command.failureCode then
        Shell.watch invocation disk
  | .error _ => pure ()
  return session.exitCode.toUInt32
