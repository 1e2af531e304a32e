/-
Module: MakefileNav.Watch
Purpose: Which changes in a directory tree call for a new check.
Main exports:
  isRelevantChange
-/
import MakefileNav.Workspace

namespace MakefileNav

/-- Whether a change of the file at a path calls for a new check.  A Makefile or the
settings file does, unless a step of the path below the root has an excluded
name. -/
def isRelevantChange (root : Path) (excludeDirs : List Text) (path : Path) : Bool :=
  let below := (root.componentsBelow? path).getD path.components
  !below.any (fun component => excludeDirs.contains component.text) &&
    (Workspace.isMakefile path || path.fileName? == some Settings.fileName)

end MakefileNav
