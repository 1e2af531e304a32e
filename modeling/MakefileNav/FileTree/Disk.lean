/-
Module: MakefileNav.FileTree.Disk
Purpose: A tree of files and the directory that paths start from.
Main exports:
  Disk, Disk.Fault, Disk.Ending, Disk.locate, Disk.resolve, Disk.canonical?,
  Disk.status, Disk.read, Disk.write, Disk.erase
-/
import MakefileNav.FileTree.Node
import MakefileNav.Path

namespace MakefileNav

/-- All files there are, and the directory in which relative paths start. -/
structure Disk where
  root : Node
  workingDirectory : List Text
deriving Inhabited

namespace Disk

/-- Why a path could not be followed, or a file not be read as text. -/
inductive Fault where
  | notFound
  | notDirectory
  | isDirectory
  | nameTooLong
  | tooManyLinks
  | nulInName
  | notText
deriving Repr, DecidableEq

/-- The fault in words. -/
def Fault.message : Fault → Text
  | .notFound => "No such file or directory (os error 2)"
  | .notDirectory => "Not a directory (os error 20)"
  | .isDirectory => "Is a directory (os error 21)"
  | .nameTooLong => "File name too long (os error 36)"
  | .tooManyLinks => "Too many levels of symbolic links (os error 40)"
  | .nulInName => "file name contained an unexpected NUL byte"
  | .notText => "stream did not contain valid UTF-8"

/-! ### Following paths -/

/-- The steps that a path consists of.  A slash at the end asks for a directory,
just as a dot there does. -/
def steps (path : Text) : List Text :=
  let pieces := path.splitOn '/'
  let names := pieces.filter (· ≠ [])
  if pieces.getLast? = some [] then names ++ [['.']] else names

/-- Where a path starts: at the root when it begins with a slash, in the given
directory otherwise. -/
def startOf (directory : List Text) (path : Text) : List Text :=
  if path.head? = some '/' then [] else directory

/-- Greatest number of bytes of a name. -/
def nameLimit : Nat := 255

/-- Number of bytes from which on a path is too long. -/
def pathLimit : Nat := 4096

/-- What to do at the end of a path. -/
inductive Ending where
  /-- Stop at a link. -/
  | keepLink
  /-- Follow a link. -/
  | followLink
  /-- Follow a link, and allow for names that are still to be made. -/
  | make
deriving Repr, DecidableEq

/-- Take steps through a tree, from a place in it.  Links are handed to `follow` with
the place they stand in and the steps to take from there.  The answer is the place
that is reached, by the names that lead there from the root. -/
def takeSteps (root : Node) (ending : Ending)
    (follow : List Text → List Text → Except Fault (List Text)) :
    List Text → List Text → Except Fault (List Text)
  | here, [] => .ok here
  | here, step :: rest =>
      match root.at? here with
      | some (.directory entries) =>
          if step = ['.'] then takeSteps root ending follow here rest
          else if step = ['.', '.'] then takeSteps root ending follow here.dropLast rest
          else if nameLimit < step.byteLength then .error .nameTooLong
          else
            match entries.lookup step with
            | none =>
                if ending = .make then .ok (here ++ (step :: rest).filter (· ≠ ['.']))
                else .error .notFound
            | some (.link target) =>
                if rest = [] ∧ ending = .keepLink then .ok (here ++ [step])
                else if target = [] then .error .notFound
                else follow (startOf here target) (steps target ++ rest)
            | some _ => takeSteps root ending follow (here ++ [step]) rest
      | _ => .error .notDirectory

/-- Take steps through a tree, following at most `links` links. -/
def walk (root : Node) (ending : Ending) : Nat → List Text → List Text →
    Except Fault (List Text)
  | 0 => takeSteps root ending fun _ _ => .error .tooManyLinks
  | links + 1 => takeSteps root ending (walk root ending links)

/-- Greatest number of links on the way to a file. -/
def linkLimit : Nat := 40

/-- The place that a path stands for, taken step by step, so that the path may have
any length. -/
def locate (disk : Disk) (ending : Ending) (path : Path) : Except Fault (List Text) :=
  if path.text = [] then .error .notFound
  else if path.text.contains (Char.ofNat 0) then .error .nulInName
  else
    walk disk.root ending linkLimit (startOf disk.workingDirectory path.text)
      (steps path.text)

/-- Whether a path is short enough to be used as a whole. -/
def admits (path : Path) : Bool :=
  path.text.byteLength < pathLimit

/-- The place that a path stands for when it is used as a whole. -/
def resolve (disk : Disk) (ending : Ending) (path : Path) : Except Fault (List Text) :=
  if admits path || path.text.contains (Char.ofNat 0) then disk.locate ending path
  else .error .nameTooLong

/-- The place that a path stands for after all links, if there is one.  Two paths
lead to one file exactly when they agree in it. -/
def canonical? (disk : Disk) (path : Path) : Option (List Text) :=
  match disk.locate .followLink path with
  | .ok place => some place
  | .error _ => none

/-- What a path stands for. -/
def status (disk : Disk) (ending : Ending) (path : Path) : Except Fault Node :=
  match disk.resolve ending path with
  | .error fault => .error fault
  | .ok place =>
      match disk.root.at? place with
      | none => .error .notFound
      | some node => .ok node

/-! ### Reading and writing -/

/-- The text that bytes encode in UTF-8. -/
def decode? (bytes : ByteArray) : Option Text :=
  (String.fromUTF8? bytes).map String.toList

/-- Read a file as text. -/
def read (disk : Disk) (path : Path) : Except Fault Text :=
  match disk.status .followLink path with
  | .error fault => .error fault
  | .ok (.file bytes) =>
      match decode? bytes with
      | none => .error .notText
      | some text => .ok text
  | .ok (.directory _) => .error .isDirectory
  | .ok (.link _) => .error .notFound

/-- Put a node at a path, unless the path leads through something that is not a
directory.  Directories on the way are made, links are followed, and a file there is
overwritten. -/
def write (disk : Disk) (path : Path) (node : Node) : Disk :=
  match disk.locate .make path with
  | .ok place => { disk with root := disk.root.put place node }
  | .error _ => disk

/-- Remove what a path stands for, with everything in it. -/
def erase (disk : Disk) (path : Path) : Disk :=
  match disk.locate .keepLink path with
  | .ok place => { disk with root := disk.root.remove place }
  | .error _ => disk

end Disk

end MakefileNav
