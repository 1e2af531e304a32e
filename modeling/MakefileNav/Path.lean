/-
Module: MakefileNav.Path
Purpose: Path texts, read component by component.
Main exports:
  Path, Path.Component, Path.components, Path.same, Path.order,
  Path.relativeTo?, Path.child, Path.fileName?, Path.extension?
-/
import MakefileNav.Text.Basic

namespace MakefileNav

/-- A path as it was written.  Two spellings of one path are different values;
`Path.same` compares them as paths. -/
structure Path where
  text : Text
deriving Repr, DecidableEq, Inhabited

namespace Path

/-- What one step of a path says. -/
inductive Component where
  /-- The slash at the start of an absolute path. -/
  | root
  /-- A dot at the start of a relative path. -/
  | current
  /-- Two dots. -/
  | parent
  /-- The name of a file or directory. -/
  | name (entry : Text)
deriving Repr, DecidableEq

namespace Component

/-- The component as it is written in a path. -/
def text : Component → Text
  | .root => ['/']
  | .current => ['.']
  | .parent => ['.', '.']
  | .name entry => entry

/-- Sort key: the root, the dot, the two dots and then the names, these by their
code points. -/
def key : Component → List Nat
  | .root => [0]
  | .current => [1]
  | .parent => [2]
  | .name entry => 3 :: entry.map Char.toNat

end Component

/-! ### Components -/

/-- Component of a segment that has a slash before it.  Empty segments and dots
are none. -/
def component? (segment : Text) : Option Component :=
  if segment = [] ∨ segment = ['.'] then none
  else if segment = ['.', '.'] then some .parent
  else some (.name segment)

/-- The segments between the slashes of a path, each with its component.  At the
start of a path an empty segment followed by a slash is the root, and a dot
counts. -/
def segments (path : Path) : List (Text × Option Component) :=
  match path.text.splitOn '/' with
  | [] => []
  | first :: rest =>
      let head :=
        if first = [] then (if rest = [] then none else some .root)
        else if first = ['.'] then some .current
        else component? first
      (first, head) :: rest.map (fun segment => (segment, component? segment))

/-- The components of a path.  Repeated and trailing slashes, and dots after the
start, leave no trace. -/
def components (path : Path) : List Component :=
  path.segments.filterMap Prod.snd

/-- Whether two paths have the same components. -/
def same (left right : Path) : Bool :=
  left.components == right.components

/-- Order of paths: the first component that differs decides. -/
def order (left right : Path) : Ordering :=
  compare (left.components.map Component.key) (right.components.map Component.key)

/-- Whether a path does not come after another. -/
def notAfter (left right : Path) : Bool :=
  (order left right).isLE

/-! ### Taking paths apart and putting them together -/

/-- The components of a path below a directory, if it lies there. -/
def componentsBelow? (directory path : Path) : Option (List Component) :=
  directory.components.isPrefixOf? path.components

/-- Drop segments until `count` components are gone. -/
def dropComponents : Nat → List (Text × Option Component) → List (Text × Option Component)
  | 0, rest => rest
  | _ + 1, [] => []
  | count + 1, (_, none) :: rest => dropComponents (count + 1) rest
  | count + 1, (_, some _) :: rest => dropComponents count rest

/-- Segments put together with slashes between them. -/
def joinSegments (segments : List (Text × Option Component)) : Text :=
  match segments with
  | [(_, some .root)] => ['/']
  | _ => List.intercalate ['/'] (segments.map Prod.fst)

/-- The text of a path below a directory, if it lies there: what follows the
directory, without the separators and dots at either end. -/
def relativeTo? (directory path : Path) : Option Path :=
  match directory.componentsBelow? path with
  | none => none
  | some _ =>
      let count := directory.components.length
      let rest := dropComponents count path.segments
      let body := if count = 0 then rest else rest.dropWhile (·.2.isNone)
      some ⟨joinSegments (body.reverse.dropWhile (·.2.isNone)).reverse⟩

/-- The path as it is shown to somebody who stands in a directory: relative to it
when the path lies below it, as written otherwise. -/
def shownFrom (directory path : Path) : Path :=
  (directory.relativeTo? path).getD path

/-- Path of an entry of a directory. -/
def child (directory : Path) (name : Text) : Path :=
  if directory.text = [] ∨ directory.text.getLast? = some '/' then
    ⟨directory.text ++ name⟩
  else
    ⟨directory.text ++ '/' :: name⟩

/-- Last component of a path, when it is a name. -/
def fileName? (path : Path) : Option Text :=
  match path.components.getLast? with
  | some (.name name) => some name
  | _ => none

/-- What follows the last dot of the file name.  A name has no extension when it
has no dot or its only dot comes first. -/
def extension? (path : Path) : Option Text :=
  path.fileName?.bind fun name =>
    match name.reverse.dropWhile (· != '.') with
    | [] => none
    | [_] => none
    | _ => some (name.reverse.takeWhile (· != '.')).reverse

end Path

end MakefileNav
