/-
Module: MakefileNav.FileTree.Node
Purpose: Files, directories and links as a tree.
Main exports:
  Node, Node.entry?, Node.at?, Node.put, Node.remove, Node.filesBelow
-/
import MakefileNav.Text.Basic

namespace MakefileNav

/-- Something that has a name in a directory. -/
inductive Node where
  /-- A regular file with its contents. -/
  | file (bytes : ByteArray)
  /-- A directory with its entries, each under a name of its own. -/
  | directory (entries : List (Text × Node))
  /-- A symbolic link with the path it stands for. -/
  | link (target : Text)
deriving Inhabited

namespace Node

/-- A directory without entries. -/
def empty : Node := .directory []

/-- Whether a node is a directory. -/
def isDirectory : Node → Bool
  | .directory _ => true
  | _ => false

/-- The entries of a directory.  Other nodes have none. -/
def entries : Node → List (Text × Node)
  | .directory entries => entries
  | _ => []

/-- The entry of a directory with a given name. -/
def entry? (node : Node) (name : Text) : Option Node :=
  node.entries.lookup name

/-- The node below a node, reached by one name after the other. -/
def at? : Node → List Text → Option Node
  | node, [] => some node
  | node, name :: names => (node.entry? name).bind (·.at? names)

/-! ### Changes -/

/-- Entries with one of them put in, in place of an entry of that name. -/
def putEntry (name : Text) (node : Node) (entries : List (Text × Node)) :
    List (Text × Node) :=
  entries.filter (·.1 ≠ name) ++ [(name, node)]

/-- Put a node below another.  Directories on the way are made when they are
missing, and take the place of anything else. -/
def put : Node → List Text → Node → Node
  | _, [], new => new
  | node, name :: names, new =>
      .directory (putEntry name (((node.entry? name).getD empty).put names new) node.entries)

/-- Remove a node below another, with everything in it. -/
def remove : Node → List Text → Node
  | node, [] => node
  | node, [name] => .directory (node.entries.filter (·.1 ≠ name))
  | node, name :: names =>
      match node.entry? name with
      | none => node
      | some child => .directory (putEntry name (child.remove names) node.entries)

/-! ### Walks -/

mutual

/-- The regular files in and below a node, each by the names that lead to it.
Directories with an excluded name are not entered, whatever the node itself is
called, and links are not followed. -/
def filesBelow (excluded : Text → Bool) : Node → List (List Text)
  | .file _ => [[]]
  | .directory entries => filesOfEntries excluded entries
  | .link _ => []

/-- The regular files in the entries of a directory. -/
def filesOfEntries (excluded : Text → Bool) : List (Text × Node) → List (List Text)
  | [] => []
  | entry :: rest => filesOfEntry excluded entry ++ filesOfEntries excluded rest

/-- The regular files in one entry of a directory. -/
def filesOfEntry (excluded : Text → Bool) : Text × Node → List (List Text)
  | (name, node) =>
      if node.isDirectory && excluded name then []
      else (filesBelow excluded node).map (name :: ·)

end

end Node

end MakefileNav
