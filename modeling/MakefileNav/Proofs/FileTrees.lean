/-
Module: MakefileNav.Proofs.FileTrees
Purpose: What a tree of files shows at each of its places, and which of its files a walk finds.
Main exports:
  Node.Outline, Node.outline?, Node.IsEntryName, Node.WellFormed, Node.mem_filesBelow_iff,
  Node.nodup_filesBelow
-/
import MakefileNav.FileTree.Disk
import Mathlib.Data.List.Nodup

namespace MakefileNav

namespace Node

/-!
A tree is looked at place by place.  What it shows at one place is the contents of a file,
the target of a link, or that there is a directory; the entries of the directory are shown
at the places below.  Two trees that show the same everywhere hold the same files, in
whatever order their directories are listed.

A tree can be looked at in this way only if each name leads to one entry, so that nothing
hides behind an entry of the same name.
-/

/-! ### Places -/

/-- What a node is, without what is below it. -/
inductive Outline where
  | file (bytes : ByteArray)
  | directory
  | link (target : Text)

/-- The node without what is below it. -/
def outline : Node → Outline
  | .file bytes => .file bytes
  | .directory _ => .directory
  | .link target => .link target

/-- What a tree shows at a place. -/
def outline? (root : Node) (place : List Text) : Option Outline :=
  (root.at? place).map outline

@[simp] theorem outline?_nil (node : Node) : node.outline? [] = some node.outline := rfl

theorem at?_append (node : Node) (place below : List Text) :
    node.at? (place ++ below) = (node.at? place).bind (·.at? below) := by
  induction place generalizing node with
  | nil => rfl
  | cons name names ih =>
      simp only [List.cons_append, at?]
      cases node.entry? name with
      | none => rfl
      | some child => exact ih child

/-- Below a place a tree shows what the node there shows. -/
theorem outline?_append {root node : Node} {place : List Text} (found : root.at? place = some node)
    (below : List Text) : root.outline? (place ++ below) = node.outline? below := by
  simp only [outline?, at?_append, found, Option.bind_some]

theorem outline?_eq_directory_iff {root : Node} {place : List Text} :
    root.outline? place = some .directory ↔
      ∃ entries, root.at? place = some (.directory entries) := by
  constructor
  · intro shown
    obtain ⟨node, found, isDirectory⟩ := Option.map_eq_some_iff.mp shown
    cases node with
    | directory entries => exact ⟨entries, found⟩
    | file bytes => cases isDirectory
    | link target => cases isDirectory
  · rintro ⟨entries, found⟩
    simp [outline?, found, outline]

theorem outline?_eq_file_iff {root : Node} {place : List Text} {bytes : ByteArray} :
    root.outline? place = some (.file bytes) ↔ root.at? place = some (.file bytes) := by
  constructor
  · intro shown
    obtain ⟨node, found, isFile⟩ := Option.map_eq_some_iff.mp shown
    cases node with
    | file other => cases isFile; exact found
    | directory entries => cases isFile
    | link target => cases isFile
  · intro found
    simp [outline?, found, outline]

/-- Below a directory the first name chooses the entry. -/
theorem outline?_directory_cons (entries : List (Text × Node)) (name : Text)
    (names : List Text) :
    (Node.directory entries).outline? (name :: names) =
      (entries.lookup name).bind (·.outline? names) := by
  simp only [outline?, at?, entry?, Node.entries]
  cases entries.lookup name <;> rfl

/-- Only a directory has something below it. -/
theorem outline?_cons {node : Node} {name : Text} {names : List Text} {shown : Outline}
    (found : node.outline? (name :: names) = some shown) :
    ∃ entries child, node = .directory entries ∧ entries.lookup name = some child ∧
      child.outline? names = some shown := by
  cases node with
  | file bytes => simp [outline?, at?, entry?, entries] at found
  | link target => simp [outline?, at?, entry?, entries] at found
  | directory entries =>
      rw [outline?_directory_cons] at found
      obtain ⟨child, entry, below⟩ := Option.bind_eq_some_iff.mp found
      exact ⟨entries, child, rfl, entry, below⟩

/-! ### Well-formed trees -/

/-- A name that something in a directory can have: short enough, without slashes and zero
characters, and none of the names that every directory has. -/
def IsEntryName (name : Text) : Prop :=
  name ≠ [] ∧ name ≠ ['.'] ∧ name ≠ ['.', '.'] ∧ '/' ∉ name ∧ Char.ofNat 0 ∉ name ∧
    name.byteLength ≤ Disk.nameLimit

instance (name : Text) : Decidable (IsEntryName name) := by
  unfold IsEntryName
  infer_instance

/-- A tree in which every entry has a proper name of its own. -/
inductive WellFormed : Node → Prop where
  | file (bytes : ByteArray) : WellFormed (.file bytes)
  | link (target : Text) : WellFormed (.link target)
  | directory {entries : List (Text × Node)} (distinct : (entries.map Prod.fst).Nodup)
      (named : ∀ entry ∈ entries, IsEntryName entry.1)
      (below : ∀ entry ∈ entries, WellFormed entry.2) : WellFormed (.directory entries)

theorem mem_of_lookup {entries : List (Text × Node)} {name : Text} {node : Node}
    (found : entries.lookup name = some node) : (name, node) ∈ entries := by
  obtain ⟨before, after, rfl, _⟩ := List.lookup_eq_some_iff.mp found
  exact List.mem_append_right before List.mem_cons_self

/-- With distinct names, every entry is found by its name. -/
theorem lookup_of_mem {entries : List (Text × Node)} {name : Text} {node : Node}
    (distinct : (entries.map Prod.fst).Nodup) (member : (name, node) ∈ entries) :
    entries.lookup name = some node := by
  obtain ⟨before, after, rfl⟩ := List.append_of_mem member
  refine List.lookup_eq_some_iff.mpr ⟨before, after, rfl, ?_⟩
  intro other earlier
  rw [List.map_append, List.nodup_append] at distinct
  have apart := distinct.2.2 other.1 (List.mem_map_of_mem earlier) name (by simp)
  exact bne_iff_ne.mpr apart.symm

/-- What stands at a place of a well-formed tree is well formed. -/
theorem WellFormed.at? {root node : Node} {place : List Text} (wellFormed : root.WellFormed)
    (found : root.at? place = some node) : node.WellFormed := by
  induction place generalizing root with
  | nil =>
      cases found
      exact wellFormed
  | cons name names ih =>
      obtain ⟨child, entry, below⟩ := Option.bind_eq_some_iff.mp found
      cases wellFormed with
      | file bytes => simp [ entry?, entries] at entry
      | link target => simp [ entry?, entries] at entry
      | directory _ _ wellFormedBelow =>
          exact ih (wellFormedBelow (name, child) (mem_of_lookup entry)) below

/-- The names on the way to a place of a well-formed tree are proper names. -/
theorem WellFormed.isEntryName {node : Node} {place : List Text} {shown : Outline}
    (wellFormed : node.WellFormed) (found : node.outline? place = some shown) :
    ∀ name ∈ place, IsEntryName name := by
  induction place generalizing node with
  | nil => simp
  | cons first names ih =>
      obtain ⟨entries, child, rfl, entry, below⟩ := outline?_cons found
      have member := mem_of_lookup entry
      cases wellFormed with
      | directory _ named wellFormedBelow =>
          intro name isName
          rcases List.mem_cons.mp isName with rfl | later
          · exact named (name, child) member
          · exact ih (wellFormedBelow (first, child) member) below name later

/-! ### Walks -/

theorem filesOfEntries_eq (excluded : Text → Bool) (entries : List (Text × Node)) :
    filesOfEntries excluded entries = entries.flatMap (filesOfEntry excluded) := by
  induction entries with
  | nil => rfl
  | cons entry rest ih => rw [filesOfEntries, ih, List.flatMap_cons]

theorem mem_filesOfEntry {excluded : Text → Bool} {name : Text} {node : Node}
    {names : List Text} :
    names ∈ filesOfEntry excluded (name, node) ↔
      (node.isDirectory → excluded name = false) ∧
        ∃ rest ∈ filesBelow excluded node, names = name :: rest := by
  rw [filesOfEntry]
  cases directory : node.isDirectory <;> cases skipped : excluded name <;>
    simp [eq_comm]

/-- The names before the last one, where the last one may be the first. -/
theorem forall_mem_dropLast_cons {property : Text → Prop} {name : Text} {rest : List Text} :
    (∀ other ∈ (name :: rest).dropLast, property other) ↔
      (rest ≠ [] → property name) ∧ ∀ other ∈ rest.dropLast, property other := by
  cases rest <;> simp

/-- On the way to a file there are directories, and only there. -/
theorem isDirectory_iff_of_file {node : Node} {names : List Text} {bytes : ByteArray}
    (found : node.outline? names = some (.file bytes)) : node.isDirectory ↔ names ≠ [] := by
  cases names with
  | nil =>
      cases node with
      | file _ => simp [isDirectory]
      | directory _ => cases found
      | link _ => cases found
  | cons name rest =>
      obtain ⟨entries, _, rfl, _⟩ := outline?_cons found
      simp [isDirectory]

/-- A walk finds exactly the regular files that are not below an excluded directory. -/
theorem mem_filesBelow_iff {node : Node} (wellFormed : node.WellFormed)
    (excluded : Text → Bool) (names : List Text) :
    names ∈ node.filesBelow excluded ↔
      (∃ bytes, node.outline? names = some (.file bytes)) ∧
        ∀ name ∈ names.dropLast, excluded name = false := by
  induction wellFormed generalizing names with
  | file bytes =>
      rw [filesBelow, List.mem_singleton]
      constructor
      · rintro rfl
        exact ⟨⟨bytes, rfl⟩, by simp⟩
      · rintro ⟨⟨other, found⟩, _⟩
        exact not_not.mp fun inside => nomatch (isDirectory_iff_of_file found).mpr inside
  | link target =>
      rw [filesBelow]
      constructor
      · intro member
        cases member
      · rintro ⟨⟨bytes, found⟩, _⟩
        cases names with
        | nil => cases found
        | cons name rest => cases (isDirectory_iff_of_file found).mpr (List.cons_ne_nil _ _)
  | @directory entries distinct named below ih =>
      rw [filesBelow, filesOfEntries_eq, List.mem_flatMap]
      constructor
      · rintro ⟨⟨name, child⟩, member, found⟩
        obtain ⟨entered, rest, foundBelow, rfl⟩ := mem_filesOfEntry.mp found
        obtain ⟨⟨bytes, isFile⟩, enteredBelow⟩ := (ih (name, child) member rest).mp foundBelow
        refine ⟨⟨bytes, ?_⟩, forall_mem_dropLast_cons.mpr ⟨?_, enteredBelow⟩⟩
        · rw [outline?_directory_cons, lookup_of_mem distinct member, Option.bind_some, isFile]
        · intro more
          exact entered ((isDirectory_iff_of_file isFile).mpr more)
      · rintro ⟨⟨bytes, isFile⟩, entered⟩
        cases names with
        | nil => cases isFile
        | cons name rest =>
            rw [outline?_directory_cons] at isFile
            obtain ⟨child, entry, found⟩ := Option.bind_eq_some_iff.mp isFile
            obtain ⟨here, enteredBelow⟩ := forall_mem_dropLast_cons.mp entered
            have member := mem_of_lookup entry
            refine ⟨(name, child), member, mem_filesOfEntry.mpr ⟨?_, rest, ?_, rfl⟩⟩
            · intro directory
              exact here ((isDirectory_iff_of_file found).mp directory)
            · exact (ih (name, child) member rest).mpr ⟨⟨bytes, found⟩, enteredBelow⟩

/-- A walk finds no file twice. -/
theorem nodup_filesBelow {node : Node} (wellFormed : node.WellFormed) (excluded : Text → Bool) :
    (node.filesBelow excluded).Nodup := by
  induction wellFormed with
  | file bytes => simp [filesBelow]
  | link target => simp [filesBelow]
  | @directory entries distinct named below ih =>
      rw [filesBelow, filesOfEntries_eq, List.nodup_flatMap]
      constructor
      · rintro ⟨name, child⟩ member
        rw [filesOfEntry]
        split
        · exact List.nodup_nil
        · exact (ih (name, child) member).map List.cons_injective
      · -- Files of two entries differ in their first names.
        refine (List.pairwise_map.mp distinct).imp ?_
        rintro ⟨name, child⟩ ⟨otherName, otherChild⟩ apart names found foundAgain
        obtain ⟨_, rest, _, rfl⟩ := mem_filesOfEntry.mp found
        obtain ⟨_, otherRest, _, same⟩ := mem_filesOfEntry.mp foundAgain
        exact apart (List.cons.inj same).1

end Node

end MakefileNav
