/-
Module: MakefileNav.Proofs.Discovery
Purpose: Which Makefiles a workspace has, in which order, and which of them are documents
  besides the current one.
Main exports:
  Workspace.SearchesFrom, Workspace.FoundAt, Workspace.mem_discover_iff,
  Workspace.discover_pairwise, Workspace.mem_documents_iff,
  Workspace.mem_otherDocuments_iff, Workspace.otherDocuments_pairwise,
  Workspace.same_current_eq_false
-/
import MakefileNav.Proofs.PathFollowing
import MakefileNav.Workspace

namespace MakefileNav

namespace Workspace

/-!
The Makefiles of a workspace are regular files below the place where the search starts.
They come in the order of their paths, and no two of them have the same path: names of a
directory are distinct, and the path of a file ends in the names that lead to it.  So the
list is known once its members are known.
-/

variable {workspace : Workspace}

/-! ### Where the search starts -/

/-- The search starts at a place: the root leads to a directory there, or is itself a
regular file. -/
def SearchesFrom (workspace : Workspace) (base : List Text) : Prop :=
  (workspace.disk.resolve .followLink workspace.root = .ok base ∧
      workspace.disk.root.outline? base = some .directory) ∨
    (workspace.disk.resolve .keepLink workspace.root = .ok base ∧
      ∃ bytes, workspace.disk.root.outline? base = some (.file bytes))

/-- In both cases the root leads to the place. -/
theorem SearchesFrom.resolve {base : List Text} (searched : workspace.SearchesFrom base) :
    workspace.disk.resolve .followLink workspace.root = .ok base := by
  rcases searched with ⟨resolved, _⟩ | ⟨resolved, bytes, isFile⟩
  · exact resolved
  · apply Disk.resolve_followLink_of_keepLink resolved
    intro target isLink
    rw [isFile] at isLink
    cases isLink

theorem tree?_eq_some_iff {node : Node} :
    workspace.tree? = some node ↔
      ∃ base, workspace.SearchesFrom base ∧ workspace.disk.root.at? base = some node := by
  constructor
  · intro searched
    unfold tree? at searched
    split at searched
    · cases searched
    · split at searched
      · rename_i entries followed
        cases searched
        obtain ⟨base, resolved, found⟩ := Disk.status_eq_ok_iff.mp followed
        exact ⟨base, Or.inl ⟨resolved, Node.outline?_eq_directory_iff.mpr ⟨entries, found⟩⟩, found⟩
      · cases searched
    · rename_i top notLink kept
      cases searched
      obtain ⟨base, resolved, found⟩ := Disk.status_eq_ok_iff.mp kept
      refine ⟨base, ?_, found⟩
      cases node with
      | link target => exact absurd rfl (notLink target)
      | file bytes => exact Or.inr ⟨resolved, bytes, Node.outline?_eq_file_iff.mpr found⟩
      | directory entries =>
          have isDirectory := Node.outline?_eq_directory_iff.mpr ⟨entries, found⟩
          refine Or.inl ⟨Disk.resolve_followLink_of_keepLink resolved ?_, isDirectory⟩
          intro target isLink
          rw [isDirectory] at isLink
          cases isLink
  · rintro ⟨base, ⟨resolved, isDirectory⟩ | ⟨resolved, bytes, isFile⟩, found⟩
    · obtain ⟨entries, found'⟩ := Node.outline?_eq_directory_iff.mp isDirectory
      obtain rfl : node = .directory entries := by
        rw [found] at found'
        exact Option.some.inj found'
      have followed := Disk.status_eq_ok_iff.mpr ⟨base, resolved, found⟩
      obtain ⟨base', kept, rfl | ⟨target, isLink⟩⟩ := Disk.exists_resolve_keepLink resolved
      · have status := Disk.status_eq_ok_iff.mpr ⟨base', kept, found⟩
        simp [tree?, status]
      · obtain ⟨link, foundLink, linkOutline⟩ := Option.map_eq_some_iff.mp isLink
        have status := Disk.status_eq_ok_iff.mpr ⟨base', kept, foundLink⟩
        cases link with
        | link target' => simp [tree?, status, followed]
        | file bytes => cases linkOutline
        | directory entries => cases linkOutline
    · have found' := Node.outline?_eq_file_iff.mp isFile
      obtain rfl : node = .file bytes := by
        rw [found] at found'
        exact Option.some.inj found'
      have status := Disk.status_eq_ok_iff.mpr ⟨base, resolved, found⟩
      simp [tree?, status]

/-! ### Files -/

/-- Names lead from the place where the search starts to a regular file, whose path is the
root with these names.  The search enters the directories on the way. -/
structure FoundAt (workspace : Workspace) (file : Path) (base names : List Text)
    (bytes : ByteArray) : Prop where
  searched : workspace.SearchesFrom base
  isFile : workspace.disk.root.outline? (base ++ names) = some (.file bytes)
  entered : ∀ name ∈ names.dropLast, workspace.settings.excludeDirs.contains name = false
  opened : workspace.opensDirectoryOf names = true
  named : file = workspace.pathOf names

theorem mem_files_iff (wellFormed : workspace.disk.root.WellFormed) {file : Path} :
    file ∈ workspace.files ↔ ∃ base names bytes, workspace.FoundAt file base names bytes := by
  unfold files
  constructor
  · intro member
    split at member
    · cases member
    · rename_i node tree
      obtain ⟨base, searched, found⟩ := tree?_eq_some_iff.mp tree
      obtain ⟨names, kept, rfl⟩ := List.mem_map.mp member
      obtain ⟨walked, opened⟩ := List.mem_filter.mp kept
      obtain ⟨⟨bytes, isFile⟩, entered⟩ :=
        (Node.mem_filesBelow_iff (wellFormed.at? found) _ names).mp walked
      rw [← Node.outline?_append found] at isFile
      exact ⟨base, names, bytes, searched, isFile, entered, opened, rfl⟩
  · rintro ⟨base, names, bytes, searched, isFile, entered, opened, rfl⟩
    obtain ⟨node, found⟩ : ∃ node, workspace.disk.root.at? base = some node := by
      rcases searched with ⟨_, shown⟩ | ⟨_, _, shown⟩
      all_goals
        obtain ⟨node, found, _⟩ := Option.map_eq_some_iff.mp shown
        exact ⟨node, found⟩
    rw [tree?_eq_some_iff.mpr ⟨base, searched, found⟩]
    rw [Node.outline?_append found] at isFile
    have walked := (Node.mem_filesBelow_iff (wellFormed.at? found) _ names).mpr
      ⟨⟨bytes, isFile⟩, entered⟩
    exact List.mem_map_of_mem (List.mem_filter.mpr ⟨walked, opened⟩)

/-- The names on the way to a file are proper names. -/
theorem FoundAt.isEntryName {file : Path} {base names : List Text} {bytes : ByteArray}
    (wellFormed : workspace.disk.root.WellFormed)
    (found : workspace.FoundAt file base names bytes) :
    ∀ name ∈ names, Node.IsEntryName name := by
  intro name member
  exact wellFormed.isEntryName found.isFile name (List.mem_append_right base member)

/-- A file that can be reached by its path is reached where it was found. -/
theorem FoundAt.place_eq {file : Path} {base names place : List Text} {bytes : ByteArray}
    (wellFormed : workspace.disk.root.WellFormed)
    (found : workspace.FoundAt file base names bytes)
    (located : workspace.disk.locate .followLink file = .ok place) : place = base ++ names := by
  have rootLocated := ((Disk.resolve_eq_ok_iff (by decide)).mp found.searched.resolve).2
  rw [found.named] at located
  exact Disk.locate_names (found.isEntryName wellFormed) rootLocated found.isFile (by simp) located

/-- No two files of a workspace have the same path. -/
theorem files_pairwise (wellFormed : workspace.disk.root.WellFormed) :
    workspace.files.Pairwise fun left right => left.same right = false := by
  unfold files
  split
  · exact List.Pairwise.nil
  · rename_i node tree
    obtain ⟨base, _, found⟩ := tree?_eq_some_iff.mp tree
    have wellFormedBelow := wellFormed.at? found
    have distinct := (Node.nodup_filesBelow wellFormedBelow
      workspace.settings.excludeDirs.contains).filter workspace.opensDirectoryOf
    refine List.pairwise_map.mpr (distinct.imp_of_mem ?_)
    intro names names' member member' different
    have areNames : ∀ names'' ∈ (node.filesBelow workspace.settings.excludeDirs.contains).filter
        workspace.opensDirectoryOf, ∀ name ∈ names'', Node.IsEntryName name := by
      intro names'' member''
      obtain ⟨⟨bytes, isFile⟩, _⟩ :=
        (Node.mem_filesBelow_iff wellFormedBelow _ names'').mp (List.mem_filter.mp member'').1
      exact wellFormedBelow.isEntryName isFile
    apply Bool.eq_false_iff.mpr
    intro same
    have components := Path.same_iff.mp same
    simp only [pathOf] at components
    rw [Path.components_foldl_child _ (areNames names member),
      Path.components_foldl_child _ (areNames names' member'), List.append_cancel_left_eq] at components
    exact different (List.map_injective_iff.mpr (fun _ _ => Path.Component.name.inj) components)

/-! ### Makefiles -/

/-- The Makefiles of a workspace are the files that are found and selected. -/
theorem mem_discover_iff (wellFormed : workspace.disk.root.WellFormed) {file : Path} :
    file ∈ workspace.discover ↔
      workspace.selects file = true ∧
        ∃ base names bytes, workspace.FoundAt file base names bytes := by
  rw [discover, List.mem_mergeSort, List.mem_filter, mem_files_iff wellFormed, and_comm]

/-- The Makefiles of a workspace come in the order of their paths, each of them once. -/
theorem discover_pairwise (wellFormed : workspace.disk.root.WellFormed) :
    workspace.discover.Pairwise fun earlier later => Path.order earlier later = .lt := by
  have sorted : workspace.discover.Pairwise fun earlier later => earlier.notAfter later = true := by
    unfold discover
    apply List.pairwise_mergeSort
    · intro first second third le le'
      exact Path.notAfter_trans le le'
    · exact Path.notAfter_total
  have distinct : workspace.discover.Pairwise fun left right => left.same right = false := by
    refine (List.Perm.pairwise_iff ?_ (List.mergeSort_perm _ _)).mpr
      ((files_pairwise wellFormed).filter _)
    intro left right different
    rw [Path.same_comm, different]
  exact (sorted.and distinct).imp fun both => Path.order_eq_lt_of_notAfter both.1 both.2

/-- Files that are found in the order of their paths are listed as they are found. -/
theorem discover_eq_of_files {listed : List Path}
    (found : workspace.files.filter workspace.selects = listed)
    (sorted : listed.Pairwise fun earlier later => earlier.notAfter later = true) :
    workspace.discover = listed := by
  rw [discover, found]
  exact List.mergeSort_of_pairwise sorted

/-! ### Documents -/

theorem mem_documents_iff {file : Path} {text : Text} :
    (file, text) ∈ workspace.documents ↔
      file ∈ workspace.discover ∧ workspace.disk.read file = .ok text := by
  simp only [documents, readings, List.filterMap_map, List.mem_filterMap, Function.comp_apply]
  constructor
  · rintro ⟨other, listed, kept⟩
    cases reading : workspace.disk.read other with
    | error fault => simp [reading] at kept
    | ok text' =>
        simp only [reading, Option.some.injEq, Prod.mk.injEq] at kept
        obtain ⟨rfl, rfl⟩ := kept
        exact ⟨listed, reading⟩
  · rintro ⟨listed, reading⟩
    exact ⟨file, listed, by simp [reading]⟩

/-- Documents come in the order of their paths, each of them once. -/
theorem documents_pairwise (wellFormed : workspace.disk.root.WellFormed) :
    workspace.documents.Pairwise fun earlier later => Path.order earlier.1 later.1 = .lt := by
  simp only [documents, readings, List.filterMap_map]
  refine (discover_pairwise wellFormed).filterMap _ ?_
  intro file file' before document kept document' kept'
  cases reading : workspace.disk.read file with
  | error fault => simp [reading] at kept
  | ok text =>
      cases reading' : workspace.disk.read file' with
      | error fault => simp [reading'] at kept'
      | ok text' =>
          simp only [Function.comp_apply, reading, reading', Option.some.injEq] at kept kept'
          rw [← kept, ← kept']
          exact before

theorem mem_otherDocuments_iff {current file : Path} {text : Text} :
    (file, text) ∈ workspace.otherDocuments current ↔
      file ∈ workspace.discover ∧ workspace.disk.read file = .ok text ∧
        workspace.isCurrent current file = false := by
  rw [otherDocuments, List.mem_filter, mem_documents_iff, Bool.not_eq_true', and_assoc]

theorem otherDocuments_pairwise (wellFormed : workspace.disk.root.WellFormed) (current : Path) :
    (workspace.otherDocuments current).Pairwise
      fun earlier later => Path.order earlier.1 later.1 = .lt :=
  (documents_pairwise wellFormed).filter _

/-! ### The current file -/

/-- Whatever the current file is known by, a file that can be read and is another one has
another path. -/
theorem same_current_eq_false {current file : Path} {text : Text}
    (reading : workspace.disk.read file = .ok text)
    (other : workspace.isCurrent current file = false) : file.same current = false := by
  unfold isCurrent at other
  split at other
  · exact other
  · rename_i place currentPlace
    obtain ⟨place', _, located, _⟩ := Disk.exists_canonical?_of_read reading
    apply Bool.eq_false_iff.mpr
    intro same
    obtain rfl := Disk.locate_eq_of_same same (Disk.canonical?_eq_some_iff.mp located)
      (Disk.canonical?_eq_some_iff.mp currentPlace)
    simp [located] at other

end Workspace

end MakefileNav
