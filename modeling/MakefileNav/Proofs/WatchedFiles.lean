/-
Module: MakefileNav.Proofs.WatchedFiles
Purpose: Which of the Makefiles of a workspace a watch waits for.
Main exports:
  Path.componentsBelow?_foldl_child, Path.fileName?_foldl_child, isRelevantChange_iff,
  discovered_watched_iff, discovered_file_not_watched
-/
import MakefileNav.Proofs.Discovery
import MakefileNav.Proofs.Slices
import MakefileNav.Watch

namespace MakefileNav

/-!
Excluded directories are left out in two ways.  The search for Makefiles does not enter a
directory with an excluded name, and a watch passes over a change if an excluded name stands
anywhere on the way from the root to what has changed.  The way ends with the name of the file
itself, which the search never compares with the names of directories.  So a Makefile that has
the name of an excluded directory is checked, and its changes are not noticed.
-/

namespace Path

variable {directory : Path} {names : List Text}

/-- Below the directory that a path starts from, it goes through its names. -/
theorem componentsBelow?_foldl_child (areNames : ∀ name ∈ names, Node.IsEntryName name) :
    directory.componentsBelow? (names.foldl child directory) = some (names.map .name) := by
  rw [componentsBelow?, List.isPrefixOf?_eq_some_iff_append_eq]
  exact (components_foldl_child directory areNames).symm

/-- The last name of a path is its file name. -/
theorem fileName?_foldl_child {last : Text}
    (areNames : ∀ name ∈ names ++ [last], Node.IsEntryName name) :
    fileName? ((names ++ [last]).foldl child directory) = some last := by
  have ending : (components ((names ++ [last]).foldl child directory)).getLast? =
      some (.name last) := by
    rw [components_foldl_child directory areNames, List.map_append, List.map_singleton,
      ← List.append_assoc, List.getLast?_concat]
  rw [fileName?, ending]

/-- A path with a name behind it is another path. -/
theorem foldl_child_ne {last : Text}
    (areNames : ∀ name ∈ names ++ [last], Node.IsEntryName name) :
    (names ++ [last]).foldl child directory ≠ directory := by
  intro same
  have longer := congrArg (List.length ∘ components) same
  simp only [Function.comp_apply, components_foldl_child directory areNames,
    List.length_append, List.length_map, List.length_singleton] at longer
  omega

end Path

/-- A change calls for a new check if what has changed is a Makefile or the settings file and
no name on the way to it is excluded, its own name included. -/
theorem isRelevantChange_iff {root : Path} {excludeDirs names : List Text}
    (areNames : ∀ name ∈ names, Node.IsEntryName name) :
    isRelevantChange root excludeDirs (names.foldl Path.child root) = true ↔
      (∀ name ∈ names, name ∉ excludeDirs) ∧
        (Workspace.isMakefile (names.foldl Path.child root) = true ∨
          (names.foldl Path.child root).fileName? = some Settings.fileName) := by
  simp only [isRelevantChange, Path.componentsBelow?_foldl_child areNames, Option.getD_some,
    Bool.and_eq_true, Bool.not_eq_true', List.any_eq_false, List.forall_mem_map,
    Path.Component.text, List.contains_eq_mem, decide_eq_true_eq, Bool.or_eq_true, beq_iff_eq]

/-- A watch waits for a Makefile of the workspace unless the file itself has an excluded name.
That the file is checked tells that no directory on the way to it has one.  If the root is a
file, the watch waits for it in any case. -/
theorem discovered_watched_iff (workspace : Workspace)
    (wellFormed : workspace.disk.root.WellFormed) {file : Path}
    (listed : file ∈ workspace.discover) :
    isRelevantChange workspace.root workspace.settings.excludeDirs file = true ↔
      file = workspace.root ∨
        ∀ name, file.fileName? = some name → name ∉ workspace.settings.excludeDirs := by
  obtain ⟨selected, base, names, bytes, found⟩ :=
    (Workspace.mem_discover_iff wellFormed).mp listed
  have areNames := found.isEntryName wellFormed
  have isMakefile : Workspace.isMakefile file = true := (Bool.and_eq_true_iff.mp selected).1
  obtain ⟨_, _, entered, _, rfl⟩ := found
  rw [Workspace.pathOf, isRelevantChange_iff areNames]
  rw [Workspace.pathOf] at isMakefile
  rcases List.eq_nil_or_concat names with rfl | ⟨directories, last, rfl⟩
  · exact iff_of_true ⟨by simp, Or.inl isMakefile⟩ (Or.inl rfl)
  · rw [List.concat_eq_append] at areNames isMakefile entered ⊢
    have outside : ∀ name ∈ directories, name ∉ workspace.settings.excludeDirs := by
      intro name member
      have passed := entered name (by rwa [List.dropLast_concat])
      rwa [List.contains_eq_mem, decide_eq_false_iff_not] at passed
    rw [Path.fileName?_foldl_child areNames, or_iff_right (Path.foldl_child_ne areNames),
      and_iff_left (Or.inl isMakefile), List.forall_mem_append, and_iff_right outside,
      List.forall_mem_singleton]
    simp only [Option.some.injEq, forall_eq']

/-- A Makefile below the root, beside one that has an excluded name. -/
theorem discovered_watched_iff_siblings :
    let file : Node := .file ⟨#[]⟩
    let tree : Node := .directory [(['b', '.', 'm', 'k'], file),
      (['s'], .directory [(['a', '.', 'm', 'k'], file)])]
    let workspace : Workspace :=
      { disk := ⟨tree, []⟩
        root := ⟨['.']⟩
        settings := { excludeDirs := [['x'], ['b', '.', 'm', 'k']] } }
    let inside : Path := ⟨['.', '/', 's', '/', 'a', '.', 'm', 'k']⟩
    let excluded : Path := ⟨['.', '/', 'b', '.', 'm', 'k']⟩
    tree.WellFormed ∧ workspace.discover = [excluded, inside] ∧
      isRelevantChange workspace.root workspace.settings.excludeDirs inside = true ∧
      ¬isRelevantChange workspace.root workspace.settings.excludeDirs excluded = true := by
  intro file tree workspace inside excluded
  have leaf : file.WellFormed := .file _
  have below : (Node.directory [(['a', '.', 'm', 'k'], file)]).WellFormed :=
    .directory (by decide) (by decide) (List.forall_mem_singleton.mpr leaf)
  have wellFormed : tree.WellFormed := by
    refine .directory (by decide) (by decide) ?_
    simp only [List.forall_mem_cons]
    exact ⟨leaf, below, by simp⟩
  have listed : workspace.discover = [excluded, inside] :=
    Workspace.discover_eq_of_files (by decide) (by decide)
  have insideListed : inside ∈ workspace.discover := by
    rw [listed]
    exact List.mem_cons_of_mem _ List.mem_cons_self
  have excludedListed : excluded ∈ workspace.discover := by
    rw [listed]
    exact List.mem_cons_self
  refine ⟨wellFormed, listed, ?_, ?_⟩
  · rw [discovered_watched_iff workspace wellFormed insideListed]
    have named : inside.fileName? = some ['a', '.', 'm', 'k'] := by decide
    simp only [named, Option.some.injEq, forall_eq']
    exact Or.inr (by decide)
  · rw [discovered_watched_iff workspace wellFormed excludedListed]
    rintro (isRoot | passed)
    · exact absurd isRoot (by decide)
    · exact passed ['b', '.', 'm', 'k'] (by decide) (by decide)

/-- With a setting that can be written down, the only Makefile of a workspace is checked and
not watched. -/
theorem discovered_file_not_watched :
    let makefile : Text := ['M', 'a', 'k', 'e', 'f', 'i', 'l', 'e']
    let settings : Settings := { excludeDirs := [makefile] }
    let workspace : Workspace :=
      { disk := ⟨.directory [(makefile, .file ⟨#[]⟩)], []⟩, root := ⟨['.']⟩, settings }
    let file : Path := ⟨['.', '/'] ++ makefile⟩
    Settings.parse? ("exclude_dirs = [\"Makefile\"]" : Text) = some settings ∧
      workspace.discover = [file] ∧
      isRelevantChange workspace.root settings.excludeDirs file = false := by
  intro makefile settings workspace file
  exact ⟨by decide +kernel, Workspace.discover_eq_of_files (by decide) (by decide), by decide⟩

end MakefileNav
