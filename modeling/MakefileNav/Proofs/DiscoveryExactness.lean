/-
Module: MakefileNav.Proofs.DiscoveryExactness
Purpose: The search finds exactly the Makefiles of a tree, in whatever order the entries of its
  directories come.
Main exports:
  Node.Reorders, Node.Reorders.outline?_eq, Workspace.OpensDirectories,
  Workspace.discover_eq_of_reorders, Workspace.mem_discover_iff_of_opens,
  discovery_is_exact
-/
import MakefileNav.Proofs.DiskAgreement
import MakefileNav.Proofs.RelativePaths

namespace MakefileNav

/-!
A directory has its entries in no particular order, and a walk meets them in the order in which
they happen to be listed.  What the search gives does not depend on it: which files are found
is a matter of what the tree shows at each place, and they are put into the order of their paths
in the end.
-/

namespace Node

/-! ### Other orders of the entries -/

/-- The same tree with the entries of its directories in another order: each directory has
the same names, and what stands under a name is the same tree again. -/
inductive Reorders : Node → Node → Prop where
  | file (bytes : ByteArray) : Reorders (.file bytes) (.file bytes)
  | link (target : Text) : Reorders (.link target) (.link target)
  | directory {entries entries' : List (Text × Node)}
      (names : (entries.map Prod.fst).Perm (entries'.map Prod.fst))
      (below : ∀ name child child', (name, child) ∈ entries → (name, child') ∈ entries' →
        Reorders child child') : Reorders (.directory entries) (.directory entries')

namespace Reorders

variable {node node' : Node}

theorem wellFormed (reorders : node.Reorders node') (wellFormed : node.WellFormed) :
    node'.WellFormed := by
  induction reorders with
  | file bytes => exact wellFormed
  | link target => exact wellFormed
  | @directory entries entries' names below ih =>
      cases wellFormed with
      | directory distinct named wellFormedBelow =>
          have listed : ∀ entry ∈ entries', ∃ child, (entry.1, child) ∈ entries := by
            intro entry member
            have isName := names.mem_iff.mpr (List.mem_map_of_mem member)
            obtain ⟨⟨name, child⟩, member', same⟩ := List.mem_map.mp isName
            obtain rfl : name = entry.1 := same
            exact ⟨child, member'⟩
          refine .directory (names.nodup_iff.mp distinct) ?_ ?_
          · intro entry member
            obtain ⟨child, member'⟩ := listed entry member
            exact named (entry.1, child) member'
          · intro entry member
            obtain ⟨child, member'⟩ := listed entry member
            exact ih entry.1 child entry.2 member' member (wellFormedBelow _ member')

/-- A tree shows the same everywhere, whatever the order of its entries. -/
theorem outline?_eq (reorders : node.Reorders node') (place : List Text) :
    node.outline? place = node'.outline? place := by
  induction reorders generalizing place with
  | file bytes => rfl
  | link target => rfl
  | @directory entries entries' names below ih =>
      cases place with
      | nil => rfl
      | cons name rest =>
          have present : (entries.lookup name).isSome = (entries'.lookup name).isSome := by
            rw [Bool.eq_iff_iff, List.lookup_isSome_iff, List.lookup_isSome_iff]
            simp only [beq_iff_eq]
            simpa only [List.mem_map, eq_comm] using names.mem_iff (a := name)
          rw [outline?_directory_cons, outline?_directory_cons]
          cases found : entries.lookup name with
          | none =>
              rw [found, Option.isSome_none, eq_comm, Option.isSome_eq_false_iff,
                Option.isNone_iff_eq_none] at present
              rw [present]
          | some child =>
              rw [found, Option.isSome_some, eq_comm, Option.isSome_iff_exists] at present
              obtain ⟨child', found'⟩ := present
              rw [found']
              exact ih name child child' (mem_of_lookup found) (mem_of_lookup found') rest

/-- The order of a tree is one of its orders. -/
theorem refl (wellFormed : node.WellFormed) : node.Reorders node := by
  induction wellFormed with
  | file bytes => exact .file bytes
  | link target => exact .link target
  | @directory entries distinct named below ih =>
      refine .directory (List.Perm.refl _) ?_
      intro name child child' member member'
      have found := lookup_of_mem distinct member
      rw [lookup_of_mem distinct member', Option.some.injEq] at found
      subst found
      exact ih (name, child') member

/-- The entries of one directory can be put into any order. -/
theorem of_perm {entries entries' : List (Text × Node)}
    (wellFormed : (Node.directory entries).WellFormed) (perm : entries.Perm entries') :
    (Node.directory entries).Reorders (.directory entries') := by
  cases refl wellFormed with
  | directory _ below =>
      refine .directory (perm.map Prod.fst) ?_
      intro name child child' member member'
      exact below name child child' member (perm.mem_iff.mpr member')

end Reorders

/-- What stands below something stands in a directory. -/
theorem outline?_of_concat {root : Node} {place : List Text} {name : Text} {shown : Outline}
    (found : root.outline? (place ++ [name]) = some shown) :
    root.outline? place = some .directory := by
  obtain ⟨node, foundNode, _⟩ := Option.map_eq_some_iff.mp found
  rw [at?_append] at foundNode
  obtain ⟨parent, foundParent, _⟩ := Option.bind_eq_some_iff.mp foundNode
  rw [outline?_append foundParent] at found
  obtain ⟨entries, _, rfl, _⟩ := outline?_cons found
  exact outline?_eq_directory_iff.mpr ⟨entries, foundParent⟩

end Node

namespace Workspace

variable {workspace : Workspace}

/-! ### The order of the entries does not matter -/

/-- A workspace on the same disk with another tree. -/
def withTree (workspace : Workspace) (tree : Node) : Workspace :=
  { workspace with disk := { workspace.disk with root := tree } }

/-- Trees that show the same have the same Makefiles. -/
theorem mem_discover_of_outline {tree : Node} (wellFormed : workspace.disk.root.WellFormed)
    (wellFormed' : tree.WellFormed)
    (same : ∀ place, workspace.disk.root.outline? place = tree.outline? place) {file : Path}
    (member : file ∈ workspace.discover) : file ∈ (workspace.withTree tree).discover := by
  -- No name leads to this place, so that nothing can be said to stand there.
  have nothing : workspace.disk.root.outline? [[]] = none := by
    rw [Option.eq_none_iff_forall_ne_some]
    intro shown found
    exact (wellFormed.isEntryName found [] List.mem_cons_self).1 rfl
  have agree : workspace.disk.AgreesApartFrom [[]] (workspace.withTree tree).disk :=
    ⟨rfl, fun place _ => same place⟩
  obtain ⟨selected, base, names, bytes, found⟩ := (mem_discover_iff wellFormed).mp member
  have apart : base ++ names ≠ [[]] := by
    intro here
    have isFile := found.isFile
    rw [here, nothing] at isFile
    cases isFile
  exact (mem_discover_iff wellFormed').mpr ⟨selected, base, names, bytes,
    found.transfer agree (Disk.isFileOrNothing_of_none nothing) apart⟩

theorem discover_eq_of_reorders {tree : Node} (wellFormed : workspace.disk.root.WellFormed)
    (reorders : workspace.disk.root.Reorders tree) :
    (workspace.withTree tree).discover = workspace.discover := by
  have wellFormed' := reorders.wellFormed wellFormed
  refine Path.eq_of_ordered id (discover_pairwise wellFormed') (discover_pairwise wellFormed) ?_
  intro file
  constructor
  · intro member
    exact @mem_discover_of_outline (workspace.withTree tree) workspace.disk.root wellFormed'
      wellFormed (fun place => (reorders.outline?_eq place).symm) file member
  · intro member
    exact mem_discover_of_outline wellFormed wellFormed' reorders.outline?_eq member

/-! ### Which files are found -/

/-- Every directory that the search comes to can be opened by its path, so that all of its
entries are visited. -/
def OpensDirectories (workspace : Workspace) : Prop :=
  ∀ base names, workspace.SearchesFrom base →
    workspace.disk.root.outline? (base ++ names) = some .directory →
    (∀ name ∈ names, name ∉ workspace.settings.excludeDirs) →
    Disk.admits (workspace.pathOf names) = true

theorem OpensDirectories.opensDirectoryOf (opens : workspace.OpensDirectories)
    {base names : List Text} {bytes : ByteArray} (searched : workspace.SearchesFrom base)
    (isFile : workspace.disk.root.outline? (base ++ names) = some (.file bytes))
    (entered : ∀ name ∈ names.dropLast, name ∉ workspace.settings.excludeDirs) :
    workspace.opensDirectoryOf names = true := by
  unfold Workspace.opensDirectoryOf
  rcases List.eq_nil_or_concat names with rfl | ⟨directories, name, rfl⟩
  · exact ((Disk.resolve_eq_ok_iff (by decide)).mp searched.resolve).1
  · rw [List.concat_eq_append] at isFile entered ⊢
    rw [List.dropLast_concat] at entered ⊢
    rw [← List.append_assoc] at isFile
    exact opens base directories searched (Node.outline?_of_concat isFile) entered

theorem SearchesFrom.text_ne_nil {base : List Text} (searched : workspace.SearchesFrom base) :
    workspace.root.text ≠ [] := by
  have located := ((Disk.resolve_eq_ok_iff (by decide)).mp searched.resolve).2
  exact ((Disk.locate_eq_ok_iff (by decide)).mp located).1

/-- A file is selected by its name and by the names that lead to it from the root. -/
theorem selects_pathOf {names : List Text} (nonempty : workspace.root.text ≠ [])
    (areNames : ∀ name ∈ names, Node.IsEntryName name) :
    workspace.selects (workspace.pathOf names) = true ↔
      isMakefile (workspace.pathOf names) = true ∧
        workspace.settings.shouldScan (List.intercalate ['/'] names) = true := by
  rw [selects, Bool.and_eq_true, pathOf, Path.shownFrom_foldl_child nonempty areNames]

/-- The Makefiles of a workspace, without a word about how they are searched for. -/
theorem mem_discover_iff_of_opens (wellFormed : workspace.disk.root.WellFormed)
    (opens : workspace.OpensDirectories) {file : Path} :
    file ∈ workspace.discover ↔
      ∃ base names bytes, workspace.SearchesFrom base ∧
        workspace.disk.root.outline? (base ++ names) = some (.file bytes) ∧
        file = workspace.pathOf names ∧ isMakefile file = true ∧
        (∀ name ∈ names.dropLast, name ∉ workspace.settings.excludeDirs) ∧
        workspace.settings.shouldScan (List.intercalate ['/'] names) = true := by
  have notExcluded : ∀ name, workspace.settings.excludeDirs.contains name = false ↔
      name ∉ workspace.settings.excludeDirs := by
    intro name
    rw [List.contains_eq_mem, decide_eq_false_iff_not]
  rw [mem_discover_iff wellFormed]
  constructor
  · rintro ⟨selected, base, names, bytes, found⟩
    have areNames := found.isEntryName wellFormed
    obtain ⟨searched, isFile, entered, _, rfl⟩ := found
    obtain ⟨isMakefile, scanned⟩ := (selects_pathOf searched.text_ne_nil areNames).mp selected
    refine ⟨base, names, bytes, searched, isFile, rfl, isMakefile, ?_, scanned⟩
    intro name member
    exact (notExcluded name).mp (entered name member)
  · rintro ⟨base, names, bytes, searched, isFile, rfl, isMakefile, entered, scanned⟩
    have found : workspace.FoundAt (workspace.pathOf names) base names bytes :=
      ⟨searched, isFile, fun name member => (notExcluded name).mpr (entered name member),
        opens.opensDirectoryOf searched isFile entered, rfl⟩
    have areNames := found.isEntryName wellFormed
    exact ⟨(selects_pathOf searched.text_ne_nil areNames).mpr ⟨isMakefile, scanned⟩,
      base, names, bytes, found⟩

end Workspace

/-- Discovery is exact and does not depend on the order of entries.  The Makefiles of a
workspace are listed in the order of their paths, each of them once.  If the search can open
the directories that it comes to, then they are the regular files below the root that have
the name of a Makefile, that have no excluded directory on the way to them, and whose path from
the root is to be searched.  With the entries of all directories in any other order the list
is the same. -/
theorem discovery_is_exact (workspace : Workspace)
    (wellFormed : workspace.disk.root.WellFormed) :
    workspace.discover.Pairwise (fun earlier later => Path.order earlier later = .lt) ∧
      (workspace.OpensDirectories → ∀ file, file ∈ workspace.discover ↔
        ∃ base names bytes, workspace.SearchesFrom base ∧
          workspace.disk.root.outline? (base ++ names) = some (.file bytes) ∧
          file = workspace.pathOf names ∧ Workspace.isMakefile file = true ∧
          (∀ name ∈ names.dropLast, name ∉ workspace.settings.excludeDirs) ∧
          workspace.settings.shouldScan (List.intercalate ['/'] names) = true) ∧
      ∀ tree, workspace.disk.root.Reorders tree →
        (workspace.withTree tree).discover = workspace.discover := by
  refine ⟨Workspace.discover_pairwise wellFormed, ?_, ?_⟩
  · intro opens file
    exact Workspace.mem_discover_iff_of_opens wellFormed opens
  · intro tree reorders
    exact Workspace.discover_eq_of_reorders wellFormed reorders

/-- A tree with a file in an excluded directory and a file that is left out by its path, and
the same tree with the entries of its root in the opposite order. -/
theorem discovery_is_exact_reordered :
    let file : Node := .file ⟨#[]⟩
    let entries : List (Text × Node) := [(['a', '.', 'm', 'k'], file),
      (['s'], .directory [(['b', '.', 'm', 'k'], file), (['d', '.', 'm', 'k'], file)]),
      (['x'], .directory [(['a', '.', 'm', 'k'], file)])]
    let tree : Node := .directory entries
    let tree' : Node := .directory entries.reverse
    let workspace : Workspace :=
      { disk := ⟨tree, []⟩
        root := ⟨['.']⟩
        settings := { excludeDirs := [['x']], excludePaths := [['s', '/', 'd']] } }
    let inside : Path := ⟨['.', '/', 's', '/', 'b', '.', 'm', 'k']⟩
    tree.WellFormed ∧ workspace.OpensDirectories ∧ tree.Reorders tree' ∧
      (inside ∈ workspace.discover ↔
        ∃ base names bytes, workspace.SearchesFrom base ∧
          tree.outline? (base ++ names) = some (.file bytes) ∧
          inside = workspace.pathOf names ∧ Workspace.isMakefile inside = true ∧
          (∀ name ∈ names.dropLast, name ∉ workspace.settings.excludeDirs) ∧
          workspace.settings.shouldScan (List.intercalate ['/'] names) = true) ∧
      (workspace.withTree tree').discover = [⟨['.', '/', 'a', '.', 'm', 'k']⟩, inside] := by
  intro file entries tree tree' workspace inside
  have leaf : file.WellFormed := .file _
  have leaves : ∀ entries : List (Text × Node), (∀ entry ∈ entries, entry.2 = file) →
      ∀ names, (Node.directory entries).outline? names = some .directory → names = [] := by
    intro entries areFiles names isDirectory
    cases names with
    | nil => rfl
    | cons name rest =>
        obtain ⟨_, child, same, found, below⟩ := Node.outline?_cons isDirectory
        cases same
        obtain rfl : child = file := areFiles _ (Node.mem_of_lookup found)
        cases rest with
        | nil => cases below
        | cons _ _ => cases below
  have wellFormed : tree.WellFormed := by
    refine .directory (by decide) (by decide) ?_
    simp only [entries, List.forall_mem_cons]
    refine ⟨leaf, .directory (by decide) (by decide) ?_, .directory (by decide) (by decide) ?_,
      by simp⟩
    · simp only [List.forall_mem_cons]
      exact ⟨leaf, leaf, by simp⟩
    · exact List.forall_mem_singleton.mpr leaf
  have opens : workspace.OpensDirectories := by
    intro base names searched isDirectory entered
    obtain rfl : [] = base := Except.ok.inj searched.resolve
    cases names with
    | nil => decide
    | cons name rest =>
        obtain ⟨_, child, same, found, below⟩ := Node.outline?_cons isDirectory
        cases same
        have member := Node.mem_of_lookup found
        simp only [entries, List.mem_cons, Prod.mk.injEq, List.not_mem_nil, or_false] at member
        rcases member with ⟨rfl, rfl⟩ | ⟨rfl, rfl⟩ | ⟨rfl, rfl⟩
        · cases rest with
          | nil => cases below
          | cons _ _ => cases below
        · obtain rfl := leaves _ (by simp) rest below
          decide
        · exact absurd List.mem_cons_self (entered ['x'] List.mem_cons_self)
  have reorders : tree.Reorders tree' := .of_perm wellFormed (List.reverse_perm _).symm
  have listed : workspace.discover = [⟨['.', '/', 'a', '.', 'm', 'k']⟩, inside] :=
    Workspace.discover_eq_of_files (by decide) (by decide)
  obtain ⟨_, members, anyOrder⟩ := discovery_is_exact workspace wellFormed
  exact ⟨wellFormed, opens, reorders, members opens inside,
    (anyOrder tree' reorders).trans listed⟩

end MakefileNav
