/-
Module: MakefileNav.Proofs.DiskAgreement
Purpose: Disks that differ at one place only, and what a workspace sees of the difference.
Main exports:
  Disk.AgreesApartFrom, Disk.AgreesApartFrom.leads, Disk.AgreesApartFrom.locate,
  Workspace.FoundAt.transfer, Workspace.otherDocuments_eq, Workspace.definitions_congr,
  Workspace.usages_congr
-/
import MakefileNav.Proofs.Discovery

namespace MakefileNav

/-!
Two disks agree apart from a place where each has a regular file or nothing.  Nothing lies
below such a place, so that a path which leads elsewhere never goes through it, and leads to
the same place on both disks.  A workspace therefore has the same other documents on both,
provided that the file at this place is not among them: because it is the current file, or
because it cannot be read.
-/

namespace Disk

/-- Two disks show the same at all places but one. -/
structure AgreesApartFrom (left : Disk) (place : List Text) (right : Disk) : Prop where
  start : left.workingDirectory = right.workingDirectory
  elsewhere : ∀ other, other ≠ place → left.root.outline? other = right.root.outline? other

/-- There is a regular file at a place, or nothing. -/
def IsFileOrNothing (disk : Disk) (place : List Text) : Prop :=
  ∀ shown, disk.root.outline? place = some shown → ∃ bytes, shown = .file bytes

theorem isFileOrNothing_of_file {disk : Disk} {place : List Text} {bytes : ByteArray}
    (isFile : disk.root.outline? place = some (.file bytes)) : disk.IsFileOrNothing place := by
  intro shown found
  rw [isFile] at found
  exact ⟨bytes, (Option.some.inj found).symm⟩

theorem isFileOrNothing_of_none {disk : Disk} {place : List Text}
    (nothing : disk.root.outline? place = none) : disk.IsFileOrNothing place := by
  intro shown found
  rw [nothing] at found
  cases found

namespace AgreesApartFrom

variable {left right : Disk} {place : List Text}

theorem symm (agree : left.AgreesApartFrom place right) : right.AgreesApartFrom place left :=
  ⟨agree.start.symm, fun other apart => (agree.elsewhere other apart).symm⟩

/-- What is no regular file is the same on both disks. -/
theorem outline?_of_ne_file (agree : left.AgreesApartFrom place right)
    (leaf : left.IsFileOrNothing place) {other : List Text} {shown : Node.Outline}
    (found : left.root.outline? other = some shown) (noFile : ∀ bytes, shown ≠ .file bytes) :
    right.root.outline? other = some shown := by
  rw [← agree.elsewhere other, found]
  rintro rfl
  obtain ⟨bytes, isFile⟩ := leaf shown found
  exact noFile bytes isFile

/-- Two directories that differ in one entry agree apart from it, if it is a file. -/
theorem of_entries {entries entries' : List (Text × Node)} {name : Text} {start : List Text}
    (same : ∀ other, other ≠ name → entries.lookup other = entries'.lookup other)
    (leaf : ∀ node ∈ entries.lookup name, ∃ bytes, node = .file bytes)
    (leaf' : ∀ node ∈ entries'.lookup name, ∃ bytes, node = .file bytes) :
    AgreesApartFrom ⟨.directory entries, start⟩ [name] ⟨.directory entries', start⟩ := by
  have nothing : ∀ {entries : List (Text × Node)} {next : Text} {rest : List Text},
      (∀ node ∈ entries.lookup name, ∃ bytes, node = .file bytes) →
        (entries.lookup name).bind (·.outline? (next :: rest)) = none := by
    intro entries next rest leaf
    cases found : entries.lookup name with
    | none => rfl
    | some node =>
        obtain ⟨bytes, rfl⟩ := leaf node found
        rfl
  refine ⟨rfl, ?_⟩
  intro place apart
  cases place with
  | nil => rfl
  | cons other rest =>
      simp only [Node.outline?_directory_cons]
      by_cases named : other = name
      · subst named
        cases rest with
        | nil => exact absurd rfl apart
        | cons next rest => rw [nothing leaf, nothing leaf']
      · rw [same other named]

variable {ending : Ending} {reached : List Text}

/-- Steps lead to the same place on both disks.  If this is the place where the disks
differ, there has to be a file on the other disk too. -/
theorem leads (agree : left.AgreesApartFrom place right) (leaf : left.IsFileOrNothing place)
    {links : Nat} {here steps : List Text}
    (leads : Leads left.root ending links here steps reached)
    (present : reached = place → ∃ bytes, right.root.outline? place = some (.file bytes)) :
    Leads right.root ending links here steps reached := by
  induction leads with
  | done => exact .done
  | stay inDirectory _ ih =>
      exact .stay (agree.outline?_of_ne_file leaf inDirectory (by simp)) (ih present)
  | leave inDirectory _ ih =>
      exact .leave (agree.outline?_of_ne_file leaf inDirectory (by simp)) (ih present)
  | @enter links here rest reached step shown inDirectory down found noLink next ih =>
      have inDirectory' := agree.outline?_of_ne_file leaf inDirectory (by simp)
      by_cases apart : here ++ [step] = place
      · -- There is no way on from the place, so this is where the steps lead.
        obtain ⟨bytes, rfl⟩ := leaf shown (by rw [← apart, found])
        obtain ⟨_, last⟩ := next.eq_of_not_directory (by simp [found])
        obtain ⟨bytes', found'⟩ := present (last.trans apart)
        rw [← apart] at found'
        exact .enter inDirectory' down found' (by simp) (ih present)
      · rw [agree.elsewhere _ apart] at found
        exact .enter inDirectory' down found noLink (ih present)
  | keep inDirectory down found kept =>
      exact .keep (agree.outline?_of_ne_file leaf inDirectory (by simp)) down
        (agree.outline?_of_ne_file leaf found (by simp)) kept
  | follow inDirectory down found followed nonempty _ ih =>
      exact .follow (agree.outline?_of_ne_file leaf inDirectory (by simp)) down
        (agree.outline?_of_ne_file leaf found (by simp)) followed nonempty (ih present)

theorem locate (agree : left.AgreesApartFrom place right) (leaf : left.IsFileOrNothing place)
    (notMake : ending ≠ .make) {path : Path} (located : left.locate ending path = .ok reached)
    (present : reached = place → ∃ bytes, right.root.outline? place = some (.file bytes)) :
    right.locate ending path = .ok reached := by
  obtain ⟨nonempty, noZero, leads⟩ := (locate_eq_ok_iff notMake).mp located
  rw [agree.start] at leads
  exact (locate_eq_ok_iff notMake).mpr ⟨nonempty, noZero, agree.leads leaf leads present⟩

theorem resolve (agree : left.AgreesApartFrom place right) (leaf : left.IsFileOrNothing place)
    (notMake : ending ≠ .make) {path : Path} (resolved : left.resolve ending path = .ok reached)
    (apart : reached ≠ place) : right.resolve ending path = .ok reached := by
  obtain ⟨short, located⟩ := (resolve_eq_ok_iff notMake).mp resolved
  exact (resolve_eq_ok_iff notMake).mpr
    ⟨short, agree.locate leaf notMake located fun same => absurd same apart⟩

end AgreesApartFrom

end Disk

namespace Workspace

variable {workspace : Workspace} {other : Disk} {place : List Text}

/-- A file elsewhere is found on the other disk too. -/
theorem FoundAt.transfer (agree : workspace.disk.AgreesApartFrom place other)
    (leaf : workspace.disk.IsFileOrNothing place) {file : Path} {base names : List Text}
    {bytes : ByteArray} (found : workspace.FoundAt file base names bytes)
    (apart : base ++ names ≠ place) :
    FoundAt { workspace with disk := other } file base names bytes := by
  refine ⟨?_, ?_, found.entered, found.opened, found.named⟩
  · rcases found.searched with ⟨resolved, isDirectory⟩ | ⟨resolved, top, isFile⟩
    · have isDirectory' := agree.outline?_of_ne_file leaf isDirectory (by simp)
      refine Or.inl ⟨agree.resolve leaf (by decide) resolved ?_, isDirectory'⟩
      rintro rfl
      obtain ⟨bytes, isFile⟩ := leaf _ isDirectory
      cases isFile
    · -- A file has nothing below it, so the root is the file that was found.
      have single : names = [] := by
        have foundFile := found.isFile
        rw [Node.outline?_append (Node.outline?_eq_file_iff.mp isFile)] at foundFile
        cases names with
        | nil => rfl
        | cons name rest =>
            obtain ⟨_, _, isDirectory, _⟩ := Node.outline?_cons foundFile
            cases isDirectory
      subst single
      rw [List.append_nil] at apart
      exact Or.inr ⟨agree.resolve leaf (by decide) resolved apart, top,
        (agree.elsewhere base apart).symm.trans isFile⟩
  · exact (agree.elsewhere _ apart).symm.trans found.isFile

/-- The other documents of a workspace are found on another disk if none of them is at the
place where the disks differ. -/
theorem mem_otherDocuments_transfer (agree : workspace.disk.AgreesApartFrom place other)
    (wellFormed : workspace.disk.root.WellFormed) (wellFormed' : other.root.WellFormed)
    (leaf : workspace.disk.IsFileOrNothing place) (leaf' : other.IsFileOrNothing place)
    {current file : Path} {text : Text}
    (member : (file, text) ∈ workspace.otherDocuments current)
    (hidden : workspace.disk.canonical? file ≠ some place) :
    (file, text) ∈ otherDocuments { workspace with disk := other } current := by
  obtain ⟨listed, reading, isOther⟩ := mem_otherDocuments_iff.mp member
  obtain ⟨selected, base, names, bytes, found⟩ := (mem_discover_iff wellFormed).mp listed
  obtain ⟨reached, contents, resolved, isFile, decoded⟩ := Disk.read_eq_ok_iff.mp reading
  have located := Disk.canonical?_of_resolve resolved
  have apart : reached ≠ place := by
    rintro rfl
    exact hidden located
  have reachedEq := found.place_eq wellFormed (Disk.canonical?_eq_some_iff.mp located)
  have resolved' := agree.resolve leaf (by decide) resolved apart
  refine mem_otherDocuments_iff.mpr ⟨?_, ?_, ?_⟩
  · refine (mem_discover_iff wellFormed').mpr ⟨selected, base, names, bytes, ?_⟩
    exact found.transfer agree leaf (reachedEq ▸ apart)
  · rw [agree.elsewhere reached apart] at isFile
    exact Disk.read_eq_ok_iff.mpr ⟨reached, contents, resolved', isFile, decoded⟩
  · -- If the current file does not exist on the other disk it is known by its path there.
    unfold isCurrent
    split
    · exact same_current_eq_false reading isOther
    · rename_i currentPlace currentLocated'
      apply Bool.eq_false_iff.mpr
      intro same
      rw [Disk.canonical?_of_resolve resolved', beq_iff_eq, Option.some.injEq] at same
      subst same
      have currentLocated := agree.symm.locate leaf' (by decide)
        (Disk.canonical?_eq_some_iff.mp currentLocated') fun same => absurd same apart
      simp [isCurrent, Disk.canonical?_eq_some_iff.mpr currentLocated, located] at isOther

/-- Two disks have the same other documents if none of these is at the place where the
disks differ.  Both lists are in the order of paths, so it is enough that they have the
same members. -/
theorem otherDocuments_eq (agree : workspace.disk.AgreesApartFrom place other)
    (wellFormed : workspace.disk.root.WellFormed) (wellFormed' : other.root.WellFormed)
    (leaf : workspace.disk.IsFileOrNothing place) (leaf' : other.IsFileOrNothing place)
    {current : Path}
    (hidden : ∀ document ∈ workspace.otherDocuments current,
      workspace.disk.canonical? document.1 ≠ some place)
    (hidden' : ∀ document ∈ otherDocuments { workspace with disk := other } current,
      other.canonical? document.1 ≠ some place) :
    workspace.otherDocuments current =
      otherDocuments { workspace with disk := other } current := by
  refine Path.eq_of_ordered Prod.fst (otherDocuments_pairwise wellFormed current)
    (otherDocuments_pairwise wellFormed' current) ?_
  rintro ⟨file, text⟩
  constructor
  · intro member
    exact mem_otherDocuments_transfer agree wellFormed wellFormed' leaf leaf' member
      (hidden _ member)
  · intro member
    exact @mem_otherDocuments_transfer { workspace with disk := other } workspace.disk place
      agree.symm wellFormed' wellFormed leaf' leaf _ _ _ member (hidden' _ member)

/-- Searches look at the disk only through the other documents. -/
theorem definitions_congr {left right : Workspace} {current : Path}
    (same : left.otherDocuments current = right.otherDocuments current) (text name : Text) :
    left.definitions current text name = right.definitions current text name := by
  unfold definitions
  rw [same]

theorem usages_congr {left right : Workspace} {current : Path}
    (same : left.otherDocuments current = right.otherDocuments current) (text name : Text)
    (withDeclaration : Bool) :
    left.usages current text name withDeclaration =
      right.usages current text name withDeclaration := by
  unfold usages
  rw [same]

end Workspace

end MakefileNav
