/-
Module: MakefileNav.Proofs.UnsavedText
Purpose: What the disk holds in the current file has no influence on a search.
Main exports:
  Workspace.canonical?_ne_of_mem_otherDocuments, Workspace.otherDocuments_eq_of_current,
  unsaved_text_wins
-/
import MakefileNav.Proofs.DiskAgreement
import MakefileNav.Proofs.WorkspaceUsages

namespace MakefileNav

/-!
The text of the current file is handed to a search, and the disk may hold another one.  The
search reads the file from the disk all the same, possibly under another spelling of its
path, and leaves it out afterwards.  So two disks that differ only in the contents of the
file that the current path leads to give the same answers, also when the contents are no
text on one of them.
-/

namespace Workspace

variable {workspace : Workspace} {current : Path} {place : List Text}

/-- Other documents do not lead to the place of the current file. -/
theorem canonical?_ne_of_mem_otherDocuments
    (located : workspace.disk.canonical? current = some place) :
    ∀ document ∈ workspace.otherDocuments current,
      workspace.disk.canonical? document.1 ≠ some place := by
  intro document member same
  obtain ⟨_, _, isOther⟩ := mem_otherDocuments_iff.mp member
  simp [isCurrent, located, same] at isOther

/-- The contents of the current file do not change which other documents there are. -/
theorem otherDocuments_eq_of_current {other : Disk} {bytes bytes' : ByteArray}
    (wellFormed : workspace.disk.root.WellFormed) (wellFormed' : other.root.WellFormed)
    (located : workspace.disk.canonical? current = some place)
    (isFile : workspace.disk.root.outline? place = some (.file bytes))
    (isFile' : other.root.outline? place = some (.file bytes'))
    (agree : workspace.disk.AgreesApartFrom place other) :
    workspace.otherDocuments current =
      otherDocuments { workspace with disk := other } current := by
  have leaf := Disk.isFileOrNothing_of_file isFile
  have located' : other.canonical? current = some place := by
    apply Disk.canonical?_eq_some_iff.mpr
    exact agree.locate leaf (by decide) (Disk.canonical?_eq_some_iff.mp located)
      fun _ => ⟨bytes', isFile'⟩
  exact otherDocuments_eq agree wellFormed wellFormed' leaf (Disk.isFileOrNothing_of_file isFile')
    (canonical?_ne_of_mem_otherDocuments located)
    (@canonical?_ne_of_mem_otherDocuments { workspace with disk := other } _ _ located')

/-- Definitions are the declaration in the current file, or else come from other paths. -/
theorem exists_definitions_eq (workspace : Workspace) (current : Path) (text name : Text) :
    ∃ others, workspace.definitions current text name =
        (declaration? current text name).toList ++ others ∧
      ∀ location ∈ others, location.file.same current = false := by
  unfold definitions
  cases declaration? current text name with
  | some location => exact ⟨[], rfl, by simp⟩
  | none =>
      refine ⟨_, rfl, ?_⟩
      intro location member
      obtain ⟨document, other, declared⟩ := List.mem_filterMap.mp member
      rw [file_of_declaration? declared, Path.same_comm]
      exact current_same_eq_false other

/-- Usages are those in the current file and then others, which come from other paths. -/
theorem exists_usages_eq (wellFormed : workspace.disk.root.WellFormed) (current : Path)
    (text name : Text) (withDeclaration : Bool) :
    ∃ others, workspace.usages current text name withDeclaration =
        usagesWithDeclaration current text name withDeclaration ++ others ∧
      ∀ location ∈ others, location.file.same current = false := by
  refine ⟨_, usages_eq wellFormed current text name withDeclaration, ?_⟩
  intro location member
  obtain ⟨document, other, contributed⟩ := List.mem_flatMap.mp member
  rw [file_of_mem_contribution contributed, Path.same_comm]
  exact current_same_eq_false other

end Workspace

/-- Searches answer from the text that is handed in for the current file.  If the current
path leads to a regular file, by whatever spelling or links, then a disk that differs only
in the contents of this file gives the same answers.  And whether the current file exists or
not, what is listed from other files never has the path of the current one. -/
theorem unsaved_text_wins (workspace : Workspace) (wellFormed : workspace.disk.root.WellFormed)
    (current : Path) (text name : Text) (withDeclaration : Bool) :
    (∀ (other : Disk) (place : List Text) (bytes bytes' : ByteArray),
        other.root.WellFormed →
        workspace.disk.canonical? current = some place →
        workspace.disk.root.outline? place = some (.file bytes) →
        other.root.outline? place = some (.file bytes') →
        workspace.disk.AgreesApartFrom place other →
        workspace.definitions current text name =
            Workspace.definitions { workspace with disk := other } current text name ∧
          workspace.usages current text name withDeclaration =
            Workspace.usages { workspace with disk := other } current text name
              withDeclaration) ∧
      (∃ others, workspace.definitions current text name =
          (Workspace.declaration? current text name).toList ++ others ∧
        ∀ location ∈ others, location.file.same current = false) ∧
      (∃ others, workspace.usages current text name withDeclaration =
          usagesWithDeclaration current text name withDeclaration ++ others ∧
        ∀ location ∈ others, location.file.same current = false) := by
  refine ⟨?_, ?_, ?_⟩
  · intro other place bytes bytes' wellFormed' located isFile isFile' agree
    have same := Workspace.otherDocuments_eq_of_current wellFormed wellFormed' located isFile
      isFile' agree
    exact ⟨Workspace.definitions_congr same text name,
      Workspace.usages_congr same text name withDeclaration⟩
  · exact workspace.exists_definitions_eq current text name
  · exact Workspace.exists_usages_eq wellFormed current text name withDeclaration

/-- A current path through a directory, two dots and a link, and a disk on which the file
that it leads to is no text. -/
theorem unsaved_text_wins_link :
    let entries : ByteArray → List (Text × Node) := fun bytes =>
      [(['m', '.', 'm', 'k'], .file bytes), (['d'], .directory []),
        (['l'], .link ['.', '/', 'm', '.', 'm', 'k']), (['x', '.', 'm', 'k'], .file "C:".toUTF8)]
    let workspace : Workspace :=
      { disk := ⟨.directory (entries "C=$(C)".toUTF8), []⟩, root := ⟨['.']⟩, settings := {} }
    let other : Disk := ⟨.directory (entries ⟨#[255]⟩), []⟩
    let place : List Text := [['m', '.', 'm', 'k']]
    let current : Path := ⟨['d', '/', '.', '.', '/', 'l']⟩
    let text : Text := ['x', ':', '$', '(', 'C', ')']
    let declared : Location := ⟨⟨['.', '/', 'x', '.', 'm', 'k']⟩, ⟨⟨0, 0⟩, ⟨0, 1⟩⟩⟩
    workspace.disk.root.WellFormed ∧ other.root.WellFormed ∧
      workspace.disk.canonical? current = some place ∧
      workspace.disk.root.outline? place = some (.file "C=$(C)".toUTF8) ∧
      other.root.outline? place = some (.file ⟨#[255]⟩) ∧ Disk.decode? ⟨#[255]⟩ = none ∧
      workspace.disk.AgreesApartFrom place other ∧
      workspace.definitions current text ['C'] = [declared] ∧
      Workspace.definitions { workspace with disk := other } current text ['C'] = [declared] ∧
      workspace.usages current text ['C'] true =
        Workspace.usages { workspace with disk := other } current text ['C'] true := by
  intro entries workspace other place current text declared
  have wellFormed : ∀ bytes, (Node.directory (entries bytes)).WellFormed := by
    intro bytes
    refine .directory ?_ ?_ ?_
    · simp [entries]
    · simp only [entries, List.forall_mem_cons]
      decide
    · simp only [entries, List.forall_mem_cons]
      exact ⟨.file _, .directory (by decide) (by decide) (by simp), .link _, .file _, by simp⟩
  have located : workspace.disk.canonical? current = some place := by decide
  have agree : workspace.disk.AgreesApartFrom place other := by
    apply Disk.AgreesApartFrom.of_entries
    · intro name different
      have test : (name == ['m', '.', 'm', 'k']) = false := beq_eq_false_iff_ne.mpr different
      simp [entries, List.lookup_cons, test]
    · rintro node ⟨rfl⟩
      exact ⟨_, rfl⟩
    · rintro node ⟨rfl⟩
      exact ⟨_, rfl⟩
  have found : workspace.discover =
      [⟨['.', '/', 'm', '.', 'm', 'k']⟩, ⟨['.', '/', 'x', '.', 'm', 'k']⟩] :=
    Workspace.discover_eq_of_files (by decide) (by decide)
  have answer : workspace.definitions current text ['C'] = [declared] := by
    simp only [Workspace.definitions, Workspace.otherDocuments, Workspace.documents,
      Workspace.readings, found]
    decide
  obtain ⟨definitions, usages⟩ :=
    (unsaved_text_wins workspace (wellFormed _) current text ['C'] true).1 other place _ _
      (wellFormed _) located rfl rfl agree
  exact ⟨wellFormed _, wellFormed _, located, rfl, rfl, by decide, agree, answer,
    definitions.symm.trans answer, usages⟩

end MakefileNav
