/-
Module: MakefileNav.Proofs.DefinitionLookup
Purpose: Where a workspace finds the declarations of a name.
Main exports:
  Text.Declares, FirstDeclaredAt, Workspace.declaration?_eq_some_iff,
  Workspace.mem_definitions_iff, Workspace.definitions_pairwise,
  Workspace.definitions_eq_nil_iff, definitions_are_first_declarations
-/
import MakefileNav.Proofs.DeclarationUnderCursor
import MakefileNav.Proofs.DiskAgreement
import MakefileNav.Proofs.RangeRoundTrip
import MakefileNav.Proofs.WorkspaceUsages

namespace MakefileNav

/-!
A name is looked up in the text of the current file first.  If that does not declare it,
every other document that declares it is listed once, with its first declaration.  The
documents come in the order of their paths, and so do the definitions.  A file that is no
text is not a document, so that nothing changes when it is taken away.
-/

/-! ### Declared names -/

/-- Some line of a text declares a name. -/
def Text.Declares (text name : Text) : Prop :=
  ∃ line ∈ text.lines, ∃ kind, (kind, name) ∈ Line.declaredNames line

/-- What a text declares does not depend on the file it is in. -/
theorem Text.declares_iff (file : Path) {text name : Text} :
    text.Declares name ↔ ∃ symbol ∈ declarations file text, symbol.name = name := by
  constructor
  · rintro ⟨line, member, kind, declared⟩
    obtain ⟨number, found⟩ := List.getElem?_of_mem member
    exact ⟨_, mem_scanLines.mpr ⟨number, line, found, List.mem_map_of_mem declared⟩, rfl⟩
  · rintro ⟨symbol, member, rfl⟩
    obtain ⟨number, line, found, onLine⟩ := mem_scanLines.mp member
    obtain ⟨⟨kind, name⟩, declared, rfl⟩ := List.mem_map.mp onLine
    exact ⟨line, List.mem_of_getElem? found, kind, declared⟩

/-- The first declaration of a name in a document is at a location. -/
def FirstDeclaredAt (file : Path) (text name : Text) (location : Location) : Prop :=
  ∃ first, first.name = name ∧ DeclaredFirst (declarations file text) first ∧
    first.location = location

namespace Workspace

variable {workspace : Workspace} {file current : Path} {text name : Text} {location : Location}

theorem declaration?_eq_some_iff :
    declaration? file text name = some location ↔ FirstDeclaredAt file text name location := by
  simp only [declaration?, Option.map_eq_some_iff, firstDeclaration?_eq_some_iff, and_assoc,
    FirstDeclaredAt]

theorem declaration?_eq_none_iff : declaration? file text name = none ↔ ¬text.Declares name := by
  rw [declaration?, Option.map_eq_none_iff, firstDeclaration?, List.find?_eq_none,
    Text.declares_iff file]
  simp

theorem exists_declaration? (file : Path) (declares : text.Declares name) :
    ∃ location, declaration? file text name = some location := by
  apply Option.ne_none_iff_exists'.mp
  intro undeclared
  exact declaration?_eq_none_iff.mp undeclared declares

theorem declares_of_declaration? (declared : declaration? file text name = some location) :
    text.Declares name := by
  by_contra undeclares
  have undeclared : declaration? file text name = none :=
    declaration?_eq_none_iff.mpr undeclares
  rw [undeclared] at declared
  cases declared

/-- The range of a first declaration covers the name. -/
theorem covered?_of_declaration? (reportable : text.Reportable)
    (declared : declaration? file text name = some location) :
    location.range.covered? text = some name := by
  obtain ⟨symbol, first, rfl⟩ := Option.map_eq_some_iff.mp declared
  obtain ⟨rfl, _⟩ := firstDeclaration?_eq_some_iff.mp first
  exact (covered?_of_mem_declarations reportable (List.mem_of_find?_eq_some first)).1

/-! ### Definitions outside of the current file -/

theorem definitions_of_declares (declared : declaration? current text name = some location) :
    workspace.definitions current text name = [location] := by
  simp only [definitions, declared]

theorem definitions_of_not_declares (undeclared : declaration? current text name = none) :
    workspace.definitions current text name =
      (workspace.otherDocuments current).filterMap
        fun document => declaration? document.1 document.2 name := by
  simp only [definitions, undeclared]

theorem mem_definitions_iff (undeclared : declaration? current text name = none) :
    location ∈ workspace.definitions current text name ↔
      ∃ file ∈ workspace.discover, ∃ other, workspace.disk.read file = .ok other ∧
        workspace.isCurrent current file = false ∧
          declaration? file other name = some location := by
  rw [definitions_of_not_declares undeclared, List.mem_filterMap]
  constructor
  · rintro ⟨⟨file, other⟩, member, declared⟩
    obtain ⟨listed, reading, isOther⟩ := mem_otherDocuments_iff.mp member
    exact ⟨file, listed, other, reading, isOther, declared⟩
  · rintro ⟨file, listed, other, reading, isOther, declared⟩
    exact ⟨(file, other), mem_otherDocuments_iff.mpr ⟨listed, reading, isOther⟩, declared⟩

/-- Definitions in other documents are in the order of the documents. -/
theorem definitions_pairwise (wellFormed : workspace.disk.root.WellFormed)
    (undeclared : declaration? current text name = none) :
    (workspace.definitions current text name).Pairwise
      fun earlier later => Path.order earlier.file later.file = .lt := by
  rw [definitions_of_not_declares undeclared]
  refine (otherDocuments_pairwise wellFormed current).filterMap _ ?_
  intro document document' before location declared location' declared'
  rw [file_of_declaration? declared, file_of_declaration? declared']
  exact before

theorem definitions_eq_nil_iff :
    workspace.definitions current text name = [] ↔
      ¬text.Declares name ∧ ∀ file ∈ workspace.discover, ∀ other,
        workspace.disk.read file = .ok other → workspace.isCurrent current file = false →
          ¬other.Declares name := by
  cases declared : declaration? current text name with
  | some location =>
      simp [definitions_of_declares declared, declares_of_declaration? declared]
  | none =>
      rw [List.eq_nil_iff_forall_not_mem]
      constructor
      · intro empty
        refine ⟨declaration?_eq_none_iff.mp declared, ?_⟩
        intro file listed other reading isOther declares
        obtain ⟨location, first⟩ := exists_declaration? file declares
        exact empty location ((mem_definitions_iff declared).mpr
          ⟨file, listed, other, reading, isOther, first⟩)
      · rintro ⟨_, nowhere⟩ location member
        obtain ⟨file, listed, other, reading, isOther, first⟩ :=
          (mem_definitions_iff declared).mp member
        exact nowhere file listed other reading isOther (declares_of_declaration? first)

/-! ### Files that are no text -/

/-- Documents are not at a place where there is no text. -/
theorem canonical?_ne_of_no_text {place : List Text}
    (noText : ∀ bytes, workspace.disk.root.outline? place = some (.file bytes) →
      Disk.decode? bytes = none) :
    ∀ document ∈ workspace.otherDocuments current,
      workspace.disk.canonical? document.1 ≠ some place := by
  intro document member located
  obtain ⟨_, reading, _⟩ := mem_otherDocuments_iff.mp member
  obtain ⟨reached, bytes, located', isFile, decoded⟩ := Disk.exists_canonical?_of_read reading
  obtain rfl := Option.some.inj (located.symm.trans located')
  rw [noText bytes isFile] at decoded
  cases decoded

/-- Taking away a file that is no text leaves the other documents as they are. -/
theorem otherDocuments_eq_of_no_text {without : Disk} {place : List Text} {bytes : ByteArray}
    (wellFormed : workspace.disk.root.WellFormed) (wellFormed' : without.root.WellFormed)
    (isFile : workspace.disk.root.outline? place = some (.file bytes))
    (noText : Disk.decode? bytes = none) (removed : without.root.outline? place = none)
    (agree : workspace.disk.AgreesApartFrom place without) :
    workspace.otherDocuments current =
      otherDocuments { workspace with disk := without } current := by
  refine otherDocuments_eq agree wellFormed wellFormed' (Disk.isFileOrNothing_of_file isFile)
    (Disk.isFileOrNothing_of_none removed) (canonical?_ne_of_no_text ?_)
    (@canonical?_ne_of_no_text { workspace with disk := without } _ _ ?_)
  · intro bytes' isFile'
    rw [isFile] at isFile'
    cases isFile'
    exact noText
  · intro bytes' isFile'
    rw [removed] at isFile'
    cases isFile'

end Workspace

/-- The definitions of a name are first declarations.  If the text of the current file
declares the name, there is one definition, the first declaration in this text.  Otherwise
there is one for each Makefile that can be read, is not the current file and declares the
name, in the order of their paths.  So there is none exactly if none of these texts declares
the name.  The range of a definition covers the name in its document, and a file that is no
text makes no difference. -/
theorem definitions_are_first_declarations (workspace : Workspace)
    (wellFormed : workspace.disk.root.WellFormed) (current : Path) (text name : Text) :
    (text.Declares name → ∃ location, FirstDeclaredAt current text name location ∧
        workspace.definitions current text name = [location]) ∧
      (¬text.Declares name →
        (workspace.definitions current text name).Pairwise (fun earlier later =>
            Path.order earlier.file later.file = .lt ∧ earlier.file.same later.file = false) ∧
          (∀ location ∈ workspace.definitions current text name,
            location.file ∈ workspace.discover ∧
              workspace.isCurrent current location.file = false ∧
                ∃ other, workspace.disk.read location.file = .ok other ∧
                  FirstDeclaredAt location.file other name location) ∧
          ∀ file ∈ workspace.discover, workspace.isCurrent current file = false →
            ∀ other, workspace.disk.read file = .ok other → other.Declares name →
              ∃ location ∈ workspace.definitions current text name,
                location.file = file ∧ FirstDeclaredAt file other name location) ∧
      (workspace.definitions current text name = [] ↔
        ¬text.Declares name ∧ ∀ file ∈ workspace.discover, ∀ other,
          workspace.disk.read file = .ok other → workspace.isCurrent current file = false →
            ¬other.Declares name) ∧
      (∀ location ∈ workspace.definitions current text name, ∃ document,
        (location.file = current ∧ document = text ∨
            location.file ∈ workspace.discover ∧
              workspace.disk.read location.file = .ok document) ∧
          (document.Reportable → location.range.covered? document = some name)) ∧
      (∀ (without : Disk) (place : List Text) (bytes : ByteArray),
        without.root.WellFormed →
        workspace.disk.root.outline? place = some (.file bytes) →
        Disk.decode? bytes = none → without.root.outline? place = none →
        workspace.disk.AgreesApartFrom place without →
        workspace.definitions current text name =
          Workspace.definitions { workspace with disk := without } current text name) := by
  refine ⟨?_, ?_, Workspace.definitions_eq_nil_iff, ?_, ?_⟩
  · intro declares
    obtain ⟨location, declared⟩ := Workspace.exists_declaration? current declares
    exact ⟨location, Workspace.declaration?_eq_some_iff.mp declared,
      Workspace.definitions_of_declares declared⟩
  · intro undeclares
    have undeclared : Workspace.declaration? current text name = none :=
      Workspace.declaration?_eq_none_iff.mpr undeclares
    refine ⟨?_, ?_, ?_⟩
    · refine (Workspace.definitions_pairwise wellFormed undeclared).imp ?_
      intro earlier later before
      exact ⟨before, Path.same_eq_false_of_lt before⟩
    · intro location member
      obtain ⟨file, listed, other, reading, isOther, declared⟩ :=
        (Workspace.mem_definitions_iff undeclared).mp member
      obtain rfl := Workspace.file_of_declaration? declared
      exact ⟨listed, isOther, other, reading, Workspace.declaration?_eq_some_iff.mp declared⟩
    · intro file listed isOther other reading declares
      obtain ⟨location, declared⟩ := Workspace.exists_declaration? file declares
      exact ⟨location, (Workspace.mem_definitions_iff undeclared).mpr
          ⟨file, listed, other, reading, isOther, declared⟩,
        Workspace.file_of_declaration? declared, Workspace.declaration?_eq_some_iff.mp declared⟩
  · intro location member
    cases declared : Workspace.declaration? current text name with
    | some own =>
        rw [Workspace.definitions_of_declares declared, List.mem_singleton] at member
        subst member
        exact ⟨text, Or.inl ⟨Workspace.file_of_declaration? declared, rfl⟩,
          fun reportable => Workspace.covered?_of_declaration? reportable declared⟩
    | none =>
        obtain ⟨file, listed, other, reading, _, found⟩ :=
          (Workspace.mem_definitions_iff declared).mp member
        obtain rfl := Workspace.file_of_declaration? found
        exact ⟨other, Or.inr ⟨listed, reading⟩,
          fun reportable => Workspace.covered?_of_declaration? reportable found⟩
  · intro without place bytes wellFormed' isFile noText removed agree
    apply Workspace.definitions_congr
    exact Workspace.otherDocuments_eq_of_no_text wellFormed wellFormed' isFile noText removed agree

/-- Two documents whose paths come in another order than the characters of their texts, and
a Makefile that is no text. -/
theorem definitions_are_first_declarations_nested :
    let entries : List (Text × Node) :=
      [(['a'], .directory [(['x', '.', 'm', 'k'], .file "C:".toUTF8)]),
        (['a', '-', '.', 'm', 'k'], .file "x:\nC=".toUTF8)]
    let workspace : Workspace :=
      { disk := ⟨.directory (entries ++ [(['b', '.', 'm', 'k'], .file ⟨#[255]⟩)]), []⟩
        root := ⟨['.']⟩
        settings := {} }
    let without : Disk := ⟨.directory entries, []⟩
    let place : List Text := [['b', '.', 'm', 'k']]
    let text : Text := ['x', ':', ' ', 'C']
    let nested : Location := ⟨⟨['.', '/', 'a', '/', 'x', '.', 'm', 'k']⟩, ⟨⟨0, 0⟩, ⟨0, 1⟩⟩⟩
    let second : Location := ⟨⟨['.', '/', 'a', '-', '.', 'm', 'k']⟩, ⟨⟨1, 0⟩, ⟨1, 1⟩⟩⟩
    workspace.disk.root.WellFormed ∧ without.root.WellFormed ∧
      (workspace.pathOf place ∈ workspace.discover ∧
        workspace.disk.root.outline? place = some (.file ⟨#[255]⟩) ∧
        Disk.decode? ⟨#[255]⟩ = none ∧ without.root.outline? place = none ∧
        workspace.disk.AgreesApartFrom place without) ∧
      ¬text.Declares ['C'] ∧
      workspace.definitions ⟨['M']⟩ text ['C'] = [nested, second] ∧
      Path.order nested.file second.file = .lt ∧
      (∃ other, workspace.disk.read second.file = .ok other ∧
        FirstDeclaredAt second.file other ['C'] second) ∧
      Workspace.definitions { workspace with disk := without } ⟨['M']⟩ text ['C'] =
        [nested, second] := by
  intro entries workspace without place text nested second
  have wellFormedEntries : ∀ entry ∈ entries, entry.2.WellFormed := by
    simp only [entries, List.forall_mem_cons]
    exact ⟨.directory (by decide) (by decide) (List.forall_mem_singleton.mpr (.file _)),
      .file _, by simp⟩
  have wellFormed : workspace.disk.root.WellFormed := by
    refine .directory (by decide) (by decide) ?_
    rw [List.forall_mem_append]
    exact ⟨wellFormedEntries, List.forall_mem_singleton.mpr (.file _)⟩
  have wellFormed' : without.root.WellFormed :=
    .directory (by decide) (by decide) wellFormedEntries
  have agree : workspace.disk.AgreesApartFrom place without := by
    apply Disk.AgreesApartFrom.of_entries
    · intro name different
      have test : (name == ['b', '.', 'm', 'k']) = false := beq_eq_false_iff_ne.mpr different
      simp [entries, List.lookup_cons, test]
    · rintro node ⟨rfl⟩
      exact ⟨_, rfl⟩
    · rintro node ⟨⟩
  have found : workspace.discover = [nested.file, second.file, workspace.pathOf place] :=
    Workspace.discover_eq_of_files (by decide) (by decide)
  have answer : workspace.definitions ⟨['M']⟩ text ['C'] = [nested, second] := by
    simp only [Workspace.definitions, Workspace.otherDocuments, Workspace.documents,
      Workspace.readings, found]
    decide
  have undeclared : ¬text.Declares ['C'] := by
    apply Workspace.declaration?_eq_none_iff.mp
    exact (by decide : Workspace.declaration? ⟨['M']⟩ text ['C'] = none)
  obtain ⟨_, elsewhere, _, _, unreadable⟩ :=
    definitions_are_first_declarations workspace wellFormed ⟨['M']⟩ text ['C']
  obtain ⟨ordered, sound, _⟩ := elsewhere undeclared
  have unchanged := unreadable without place ⟨#[255]⟩ wellFormed' rfl (by decide) rfl agree
  rw [answer] at ordered sound unchanged
  refine ⟨wellFormed, wellFormed', ⟨?_, rfl, by decide, rfl, agree⟩, undeclared, answer, ?_, ?_,
    unchanged.symm⟩
  · rw [found]
    simp
  · exact ((List.pairwise_cons.mp ordered).1 second (by simp)).1
  · exact (sound second (by simp)).2.2

end MakefileNav
