/-
Module: MakefileNav.Proofs.WorkspaceUsages
Purpose: The usages of a name in a workspace are those of its documents, one after the other.
Main exports:
  Workspace.contribution, Workspace.addUsages_eq, Workspace.foldl_addUsages,
  Workspace.usages_eq, workspace_usages_concatenate
-/
import MakefileNav.Proofs.DeclarationsApart
import MakefileNav.Proofs.Discovery

namespace MakefileNav

/-!
A declaration is added to the locations found so far unless one of them starts at the same
place of the same file.  What has been found before comes from the current file and from
earlier documents, and none of these has the path of the document at hand.  What the
document itself contributes are usages, and no usage starts where a name is declared.  So
the test never finds anything, and every document contributes the same as it would alone.
-/

namespace Workspace

variable {name : Text} {withDeclaration : Bool}

/-! ### Files of locations -/

theorem file_of_mem_usages {file : Path} {text : Text} {location : Location}
    (used : location ∈ MakefileNav.usages file text name) : location.file = file := by
  obtain ⟨_, _, _, _, _, _, _, rfl⟩ := mem_usages_iff.mp used
  rfl

theorem file_of_declaration? {file : Path} {text : Text} {location : Location}
    (declared : declaration? file text name = some location) : location.file = file := by
  obtain ⟨symbol, first, rfl⟩ := Option.map_eq_some_iff.mp declared
  obtain ⟨_, _, _, member⟩ := mem_scanLines.mp (List.mem_of_find?_eq_some first)
  obtain ⟨_, _, rfl⟩ := List.mem_map.mp member
  rfl

/-- A usage does not start where a name is declared in the same document. -/
theorem sameStart_of_mem_usages {file : Path} {text : Text} {location declaration : Location}
    (used : location ∈ MakefileNav.usages file text name)
    (declared : declaration? file text name = some declaration) :
    location.sameStart declaration = false := by
  obtain ⟨symbol, first, rfl⟩ := Option.map_eq_some_iff.mp declared
  have apart := start_ne_of_mem_usages used (List.mem_of_find?_eq_some first)
  simp [Location.sameStart, apart]

/-! ### What one document contributes -/

/-- The usages in a document, and its declaration after them when it is asked for. -/
def contribution (name : Text) (withDeclaration : Bool) (document : Path × Text) :
    List Location :=
  MakefileNav.usages document.1 document.2 name ++
    if withDeclaration then (declaration? document.1 document.2 name).toList else []

theorem contribution_false (name : Text) :
    contribution name false = fun document =>
      MakefileNav.usages document.1 document.2 name := by
  funext document
  exact List.append_nil _

theorem contribution_true (name : Text) :
    contribution name true = fun document =>
      MakefileNav.usages document.1 document.2 name ++
        (declaration? document.1 document.2 name).toList := rfl

theorem file_of_mem_contribution {document : Path × Text} {location : Location}
    (member : location ∈ contribution name withDeclaration document) :
    location.file = document.1 := by
  rcases List.mem_append.mp member with used | declared
  · exact file_of_mem_usages used
  · cases withDeclaration with
    | false => cases declared
    | true => exact file_of_declaration? (Option.mem_toList.mp declared)

/-- Nothing from other files starts where a document declares a name. -/
theorem sameStart_of_other_file {document : Path × Text} {location declaration : Location}
    (apart : location.file.same document.1 = false)
    (declared : declaration? document.1 document.2 name = some declaration) :
    location.sameStart declaration = false := by
  rw [Location.sameStart, file_of_declaration? declared, apart, Bool.false_and]

/-- A document adds its contribution to what comes from other files. -/
theorem addUsages_eq {found : List Location} {document : Path × Text}
    (apart : ∀ location ∈ found, location.file.same document.1 = false) :
    addUsages name withDeclaration found document =
      found ++ contribution name withDeclaration document := by
  unfold addUsages contribution
  cases withDeclaration with
  | false => simp
  | true =>
      cases declared : declaration? document.1 document.2 name with
      | none => simp
      | some declaration =>
          have unlisted : (found ++ MakefileNav.usages document.1 document.2 name).any
              (·.sameStart declaration) = false := by
            apply List.any_eq_false.mpr
            intro location member
            apply Bool.eq_false_iff.mp
            rcases List.mem_append.mp member with earlier | used
            · exact sameStart_of_other_file (apart location earlier) declared
            · exact sameStart_of_mem_usages used declared
          simp [unlisted]

/-- Documents of different files add their contributions one after the other.  The
invariant is that nothing found so far comes from a file that is still to be read. -/
theorem foldl_addUsages {documents : List (Path × Text)} {found : List Location}
    (distinct : documents.Pairwise fun earlier later => earlier.1.same later.1 = false)
    (apart : ∀ location ∈ found, ∀ document ∈ documents,
      location.file.same document.1 = false) :
    documents.foldl (addUsages name withDeclaration) found =
      found ++ documents.flatMap (contribution name withDeclaration) := by
  induction documents generalizing found with
  | nil => simp
  | cons document rest ih =>
      obtain ⟨before, distinctRest⟩ := List.pairwise_cons.mp distinct
      have added : addUsages name withDeclaration found document =
          found ++ contribution name withDeclaration document := by
        apply addUsages_eq
        intro location earlier
        exact apart location earlier document List.mem_cons_self
      rw [List.foldl_cons, added, ih distinctRest, List.flatMap_cons, List.append_assoc]
      intro location member later isLater
      rcases List.mem_append.mp member with earlier | here
      · exact apart location earlier later (List.mem_cons_of_mem document isLater)
      · rw [file_of_mem_contribution here]
        exact before later isLater

/-! ### The whole workspace -/

variable {workspace : Workspace}

theorem otherDocuments_distinct (wellFormed : workspace.disk.root.WellFormed) (current : Path) :
    (workspace.otherDocuments current).Pairwise
      fun earlier later => earlier.1.same later.1 = false := by
  refine (otherDocuments_pairwise wellFormed current).imp ?_
  intro earlier later before
  exact Path.same_eq_false_of_lt before

/-- No other document has the path of the current file. -/
theorem current_same_eq_false {current : Path} {document : Path × Text}
    (other : document ∈ workspace.otherDocuments current) :
    current.same document.1 = false := by
  obtain ⟨_, reading, isOther⟩ := mem_otherDocuments_iff.mp other
  rw [Path.same_comm]
  exact same_current_eq_false reading isOther

/-- The usages in a workspace are those in the current file, with its declaration in front,
and then what the other documents contribute. -/
theorem usages_eq (wellFormed : workspace.disk.root.WellFormed) (current : Path)
    (text name : Text) (withDeclaration : Bool) :
    workspace.usages current text name withDeclaration =
      usagesWithDeclaration current text name withDeclaration ++
        (workspace.otherDocuments current).flatMap (contribution name withDeclaration) := by
  apply foldl_addUsages (otherDocuments_distinct wellFormed current)
  intro location member document other
  suffices own : location.file = current by
    rw [own]
    exact current_same_eq_false other
  cases withDeclaration with
  | false => exact file_of_mem_usages member
  | true =>
      rw [usagesWithDeclaration_eq] at member
      rcases List.mem_append.mp member with declared | used
      · exact file_of_declaration? (Option.mem_toList.mp declared)
      · exact file_of_mem_usages used

/-! ### Declarations are listed once -/

/-- What comes from other files does not count where a document declares a name. -/
theorem countP_eq_zero_of_other_file {document : Path × Text} {declaration : Location}
    {others : List (Path × Text)}
    (apart : ∀ other ∈ others, other.1.same document.1 = false)
    (declared : declaration? document.1 document.2 name = some declaration) :
    (others.flatMap (contribution name withDeclaration)).countP (·.sameStart declaration) = 0 := by
  apply List.countP_eq_zero.mpr
  intro location member
  obtain ⟨other, isOther, listed⟩ := List.mem_flatMap.mp member
  apply Bool.eq_false_iff.mp
  apply sameStart_of_other_file _ declared
  rw [file_of_mem_contribution listed]
  exact apart other isOther

/-- A document that declares a name contributes one location at the declaration. -/
theorem countP_contribution {document : Path × Text} {declaration : Location}
    (declared : declaration? document.1 document.2 name = some declaration) :
    (contribution name true document).countP (·.sameStart declaration) = 1 := by
  have unused : (MakefileNav.usages document.1 document.2 name).countP
      (·.sameStart declaration) = 0 := by
    apply List.countP_eq_zero.mpr
    intro location used
    apply Bool.eq_false_iff.mp
    exact sameStart_of_mem_usages used declared
  have itself : declaration.sameStart declaration = true := by
    simp [Location.sameStart, Path.same]
  simp [contribution, declared, List.countP_append, unused, itself]

theorem countP_flatMap_contribution {documents : List (Path × Text)}
    (distinct : documents.Pairwise fun earlier later => earlier.1.same later.1 = false)
    {document : Path × Text} (member : document ∈ documents) {declaration : Location}
    (declared : declaration? document.1 document.2 name = some declaration) :
    (documents.flatMap (contribution name true)).countP (·.sameStart declaration) = 1 := by
  obtain ⟨before, after, rfl⟩ := List.append_of_mem member
  obtain ⟨_, distinctAfter, across⟩ := List.pairwise_append.mp distinct
  have countBefore : (before.flatMap (contribution name true)).countP
      (·.sameStart declaration) = 0 := by
    refine countP_eq_zero_of_other_file ?_ declared
    intro earlier isEarlier
    exact across earlier isEarlier document List.mem_cons_self
  have countAfter : (after.flatMap (contribution name true)).countP
      (·.sameStart declaration) = 0 := by
    refine countP_eq_zero_of_other_file ?_ declared
    intro later isLater
    rw [Path.same_comm]
    exact (List.pairwise_cons.mp distinctAfter).1 later isLater
  rw [List.flatMap_append, List.flatMap_cons, List.countP_append, List.countP_append, countBefore,
    countP_contribution declared, countAfter]

/-- The current file has its declaration in front of its usages and not after them, which
makes no difference to how often a location is listed. -/
theorem countP_usages (wellFormed : workspace.disk.root.WellFormed) (current : Path)
    (text name : Text) (counted : Location → Bool) :
    (workspace.usages current text name true).countP counted =
      (((current, text) :: workspace.otherDocuments current).flatMap
        (contribution name true)).countP counted := by
  rw [usages_eq wellFormed, usagesWithDeclaration_eq]
  simp only [List.flatMap_cons, List.countP_append, contribution, if_true, declaration?]
  omega

end Workspace

/-- The usages of a name in a workspace are those in the current file and then those in
every other document, in the order of the documents.  When declarations are asked for, the
current file has its own in front, and every other document has its own at the end.  The
declaration of each document that has one is listed once. -/
theorem workspace_usages_concatenate (workspace : Workspace)
    (wellFormed : workspace.disk.root.WellFormed) (current : Path) (text name : Text) :
    let others :=
      workspace.documents.filter fun document => !workspace.isCurrent current document.1
    workspace.usages current text name false =
        usages current text name ++
          others.flatMap (fun document => usages document.1 document.2 name) ∧
      workspace.usages current text name true =
        (Workspace.declaration? current text name).toList ++ usages current text name ++
          others.flatMap (fun document =>
            usages document.1 document.2 name ++
              (Workspace.declaration? document.1 document.2 name).toList) ∧
      ∀ document ∈ (current, text) :: others, ∀ declaration,
        Workspace.declaration? document.1 document.2 name = some declaration →
          (workspace.usages current text name true).countP (·.sameStart declaration) = 1 := by
  intro others
  have listed : workspace.otherDocuments current = others := rfl
  refine ⟨?_, ?_, ?_⟩
  · rw [Workspace.usages_eq wellFormed, listed, Workspace.contribution_false]
    rfl
  · rw [Workspace.usages_eq wellFormed, usagesWithDeclaration_eq, listed,
      Workspace.contribution_true]
    rfl
  · intro document member declaration declared
    rw [Workspace.countP_usages wellFormed, listed]
    refine Workspace.countP_flatMap_contribution ?_ member declared
    refine List.pairwise_cons.mpr ⟨?_, Workspace.otherDocuments_distinct wellFormed current⟩
    intro other isOther
    exact Workspace.current_same_eq_false isOther

/-- A current file under another spelling, with a text that is not the one on the disk, and
a document that declares the name and uses it. -/
theorem workspace_usages_concatenate_unsaved :
    let workspace : Workspace :=
      { disk := ⟨.directory [(['b', '.', 'm', 'k'], .file "C=$(C)".toUTF8),
          (['a', '.', 'm', 'k'], .file "C=".toUTF8)], []⟩
        root := ⟨['.']⟩
        settings := {} }
    let current : Path := ⟨['a', '.', 'm', 'k']⟩
    let text : Text := ['C', ':', 'C']
    let other : Path := ⟨['.', '/', 'b', '.', 'm', 'k']⟩
    let used : Location := ⟨other, ⟨⟨0, 4⟩, ⟨0, 5⟩⟩⟩
    let declared : Location := ⟨other, ⟨⟨0, 0⟩, ⟨0, 1⟩⟩⟩
    workspace.disk.root.WellFormed ∧
      workspace.usages current text ['C'] true =
        [⟨current, ⟨⟨0, 0⟩, ⟨0, 1⟩⟩⟩, ⟨current, ⟨⟨0, 2⟩, ⟨0, 3⟩⟩⟩, used, declared] ∧
      Workspace.declaration? other ['C', '=', '$', '(', 'C', ')'] ['C'] = some declared ∧
      (workspace.usages current text ['C'] true).countP (·.sameStart declared) = 1 := by
  intro workspace current text other used declared
  have wellFormed : workspace.disk.root.WellFormed :=
    .directory (by decide) (by decide)
      (List.forall_mem_cons.mpr ⟨.file _, List.forall_mem_singleton.mpr (.file _)⟩)
  have files : workspace.files.filter workspace.selects =
      [other, ⟨['.', '/', 'a', '.', 'm', 'k']⟩] := by decide
  have after : other.notAfter ⟨['.', '/', 'a', '.', 'm', 'k']⟩ = false := by decide
  have found : workspace.discover = [⟨['.', '/', 'a', '.', 'm', 'k']⟩, other] := by
    rw [Workspace.discover, files]
    simp [List.mergeSort, after]
  have listed : (workspace.documents.filter fun document =>
      !workspace.isCurrent current document.1) = [(other, ['C', '=', '$', '(', 'C', ')'])] := by
    simp only [Workspace.documents, Workspace.readings, found]
    decide
  have isDeclared : Workspace.declaration? other ['C', '=', '$', '(', 'C', ')'] ['C'] =
    some declared := by decide
  obtain ⟨_, concatenated, once⟩ :=
    workspace_usages_concatenate workspace wellFormed current text ['C']
  refine ⟨wellFormed, ?_, isDeclared, once (other, _) ?_ declared isDeclared⟩
  · rw [concatenated, listed]
    decide
  · rw [listed]
    exact List.mem_cons_of_mem _ List.mem_cons_self

end MakefileNav
