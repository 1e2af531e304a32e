/-
Module: MakefileNav.Proofs.MissingDeclarations
Purpose: When a command reports that a name is not declared.
Main exports:
  Workspace.eq_of_isCurrent, Workspace.definitions_saved_eq_nil_iff,
  Command.printDefinitions_gives, Command.printHover_gives,
  Command.definition_symbolNotFound_iff, Command.hover_symbolNotFound_iff,
  symbolNotFound_scope, hover_reports_declared_name
-/
import MakefileNav.Proofs.ActionResults
import MakefileNav.Proofs.DefinitionLookup

namespace MakefileNav

/-!
Two commands report that a name is not declared, and with the same words: neither in its
file nor in any other Makefile of the workspace.  The search for definitions looks at all of
them, so that its report is true.  It leaves out the documents that are the current file
under another path, but these hold the text that it has read.  The description under a
cursor looks at its own file only, and then the report may be false.
-/

namespace Workspace

variable {workspace : Workspace} {current : Path} {text name : Text}

/-- The current file has one text, under whatever path it is read. -/
theorem eq_of_isCurrent {file : Path} {other : Text}
    (reading : workspace.disk.read current = .ok text)
    (reading' : workspace.disk.read file = .ok other)
    (isCurrent : workspace.isCurrent current file = true) : other = text := by
  obtain ⟨place, bytes, located, isFile, decoded⟩ := Disk.exists_canonical?_of_read reading
  obtain ⟨place', bytes', located', isFile', decoded'⟩ := Disk.exists_canonical?_of_read reading'
  obtain rfl : place' = place := by simpa [Workspace.isCurrent, located, located'] using isCurrent
  rw [isFile, Option.some.injEq, Node.Outline.file.injEq] at isFile'
  subst isFile'
  rw [decoded, Option.some.injEq] at decoded'
  exact decoded'.symm

/-- A search from the text on the disk finds nothing exactly if no Makefile of the workspace
declares the name. -/
theorem definitions_saved_eq_nil_iff (reading : workspace.disk.read current = .ok text) :
    workspace.definitions current text name = [] ↔
      ¬text.Declares name ∧ ∀ file ∈ workspace.discover, ∀ other,
        workspace.disk.read file = .ok other → ¬other.Declares name := by
  rw [definitions_eq_nil_iff]
  constructor
  · rintro ⟨undeclared, elsewhere⟩
    refine ⟨undeclared, ?_⟩
    intro file listed other reading'
    cases isCurrent : workspace.isCurrent current file with
    | false => exact elsewhere file listed other reading' isCurrent
    | true =>
        rw [eq_of_isCurrent reading reading' isCurrent]
        exact undeclared
  · rintro ⟨undeclared, elsewhere⟩
    exact ⟨undeclared, fun file listed other reading' _ => elsewhere file listed other reading'⟩

end Workspace

namespace Command

/-- What the search for definitions comes to. -/
theorem printDefinitions_gives (disk : Disk) (root : Path) (format : Format) (spot : Spot) :
    (printDefinitions disk root format spot).Gives (do
      let text ← documentAt disk spot.file
      let name ← nameIn spot text
      let workspace ← workspaceAt disk root
      if (workspace.definitions spot.file text name).isEmpty then
        .error (notDeclared spot.file text name)
      else .ok 0) := by
  unfold printDefinitions
  refine (readDocument_gives disk spot.file).bind fun text => ?_
  refine (nameUnder_gives spot text).bind fun name => ?_
  refine (openWorkspace_gives disk root).bind fun workspace => ?_
  dsimp only
  split
  on_goal 1 => refine (logDiscovery_gives workspace).after ?_
  all_goals
    split
    · exact Action.gives_throw_bind _ _
    · exact (Action.gives_print _).after (Action.gives_pure _)

/-- What the description of a name comes to. -/
theorem printHover_gives (disk : Disk) (format : Format) (spot : Spot) :
    (printHover disk format spot).Gives (do
      let text ← documentAt disk spot.file
      let name ← nameIn spot text
      if (hover? spot.file text spot.place).isNone then .error (notDeclared spot.file text name)
      else .ok 0) := by
  unfold printHover
  refine (readDocument_gives disk spot.file).bind fun text => ?_
  refine (nameUnder_gives spot text).bind fun name => ?_
  cases hover? spot.file text spot.place with
  | none => exact Action.gives_throw _
  | some description =>
      dsimp only
      split
      · refine (logSearch_gives name).after ?_
        exact (Action.gives_print _).after (Action.gives_pure _)
      · exact (Action.gives_print _).after (Action.gives_pure _)

section

variable {disk : Disk} {root file : Path} {format : Format} {spot : Spot}
  {declared : List Text} {symbol : Text}

/-- Before a name can be missing, there has to be one at the spot. -/
theorem at_spot_symbolNotFound_iff {next : Text → Text → Except Failure ExitCode} :
    (do
        let text ← documentAt disk spot.file
        let name ← nameIn spot text
        next text name) = .error (.symbolNotFound file declared symbol) ↔
      ∃ text name, disk.read spot.file = .ok text ∧ nameAt? text spot.place = some name ∧
        next text name = .error (.symbolNotFound file declared symbol) := by
  unfold documentAt
  cases reading : disk.read spot.file with
  | error fault => simp [bind, Except.bind]
  | ok text =>
      unfold nameIn
      cases named : nameAt? text spot.place with
      | none => simp [bind, Except.bind, named]
      | some name => simp [bind, Except.bind, named]

/-- The report of a missing name, read back. -/
theorem notDeclared_eq_iff {text name : Text} :
    notDeclared spot.file text name = .symbolNotFound file declared symbol ↔
      spot.file = file ∧ (declarations spot.file text).map Symbol.name = declared ∧
        name = symbol := by
  rw [notDeclared, Failure.symbolNotFound.injEq]

/-- The search for definitions reports a missing name exactly if neither its file nor any
Makefile of the workspace declares it. -/
theorem definition_symbolNotFound_iff :
    (run disk root format (.definition spot)).start.1 =
        .error (.symbolNotFound file declared symbol) ↔
      spot.file = file ∧ ∃ text settings, disk.read spot.file = .ok text ∧
        nameAt? text spot.place = some symbol ∧
        (declarations spot.file text).map Symbol.name = declared ∧
        settingsAt disk root = .ok settings ∧ ¬text.Declares symbol ∧
        ∀ other ∈ Workspace.discover { disk, root, settings }, ∀ otherText,
          disk.read other = .ok otherText → ¬otherText.Declares symbol := by
  rw [run, (printDefinitions_gives disk root format spot).start, at_spot_symbolNotFound_iff]
  unfold workspaceAt
  cases loaded : settingsAt disk root with
  | error failure =>
      have different : failure ≠ .symbolNotFound file declared symbol := by
        rintro rfl
        exact settingsAt_ne_symbolNotFound loaded
      simp [bind, Except.bind, different]
  | ok settings =>
      constructor
      · rintro ⟨text, name, reading, named, failed⟩
        dsimp only [bind, Except.bind] at failed
        split at failed
        · rename_i empty
          rw [List.isEmpty_iff, Workspace.definitions_saved_eq_nil_iff reading] at empty
          obtain ⟨sameFile, names, rfl⟩ := notDeclared_eq_iff.mp (Except.error.inj failed)
          exact ⟨sameFile, text, settings, reading, named, names, rfl, empty⟩
        · cases failed
      · rintro ⟨sameFile, text, settings', reading, named, names, found, undeclared⟩
        cases found
        have empty := (Workspace.definitions_saved_eq_nil_iff reading).mpr undeclared
        refine ⟨text, symbol, reading, named, ?_⟩
        dsimp only [bind, Except.bind]
        rw [if_pos (List.isEmpty_iff.mpr empty), notDeclared_eq_iff.mpr ⟨sameFile, names, rfl⟩]

/-- A name is described exactly if its own file declares it. -/
theorem hover?_isNone_iff {text name : Text} (named : nameAt? text spot.place = some name) :
    (hover? spot.file text spot.place).isNone ↔ ¬text.Declares name := by
  have undeclared : Workspace.declaration? spot.file text name = none ↔ ¬text.Declares name :=
    Workspace.declaration?_eq_none_iff
  simpa [hover?, named, Workspace.declaration?] using undeclared

/-- The description of a name reports it missing exactly if its own file does not declare
it. -/
theorem hover_symbolNotFound_iff :
    (run disk root format (.hover spot)).start.1 =
        .error (.symbolNotFound file declared symbol) ↔
      spot.file = file ∧ ∃ text, disk.read spot.file = .ok text ∧
        nameAt? text spot.place = some symbol ∧
        (declarations spot.file text).map Symbol.name = declared ∧ ¬text.Declares symbol := by
  rw [run, (printHover_gives disk format spot).start, at_spot_symbolNotFound_iff]
  constructor
  · rintro ⟨text, name, reading, named, failed⟩
    split at failed
    · rename_i undescribed
      obtain ⟨sameFile, names, rfl⟩ := notDeclared_eq_iff.mp (Except.error.inj failed)
      exact ⟨sameFile, text, reading, named, names, (hover?_isNone_iff named).mp undescribed⟩
    · cases failed
  · rintro ⟨sameFile, text, reading, named, names, undeclared⟩
    refine ⟨text, symbol, reading, named, ?_⟩
    rw [if_pos ((hover?_isNone_iff named).mpr undeclared),
      notDeclared_eq_iff.mpr ⟨sameFile, names, rfl⟩]

end

end Command

/-- Where a missing name has been looked for.  The search for definitions reports a name
missing exactly if neither the named file nor any readable Makefile of the workspace declares
it.  The description of a name makes the same report exactly if the named file does not
declare it, whatever the other Makefiles declare. -/
theorem symbolNotFound_scope (disk : Disk) (root : Path) (format : Format) (spot : Spot)
    (file : Path) (declared : List Text) (symbol : Text) :
    ((Command.run disk root format (.definition spot)).start.1 =
          .error (.symbolNotFound file declared symbol) ↔
        spot.file = file ∧ ∃ text settings, disk.read spot.file = .ok text ∧
          nameAt? text spot.place = some symbol ∧
          (declarations spot.file text).map Symbol.name = declared ∧
          Command.settingsAt disk root = .ok settings ∧ ¬text.Declares symbol ∧
          ∀ other ∈ Workspace.discover { disk, root, settings }, ∀ otherText,
            disk.read other = .ok otherText → ¬otherText.Declares symbol) ∧
      ((Command.run disk root format (.hover spot)).start.1 =
          .error (.symbolNotFound file declared symbol) ↔
        spot.file = file ∧ ∃ text, disk.read spot.file = .ok text ∧
          nameAt? text spot.place = some symbol ∧
          (declarations spot.file text).map Symbol.name = declared ∧ ¬text.Declares symbol) :=
  ⟨Command.definition_symbolNotFound_iff, Command.hover_symbolNotFound_iff⟩

/-- A name that another Makefile declares, where the search for definitions finds it, is
reported as declared nowhere. -/
theorem hover_reports_declared_name :
    let makefile : Text := ['M', 'a', 'k', 'e', 'f', 'i', 'l', 'e']
    let disk : Disk :=
      ⟨.directory [(makefile, .file "a: b\n".toUTF8),
        (['x', '.', 'm', 'k'], .file "b:\n".toUTF8)], []⟩
    let spot : Spot := ⟨⟨makefile⟩, ⟨0, 3⟩⟩
    let failure : Failure := .symbolNotFound ⟨makefile⟩ [['a']] ['b']
    let other : Path := ⟨['.', '/', 'x', '.', 'm', 'k']⟩
    (Command.run disk ⟨['.']⟩ .text (.hover spot)).start.1 = .error failure ∧
      Command.settingsAt disk ⟨['.']⟩ = .ok {} ∧
      other ∈ Workspace.discover { disk, root := ⟨['.']⟩, settings := {} } ∧
      (∃ text, disk.read other = .ok text ∧ text.Declares ['b']) ∧
      (Command.run disk ⟨['.']⟩ .text (.definition spot)).start.1 = .ok 0 ∧
      failure.rendered =
        Text.concat ["# Error: Symbol Not Found\n\n",
          "`b` is not declared in `Makefile` or any other Makefile in the workspace.\n\n",
          "## Declared in this file\n\n- `a`\n"] := by
  intro makefile disk spot failure other
  let workspace : Workspace := { disk, root := ⟨['.']⟩, settings := {} }
  let text : Text := ['a', ':', ' ', 'b', '\n']
  let declaration : Location := ⟨other, ⟨⟨0, 0⟩, ⟨0, 1⟩⟩⟩
  have found : workspace.discover = [⟨['.', '/'] ++ makefile⟩, other] :=
    Workspace.discover_eq_of_files (by decide) (by decide)
  have definitions : workspace.definitions ⟨makefile⟩ text ['b'] = [declaration] := by
    simp only [Workspace.definitions, Workspace.otherDocuments, Workspace.documents,
      Workspace.readings, found]
    decide
  have reading : Command.documentAt disk spot.file = .ok text := by decide
  have named : Command.nameIn spot text = .ok ['b'] := by decide
  have opened : Command.workspaceAt disk ⟨['.']⟩ = .ok workspace := by rfl
  have declared : Workspace.declaration? other ['b', ':', '\n'] ['b'] = some declaration := by
    decide
  refine ⟨by decide, by decide, ?_, ?_, ?_, by decide +kernel⟩
  · change other ∈ workspace.discover
    rw [found]
    exact List.mem_cons_of_mem _ List.mem_cons_self
  · exact ⟨_, by decide, Workspace.declares_of_declaration? declared⟩
  · rw [Command.run, (Command.printDefinitions_gives disk ⟨['.']⟩ .text spot).start]
    simp only [reading, named, opened, bind, Except.bind]
    rw [show spot.file = ⟨makefile⟩ from rfl, definitions]
    rfl

end MakefileNav
