/-
Module: MakefileNav.Proofs.PrintedOutput
Purpose: What commands print, and that a command which fails has printed nothing.
Main exports:
  Action.Prints, Action.Silent, Action.PrintsOnSuccess, Action.gives_mapM,
  Command.run_printsOnSuccess, Command.namedDocuments_eq_ok_iff,
  Command.namedDocuments_eq_error_iff, Command.documentsAt, Command.checkFiles_gives, Command.checkFiles_prints, Command.readableReports,
  failing_commands_print_nothing
-/
import MakefileNav.Proofs.ActionResults
import MakefileNav.Proofs.Discovery
import MakefileNav.Proofs.ReportLines

namespace MakefileNav

/-!
A command reads, looks things up, loads settings and logs, in an order of its own, and any of
these steps can fail or be followed by one that fails.  What they have in common is that none
of them prints.  Every command prints once, as its last step before it returns, so that a
failure always comes before the output.
-/

namespace Action

variable {α β : Type}

/-! ### Steps that print -/

/-- A computation adds a text to the output, whether it fails or not. -/
def Prints (action : Action α) (text : Text) : Prop :=
  ∀ transcript, (action.runFrom transcript).2.output = transcript.output ++ text

/-- A computation leaves the output as it is, whether it fails or not. -/
def Silent (action : Action α) : Prop :=
  ∀ transcript, (action.runFrom transcript).2.output = transcript.output

/-- A computation that fails leaves the output as it is. -/
def PrintsOnSuccess (action : Action α) : Prop :=
  ∀ transcript failure, (action.runFrom transcript).1 = .error failure →
    (action.runFrom transcript).2.output = transcript.output

theorem silent_pure (value : α) : Silent (pure value) :=
  fun _ => rfl

theorem silent_throw (failure : Failure) : Silent (throw failure : Action α) :=
  fun _ => rfl

theorem silent_log (level : Level) (message : List Text) : Silent (log level message) :=
  fun _ => rfl

theorem Silent.bind {action : Action α} {next : α → Action β} (first : action.Silent)
    (second : ∀ value, (next value).Silent) : Silent (action >>= next) := by
  intro transcript
  have before := first transcript
  rw [runFrom_bind]
  split
  · rename_i value said ran
    rw [ran] at before
    rw [second value said, before]
  · rename_i failure said ran
    rwa [ran] at before

theorem silent_forM {step : α → Action Unit} (silent : ∀ value, (step value).Silent)
    (values : List α) : Silent (values.forM step) := by
  induction values with
  | nil => exact silent_pure ()
  | cons value rest ih => exact (silent value).bind fun _ => ih

theorem silent_mapM {step : α → Action β} (silent : ∀ value, (step value).Silent)
    (values : List α) : Silent (values.mapM step) := by
  induction values with
  | nil => exact silent_pure []
  | cons value rest ih =>
      rw [List.mapM_cons]
      exact (silent value).bind fun _ => ih.bind fun _ => silent_pure _

/-- Silent steps may come before a computation that prints on success only. -/
theorem Silent.printsOnSuccess {action : Action α} {next : α → Action β}
    (first : action.Silent) (second : ∀ value, (next value).PrintsOnSuccess) :
    PrintsOnSuccess (action >>= next) := by
  intro transcript failure
  have before := first transcript
  rw [runFrom_bind]
  split
  · rename_i value said ran
    rw [ran] at before
    intro failed
    rw [second value said failure failed, before]
  · rename_i failure' said ran
    rw [ran] at before
    exact fun _ => before

/-- Silent computations print on success only, since they never print. -/
theorem Silent.toPrintsOnSuccess {action : Action α} (silent : action.Silent) :
    action.PrintsOnSuccess :=
  fun transcript _ _ => silent transcript

/-- To print and return is a success. -/
theorem printsOnSuccess_print (text : Text) (value : α) :
    PrintsOnSuccess (print text >>= fun _ => (pure value : Action α)) := by
  intro transcript failure failed
  cases failed

/-- Nothing is printed before it is known that there is something to print. -/
theorem printsOnSuccess_unless (condition : Prop) [Decidable condition] (failure : Failure)
    (text : Text) (value : α) :
    PrintsOnSuccess (do
      if condition then throw failure
      print text
      return value) := by
  split
  · exact (silent_throw failure).printsOnSuccess fun _ => printsOnSuccess_print text value
  · exact printsOnSuccess_print text value

theorem prints_print (text : Text) (value : α) :
    Prints (print text >>= fun _ => (pure value : Action α)) text :=
  fun _ => rfl

/-- A silent step that succeeds leaves the output to what comes after it. -/
theorem Prints.after {action : Action α} {next : α → Action β} {value : α} {text : Text}
    (succeeds : action.Gives (.ok value)) (silent : action.Silent)
    (second : (next value).Prints text) : Prints (action >>= next) text := by
  intro transcript
  have result := succeeds transcript
  have before := silent transcript
  rw [runFrom_bind]
  split
  · rename_i value' said ran
    rw [ran] at result before
    cases result
    rw [second said, before]
  · rename_i failure said ran
    rw [ran] at result
    cases result

/-! ### Steps for every element of a list -/

theorem gives_mapM {step : α → Action β} {result : α → Except Failure β}
    (gives : ∀ value, (step value).Gives (result value)) (values : List α) :
    Gives (values.mapM step) (values.mapM result) := by
  induction values with
  | nil => exact gives_pure []
  | cons value rest ih =>
      rw [List.mapM_cons, List.mapM_cons]
      exact (gives value).bind fun _ => ih.bind fun _ => gives_pure _

end Action

namespace Command

/-! ### Commands -/

theorem readDocument_silent (disk : Disk) (file : Path) : (readDocument disk file).Silent := by
  unfold readDocument
  cases disk.read file with
  | ok text => exact Action.silent_pure text
  | error fault => exact (Action.silent_log _ _).bind fun _ => Action.silent_throw _

theorem nameUnder_silent (spot : Spot) (text : Text) : (nameUnder spot text).Silent := by
  unfold nameUnder
  cases nameAt? text spot.place with
  | some name => exact Action.silent_pure name
  | none => exact Action.silent_throw _

theorem loadSettings_silent (disk : Disk) (root : Path) : (loadSettings disk root).Silent := by
  unfold loadSettings
  split
  · exact (Action.silent_log _ _).bind fun _ => Action.silent_pure _
  · exact Action.silent_throw _
  · split
    · exact Action.silent_throw _
    · exact Action.silent_pure _

theorem openWorkspace_silent (disk : Disk) (root : Path) : (openWorkspace disk root).Silent :=
  (loadSettings_silent disk root).bind fun _ => Action.silent_pure _

theorem logDiscovery_silent (workspace : Workspace) : (logDiscovery workspace).Silent := by
  refine (Action.silent_log _ _).bind fun _ => Action.silent_forM ?_ _
  rintro ⟨file, reading⟩
  cases reading with
  | ok text => exact Action.silent_pure ()
  | error fault => exact Action.silent_log _ _

theorem logSearch_silent (name : Text) : (logSearch name).Silent := by
  unfold logSearch
  split
  · exact Action.silent_log _ _
  · exact Action.silent_pure ()

theorem checkDocument_silent (settings : Settings) (document : Path × Text) :
    (checkDocument settings document).Silent := by
  refine (Action.silent_forM (fun _ => logSearch_silent _) _).bind fun _ => ?_
  exact (Action.silent_log _ _).bind fun _ => Action.silent_pure _

theorem documentsToCheck_silent (workspace : Workspace) (files : List Path) :
    (documentsToCheck workspace files).Silent := by
  unfold documentsToCheck
  split
  · exact (logDiscovery_silent workspace).bind fun _ => Action.silent_pure _
  · refine Action.silent_mapM (fun file => ?_) files
    exact (readDocument_silent workspace.disk file).bind fun _ => Action.silent_pure _

/-- A command that fails has printed nothing.  Only a watch goes on after the failure of a
check, and may have printed before it fails. -/
theorem run_printsOnSuccess (disk : Disk) (root : Path) (format : Format) {command : Command}
    (once : command ≠ .watch) : (run disk root format command).PrintsOnSuccess := by
  cases command with
  | check files =>
      refine (openWorkspace_silent disk root).printsOnSuccess fun workspace => ?_
      refine (documentsToCheck_silent workspace files).printsOnSuccess fun documents => ?_
      refine (Action.silent_mapM (checkDocument_silent _) documents).printsOnSuccess fun _ => ?_
      exact Action.printsOnSuccess_print _ _
  | complete spot =>
      refine (readDocument_silent disk spot.file).printsOnSuccess fun _ => ?_
      exact Action.printsOnSuccess_print _ _
  | definition spot =>
      refine (readDocument_silent disk spot.file).printsOnSuccess fun text => ?_
      refine (nameUnder_silent spot text).printsOnSuccess fun name => ?_
      refine (openWorkspace_silent disk root).printsOnSuccess fun workspace => ?_
      dsimp only
      split
      · refine (logDiscovery_silent workspace).printsOnSuccess fun _ => ?_
        exact Action.printsOnSuccess_unless _ _ _ _
      · exact Action.printsOnSuccess_unless _ _ _ _
  | hover spot =>
      refine (readDocument_silent disk spot.file).printsOnSuccess fun text => ?_
      refine (nameUnder_silent spot text).printsOnSuccess fun name => ?_
      dsimp only
      split
      · exact (Action.silent_throw _).toPrintsOnSuccess
      · split
        · exact (logSearch_silent name).printsOnSuccess fun _ => Action.printsOnSuccess_print _ _
        · exact Action.printsOnSuccess_print _ _
  | references spot withDeclaration =>
      refine (readDocument_silent disk spot.file).printsOnSuccess fun text => ?_
      refine (nameUnder_silent spot text).printsOnSuccess fun name => ?_
      refine (openWorkspace_silent disk root).printsOnSuccess fun workspace => ?_
      refine (logSearch_silent name).printsOnSuccess fun _ => ?_
      refine (logDiscovery_silent workspace).printsOnSuccess fun _ => ?_
      refine (Action.silent_forM (fun _ => logSearch_silent name) _).printsOnSuccess fun _ => ?_
      refine (Action.silent_log _ _).printsOnSuccess fun _ => ?_
      exact Action.printsOnSuccess_print _ _
  | resolve spot =>
      refine (readDocument_silent disk spot.file).printsOnSuccess fun _ => ?_
      exact Action.printsOnSuccess_print _ _
  | symbols file =>
      refine (readDocument_silent disk file).printsOnSuccess fun _ => ?_
      exact Action.printsOnSuccess_print _ _
  | watch => exact absurd rfl once

/-! ### Documents that a check looks at -/

/-- What is done with a result does not make up for a failure. -/
theorem map_eq_error_iff {α β : Type} {result : Except Failure α} {next : α → β}
    {failure : Failure} : result.map next = .error failure ↔ result = .error failure := by
  cases result <;> simp [Except.map]

/-- Named files with their texts, or the failure of the first that cannot be read. -/
def namedDocuments (disk : Disk) (files : List Path) : Except Failure (List (Path × Text)) :=
  files.mapM fun file => documentAt disk file >>= fun text => .ok (file, text)

/-- The documents that a check looks at, or why it cannot look at them. -/
def documentsAt (workspace : Workspace) (files : List Path) :
    Except Failure (List (Path × Text)) :=
  if files.isEmpty then .ok workspace.documents else namedDocuments workspace.disk files

theorem documentsToCheck_gives (workspace : Workspace) (files : List Path) :
    (documentsToCheck workspace files).Gives (documentsAt workspace files) := by
  unfold documentsToCheck documentsAt
  split
  · exact (logDiscovery_gives workspace).after (Action.gives_pure _)
  · refine Action.gives_mapM (fun file => ?_) files
    exact (readDocument_gives workspace.disk file).bind fun _ => Action.gives_pure _

theorem namedDocuments_cons (disk : Disk) (file : Path) (files : List Path) :
    namedDocuments disk (file :: files) =
      match disk.read file with
      | .error _ => .error (.fileNotFound file)
      | .ok text => (namedDocuments disk files).map ((file, text) :: ·) := by
  unfold namedDocuments documentAt
  rw [List.mapM_cons]
  cases disk.read file with
  | error fault => rfl
  | ok text =>
      change (namedDocuments disk files >>= fun documents => .ok ((file, text) :: documents)) =
        (namedDocuments disk files).map ((file, text) :: ·)
      cases namedDocuments disk files <;> rfl

/-- Named files are read in their order, each of them once. -/
theorem namedDocuments_eq_ok_iff {disk : Disk} {files : List Path}
    {documents : List (Path × Text)} :
    namedDocuments disk files = .ok documents ↔
      documents.map Prod.fst = files ∧
        ∀ document ∈ documents, disk.read document.1 = .ok document.2 := by
  induction files generalizing documents with
  | nil =>
      rw [List.map_eq_nil_iff]
      constructor
      · rintro ⟨⟩
        exact ⟨rfl, fun _ absent => absurd absent List.not_mem_nil⟩
      · rintro ⟨rfl, -⟩
        rfl
  | cons file rest ih =>
      rw [namedDocuments_cons]
      constructor
      · intro found
        cases reading : disk.read file with
        | error fault => simp only [reading] at found; cases found
        | ok text =>
            cases others : namedDocuments disk rest with
            | error failure => simp only [reading, others] at found; cases found
            | ok remaining =>
                simp only [reading, others] at found
                cases found
                obtain ⟨named, read⟩ := ih.mp others
                exact ⟨by rw [List.map_cons, named], List.forall_mem_cons.mpr ⟨reading, read⟩⟩
      · rintro ⟨named, read⟩
        cases documents with
        | nil => cases named
        | cons document remaining =>
            obtain ⟨rfl, others⟩ := List.cons.inj named
            obtain ⟨reading, remainingRead⟩ := List.forall_mem_cons.mp read
            rw [reading, ih.mpr ⟨others, remainingRead⟩]
            rfl

/-- The first named file that cannot be read is the one that is reported. -/
theorem namedDocuments_eq_error_iff {disk : Disk} {files : List Path} {failure : Failure} :
    namedDocuments disk files = .error failure ↔
      ∃ before file after, files = before ++ file :: after ∧
        (∀ earlier ∈ before, ∃ text, disk.read earlier = .ok text) ∧
        (∃ fault, disk.read file = .error fault) ∧ failure = .fileNotFound file := by
  induction files with
  | nil =>
      constructor
      · rintro ⟨⟩
      · rintro ⟨before, file, after, nothing, -⟩
        exact absurd nothing.symm (by simp)
  | cons file rest ih =>
      rw [namedDocuments_cons]
      cases reading : disk.read file with
      | error fault =>
          constructor
          · rintro ⟨⟩
            exact ⟨[], file, rest, rfl, fun _ absent => absurd absent List.not_mem_nil,
              ⟨fault, reading⟩, rfl⟩
          · rintro ⟨before, unreadable, after, parts, earlier, unread, rfl⟩
            cases before with
            | nil =>
                obtain ⟨rfl, -⟩ := List.cons.inj parts
                rfl
            | cons first others =>
                obtain ⟨rfl, -⟩ := List.cons.inj parts
                obtain ⟨text, read⟩ := earlier file List.mem_cons_self
                rw [reading] at read
                cases read
      | ok text =>
          dsimp only
          rw [map_eq_error_iff, ih]
          constructor
          · rintro ⟨before, unreadable, after, rfl, earlier, unread, rfl⟩
            exact ⟨file :: before, unreadable, after, rfl,
              List.forall_mem_cons.mpr ⟨⟨text, reading⟩, earlier⟩, unread, rfl⟩
          · rintro ⟨before, unreadable, after, parts, earlier, ⟨fault, unread⟩, rfl⟩
            cases before with
            | nil =>
                obtain ⟨rfl, -⟩ := List.cons.inj parts
                rw [reading] at unread
                cases unread
            | cons first others =>
                obtain ⟨rfl, rfl⟩ := List.cons.inj parts
                exact ⟨others, unreadable, after, rfl, fun other present =>
                  earlier other (List.mem_cons_of_mem _ present), ⟨fault, unread⟩, rfl⟩

/-! ### Checks -/

theorem checkDocument_gives (settings : Settings) (document : Path × Text) :
    (checkDocument settings document).Gives (.ok (reportOn settings document)) := by
  refine (Action.gives_forM (fun _ => logSearch_gives _) _).after ?_
  exact (Action.gives_log _ _).after (Action.gives_pure _)

/-- Checking documents that can be read always succeeds. -/
theorem checkDocuments_gives (settings : Settings) (documents : List (Path × Text)) :
    Action.Gives (documents.mapM (checkDocument settings))
      (.ok (documents.map (reportOn settings))) := by
  have gives := Action.gives_mapM (checkDocument_gives settings) documents
  have succeeds : documents.mapM (fun document => .ok (reportOn settings document)) =
      (.ok (documents.map (reportOn settings)) : Except Failure (List FileReport)) :=
    List.mapM_pure
  rwa [succeeds] at gives

/-- A check comes to what the findings in its documents come to. -/
theorem checkFiles_gives (disk : Disk) (root : Path) (format : Format) (files : List Path) :
    (checkFiles disk root format files).Gives
      (workspaceAt disk root >>= fun workspace =>
        documentsAt workspace files >>= fun documents =>
          .ok (checkCode (documents.map (reportOn workspace.settings)))) := by
  refine (openWorkspace_gives disk root).bind fun workspace => ?_
  refine (documentsToCheck_gives workspace files).bind fun documents => ?_
  refine (checkDocuments_gives workspace.settings documents).after ?_
  exact (Action.gives_print _).after (Action.gives_pure _)

/-- With settings, a check fails only for the sake of its documents. -/
theorem checkFiles_start {disk : Disk} {root : Path} {settings : Settings}
    (loaded : settingsAt disk root = .ok settings) (format : Format) (files : List Path) :
    (checkFiles disk root format files).start.1 =
      (documentsAt { disk, root, settings } files).map fun documents =>
        checkCode (documents.map (reportOn settings)) := by
  rw [(checkFiles_gives disk root format files).start, workspaceAt, loaded]
  rfl

/-- A check that succeeds prints the report on its documents. -/
theorem checkFiles_prints {disk : Disk} {root : Path} (format : Format) {files : List Path}
    {settings : Settings} {documents : List (Path × Text)}
    (loaded : settingsAt disk root = .ok settings)
    (readable : documentsAt { disk, root, settings } files = .ok documents) :
    (checkFiles disk root format files).Prints
      (Report.ofCheck format root (documents.map (reportOn settings))) := by
  have opened : (openWorkspace disk root).Gives (.ok { disk, root, settings }) := by
    have gives := openWorkspace_gives disk root
    rwa [workspaceAt, loaded] at gives
  have found := documentsToCheck_gives { disk, root, settings } files
  rw [readable] at found
  refine Action.Prints.after opened (openWorkspace_silent disk root) ?_
  refine Action.Prints.after found (documentsToCheck_silent _ files) ?_
  refine Action.Prints.after (checkDocuments_gives settings documents)
    (Action.silent_mapM (checkDocument_silent settings) documents) ?_
  exact Action.prints_print _ _

/-- Findings in the Makefiles of a workspace, those left out that cannot be read. -/
def readableReports (workspace : Workspace) : List FileReport :=
  workspace.discover.filterMap fun file =>
    (workspace.disk.read file).toOption.map fun text => reportOn workspace.settings (file, text)

theorem map_reportOn_documents (workspace : Workspace) :
    workspace.documents.map (reportOn workspace.settings) = readableReports workspace := by
  rw [Workspace.documents, Workspace.readings, List.filterMap_map, List.map_filterMap]
  unfold readableReports
  congr
  funext file
  rw [Function.comp_apply]
  cases workspace.disk.read file <;> rfl

end Command

/-- A command other than a watch that fails has printed nothing.  A check of named files fails
for the first of them that cannot be read, and for no other reason once there are settings,
while a check of the workspace passes over the files that cannot be read and reports on all
others.  In lines, it prints what is found in these others and nothing else. -/
theorem failing_commands_print_nothing (disk : Disk) (root : Path) (format : Format) :
    (∀ command failure transcript, command ≠ .watch →
      (Command.run disk root format command).start = (.error failure, transcript) →
        transcript.output = []) ∧
    ∀ settings, Command.settingsAt disk root = .ok settings →
      (∀ files failure, files ≠ [] →
        ((Command.run disk root format (.check files)).start.1 = .error failure ↔
          ∃ before file after, files = before ++ file :: after ∧
            (∀ earlier ∈ before, ∃ text, disk.read earlier = .ok text) ∧
            (∃ fault, disk.read file = .error fault) ∧ failure = .fileNotFound file)) ∧
      let documents := Workspace.documents { disk, root, settings }
      let reports := Command.readableReports { disk, root, settings }
      let ran := (Command.run disk root format (.check [])).start
      ran.1 = .ok (Command.checkCode reports) ∧
        ran.2.output = Report.ofCheck format root reports ∧
        (format = .text → ran.2.output = Text.unlines
          (Report.linesOf root documents.length (Report.findings settings documents))) := by
  refine ⟨?_, fun settings loaded => ⟨?_, ?_⟩⟩
  · intro command failure transcript once failed
    have printed := Command.run_printsOnSuccess disk root format once {} failure
    rw [← Action.start, failed] at printed
    exact printed rfl
  · intro files failure named
    have chosen : Command.documentsAt { disk, root, settings } files =
        Command.namedDocuments disk files := by
      rw [Command.documentsAt, if_neg (by simpa using named)]
    rw [← Command.namedDocuments_eq_error_iff, Command.run,
      Command.checkFiles_start loaded format files, chosen, Command.map_eq_error_iff]
  · have everything : Command.documentsAt { disk, root, settings } [] =
        .ok (Workspace.documents { disk, root, settings }) := rfl
    have printed := Command.checkFiles_prints format loaded everything {}
    have result := Command.checkFiles_start loaded format []
    rw [everything, Except.map] at result
    have lines := Report.ofCheck_text settings (Workspace.documents { disk, root, settings }) root
    have reported := Command.map_reportOn_documents { disk, root, settings }
    rw [reported] at printed result lines
    refine ⟨result, printed, ?_⟩
    rintro rfl
    exact printed.trans lines

/-- Of three named files the first has a finding, the second is no text and the third is
missing.  The check fails for the second, and that of the workspace reports on the first. -/
theorem failing_commands_print_nothing_three_files :
    let disk : Disk :=
      ⟨.directory [(['a', '.', 'm', 'k'], .file "a: $(X)\n".toUTF8),
        (['b', '.', 'm', 'k'], .file ⟨#[255]⟩)], []⟩
    let root : Path := ⟨['.']⟩
    let named : List Path := [⟨['a', '.', 'm', 'k']⟩, ⟨['b', '.', 'm', 'k']⟩, ⟨['c']⟩]
    let report := Command.reportOn {} (⟨['.', '/', 'a', '.', 'm', 'k']⟩,
      ['a', ':', ' ', '$', '(', 'X', ')', '\n'])
    Command.settingsAt disk root = .ok {} ∧ report.diagnostics ≠ [] ∧
      (Command.run disk root .text (.check named)).start.1 =
        .error (.fileNotFound ⟨['b', '.', 'm', 'k']⟩) ∧
      (Command.run disk root .text (.check named)).start.2.output = [] ∧
      (Command.run disk root .text (.check [])).start.1 = .ok 1 ∧
      (Command.run disk root .text (.check [])).start.2.output =
        Report.ofCheck .text root [report] ∧
      (Command.run disk root .text (.check [])).start.2.output = Text.unlines
        ["a.mk:0:5: warning [undefined-variable] Undefined variable 'X'", [],
          "0 errors, 1 warnings, 1 total in 1 files"] := by
  intro disk root named report
  obtain ⟨nothing, checks⟩ := failing_commands_print_nothing disk root .text
  have loaded : Command.settingsAt disk root = .ok {} := by decide
  obtain ⟨first, workspace⟩ := checks {} loaded
  have found : Workspace.discover { disk, root, settings := {} } =
      [⟨['.', '/', 'a', '.', 'm', 'k']⟩, ⟨['.', '/', 'b', '.', 'm', 'k']⟩] :=
    Workspace.discover_eq_of_files (by decide) (by decide)
  have readable : Workspace.documents { disk, root, settings := {} } =
      [(⟨['.', '/', 'a', '.', 'm', 'k']⟩, ['a', ':', ' ', '$', '(', 'X', ')', '\n'])] := by
    rw [Workspace.documents, Workspace.readings, found]
    decide +kernel
  have reports : Command.readableReports { disk, root, settings := {} } = [report] := by
    rw [← Command.map_reportOn_documents, readable, List.map_singleton]
  have failed : (Command.run disk root .text (.check named)).start.1 =
      .error (.fileNotFound ⟨['b', '.', 'm', 'k']⟩) := by
    refine (first named _ (by decide)).mpr
      ⟨[⟨['a', '.', 'm', 'k']⟩], _, [⟨['c']⟩], rfl, ?_, ⟨.notText, by decide⟩, rfl⟩
    exact List.forall_mem_singleton.mpr ⟨['a', ':', ' ', '$', '(', 'X', ')', '\n'], by decide⟩
  rw [reports, readable] at workspace
  obtain ⟨result, printed, lines⟩ := workspace
  refine ⟨loaded, by decide, failed, ?_, result.trans (by decide), printed,
    (lines rfl).trans (by decide +kernel)⟩
  exact nothing (.check named) _ _ (by decide) (Prod.ext failed rfl)

end MakefileNav
