/-
Module: MakefileNav.Proofs.CheckReports
Purpose: What the exit code and the report of a check tell about the checked documents.
Main exports:
  Lint.LacksTab, Lint.RefersToUnset, Lint.exists_error_mem_lint_iff,
  Lint.exists_warning_mem_lint_iff, Report.count_pos_iff, Command.Looks,
  Command.check_of_looks, Command.exists_looks, Command.checkCode_iff,
  check_determined_by_findings
-/
import MakefileNav.Proofs.LintFindings
import MakefileNav.Proofs.Pieces
import MakefileNav.Proofs.PrintedOutput

namespace MakefileNav

/-!
Of the four checks one finds errors and one finds warnings.  What these two look for can be
said about the text of a document alone, so the exit code, which counts errors and warnings,
says something about the texts.  The other two checks add lines to the report and change
nothing else.
-/

namespace Lint

/-! ### What errors and warnings tell about a document -/

/-- A line that is not blank is indented with a space, right below a line that has a colon and
is no comment. -/
def LacksTab (text : Text) : Prop :=
  ∃ number previous line, text.lines[number]? = some previous ∧
    text.lines[number + 1]? = some line ∧ line.head? = some ' ' ∧ ¬line.Blank ∧
    ':' ∈ previous ∧ previous.trim.head? ≠ some '#'

/-- A document refers to a variable that it does not declare and that is set neither by make
nor by the settings. -/
def RefersToUnset (file : Path) (text : Text) (predefined : List Text) : Prop :=
  ∃ name, Line.IsVariableName name ∧ '$' :: '(' :: (name ++ [')']) <:+: text ∧
    ¬DeclaresVariable file text name ∧ name ∉ builtinVariables ∧ name ∉ predefined

/-- A document has a finding about a missing tab if it lacks one. -/
theorem exists_tabRequired_mem_lint_iff (file : Path) (text : Text) (predefined : List Text) :
    (∃ range, ⟨.tabRequired, range⟩ ∈ lint file text predefined) ↔ LacksTab text := by
  simp only [tabRequired_mem_lint_iff]
  constructor
  · rintro ⟨range, number, previous, line, above, found, space, solid, colon, speaks, -⟩
    exact ⟨number, previous, line, above, found, space, solid, colon, speaks⟩
  · rintro ⟨number, previous, line, above, found, space, solid, colon, speaks⟩
    exact ⟨_, number, previous, line, above, found, space, solid, colon, speaks, rfl⟩

/-- A line refers to a variable somewhere if the reference stands in the line. -/
theorem exists_refersAt_iff (line name : Text) :
    (∃ offset, Line.RefersAt line name offset) ↔ '$' :: '(' :: (name ++ [')']) <:+: line := by
  constructor
  · rintro ⟨_, before, after, rfl, -⟩
    exact ⟨before, after, by simp⟩
  · rintro ⟨before, after, rfl⟩
    exact ⟨_, before, after, by simp, rfl⟩

/-- A document has a finding about an undefined variable if it refers to one. -/
theorem exists_undefinedVariable_mem_lint_iff (file : Path) (text : Text)
    (predefined : List Text) :
    (∃ name range, ⟨.undefinedVariable name, range⟩ ∈ lint file text predefined) ↔
      RefersToUnset file text predefined := by
  simp only [undefinedVariable_mem_lint_iff, mem_known_iff, not_or]
  have onLine {name : Text} (isName : Line.IsVariableName name) :
      '$' :: '(' :: (name ++ [')']) <:+: text ↔
        ∃ line ∈ text.lines, ∃ offset, Line.RefersAt line name offset := by
    have apart {c : Char} (other : Line.isIdentifierChar c = false)
        (sign : c ∉ ['$', '(', ')']) : c ∉ '$' :: '(' :: (name ++ [')']) := by
      have absent := Text.not_mem_of_accepted isName.isIdentifierChar other
      simp only [List.mem_cons, List.not_mem_nil, or_false, not_or] at sign
      simp [absent, sign]
    rw [Text.infix_iff_exists_line (apart rfl (by decide)) (apart rfl (by decide))]
    simp only [exists_refersAt_iff]
  constructor
  · rintro ⟨name, range, number, line, offset, found, isName, refers, unknown, -⟩
    exact ⟨name, isName, (onLine isName).mpr ⟨line, List.mem_of_getElem? found, offset, refers⟩,
      unknown⟩
  · rintro ⟨name, isName, stands, unknown⟩
    obtain ⟨line, member, offset, refers⟩ := (onLine isName).mp stands
    obtain ⟨number, found⟩ := List.mem_iff_getElem?.mp member
    exact ⟨name, _, number, line, offset, found, isName, refers, unknown, rfl⟩

/-! ### Severities -/

theorem exists_error_mem_lint_iff (file : Path) (text : Text) (predefined : List Text) :
    (∃ diagnostic ∈ lint file text predefined, diagnostic.severity = .error) ↔
      LacksTab text := by
  rw [← exists_tabRequired_mem_lint_iff file text predefined]
  constructor
  · rintro ⟨⟨finding, range⟩, member, severity⟩
    cases finding with
    | tabRequired => exact ⟨range, member⟩
    | _ => cases severity
  · rintro ⟨range, member⟩
    exact ⟨_, member, rfl⟩

theorem exists_warning_mem_lint_iff (file : Path) (text : Text) (predefined : List Text) :
    (∃ diagnostic ∈ lint file text predefined, diagnostic.severity = .warning) ↔
      RefersToUnset file text predefined := by
  rw [← exists_undefinedVariable_mem_lint_iff]
  constructor
  · rintro ⟨⟨finding, range⟩, member, severity⟩
    cases finding with
    | undefinedVariable name => exact ⟨name, range, member⟩
    | _ => cases severity
  · rintro ⟨name, range, member⟩
    exact ⟨_, member, rfl⟩

end Lint

namespace Report

/-! ### Severities that a report counts -/

variable (settings : Settings) (documents : List (Path × Text))

theorem count_pos_iff (severity : Severity) :
    0 < count severity (documents.map (Command.reportOn settings)) ↔
      ∃ document ∈ documents, ∃ diagnostic ∈
        lint document.1 document.2 settings.predefinedVariables,
          diagnostic.severity = severity := by
  rw [count_map_reportOn, List.countP_pos_iff]
  simp only [findings, List.mem_flatMap, List.mem_map, decide_eq_true_eq]
  constructor
  · rintro ⟨_, ⟨document, member, diagnostic, reported, rfl⟩, same⟩
    exact ⟨document, member, diagnostic, reported, same⟩
  · rintro ⟨document, member, diagnostic, reported, same⟩
    exact ⟨_, ⟨document, member, diagnostic, reported, rfl⟩, same⟩

end Report

namespace Command

/-! ### Checks that succeed -/

/-- A check looks at documents with settings: at those of the workspace, or at the named files,
which can all be read. -/
structure Looks (disk : Disk) (root : Path) (files : List Path) (settings : Settings)
    (documents : List (Path × Text)) : Prop where
  loaded : settingsAt disk root = .ok settings
  everything : files = [] → documents = Workspace.documents { disk, root, settings }
  named : files ≠ [] → documents.map Prod.fst = files ∧
    ∀ document ∈ documents, disk.read document.1 = .ok document.2

theorem documentsAt_eq_ok_iff {disk : Disk} {root : Path} {files : List Path}
    {settings : Settings} {documents : List (Path × Text)} :
    documentsAt { disk, root, settings } files = .ok documents ↔
      (files = [] → documents = Workspace.documents { disk, root, settings }) ∧
        (files ≠ [] → documents.map Prod.fst = files ∧
          ∀ document ∈ documents, disk.read document.1 = .ok document.2) := by
  cases files with
  | nil =>
      rw [documentsAt, if_pos List.isEmpty_nil, Except.ok.injEq, eq_comm]
      simp
  | cons file rest =>
      rw [documentsAt, if_neg (by simp), namedDocuments_eq_ok_iff]
      simp

theorem looks_iff {disk : Disk} {root : Path} {files : List Path} {settings : Settings}
    {documents : List (Path × Text)} :
    Looks disk root files settings documents ↔
      settingsAt disk root = .ok settings ∧
        documentsAt { disk, root, settings } files = .ok documents := by
  rw [documentsAt_eq_ok_iff]
  exact ⟨fun looks => ⟨looks.loaded, looks.everything, looks.named⟩,
    fun parts => ⟨parts.1, parts.2.1, parts.2.2⟩⟩

/-- The findings in the documents that a check looks at decide what it returns and prints. -/
theorem check_of_looks {disk : Disk} {root : Path} {files : List Path} {settings : Settings}
    {documents : List (Path × Text)} (looks : Looks disk root files settings documents)
    (format : Format) :
    (run disk root format (.check files)).start.1 =
        .ok (checkCode (documents.map (reportOn settings))) ∧
      (run disk root format (.check files)).start.2.output =
        Report.ofCheck format root (documents.map (reportOn settings)) := by
  obtain ⟨loaded, readable⟩ := looks_iff.mp looks
  refine ⟨?_, checkFiles_prints format loaded readable {}⟩
  rw [run, checkFiles_start loaded format files, readable]
  rfl

/-- A check succeeds only if there are documents to look at. -/
theorem exists_looks {disk : Disk} {root : Path} {format : Format} {files : List Path}
    {code : ExitCode} (succeeds : (run disk root format (.check files)).start.1 = .ok code) :
    ∃ settings documents, Looks disk root files settings documents := by
  cases loaded : settingsAt disk root with
  | error failure =>
      rw [run, (checkFiles_gives disk root format files).start, workspaceAt, loaded] at succeeds
      cases succeeds
  | ok settings =>
      rw [run, checkFiles_start loaded format files] at succeeds
      cases readable : documentsAt { disk, root, settings } files with
      | error failure =>
          rw [readable] at succeeds
          cases succeeds
      | ok documents => exact ⟨settings, documents, looks_iff.mpr ⟨loaded, readable⟩⟩

/-- The exit code tells the worst finding that counts. -/
theorem checkCode_iff (settings : Settings) (documents : List (Path × Text)) :
    let code := checkCode (documents.map (reportOn settings))
    let lacksTab := ∃ document ∈ documents, Lint.LacksTab document.2
    let refersToUnset := ∃ document ∈ documents,
      Lint.RefersToUnset document.1 document.2 settings.predefinedVariables
    (code = 2 ↔ lacksTab) ∧ (code = 1 ↔ ¬lacksTab ∧ refersToUnset) ∧
      (code = 0 ↔ ¬lacksTab ∧ ¬refersToUnset) := by
  intro code lacksTab refersToUnset
  have errors : 0 < Report.count .error (documents.map (reportOn settings)) ↔ lacksTab := by
    simp only [Report.count_pos_iff, Lint.exists_error_mem_lint_iff, lacksTab]
  have warnings : 0 < Report.count .warning (documents.map (reportOn settings)) ↔
      refersToUnset := by
    simp only [Report.count_pos_iff, Lint.exists_warning_mem_lint_iff, refersToUnset]
  rw [← errors, ← warnings]
  simp only [code, checkCode]
  split
  · rename_i error
    simp [error]
  · rename_i noError
    split
    · rename_i warning
      simp [noError, warning]
    · rename_i noWarning
      simp [noError, noWarning]

end Command

/-- The exit code of a check depends on missing tabs and on references to variables that are
not set, in any of the documents it looks at, and on nothing else.  It is the same for both
forms of the report.  The report in lines has one line for every finding and counts them. -/
theorem check_determined_by_findings (disk : Disk) (root : Path) (files : List Path) :
    (Command.run disk root .json (.check files)).start.1 =
        (Command.run disk root .text (.check files)).start.1 ∧
      ∀ format code transcript,
        (Command.run disk root format (.check files)).start = (.ok code, transcript) →
          ∃ settings documents, Command.Looks disk root files settings documents ∧
            let lacksTab := ∃ document ∈ documents, Lint.LacksTab document.2
            let refersToUnset := ∃ document ∈ documents,
              Lint.RefersToUnset document.1 document.2 settings.predefinedVariables
            (code = 2 ↔ lacksTab) ∧ (code = 1 ↔ ¬lacksTab ∧ refersToUnset) ∧
              (code = 0 ↔ ¬lacksTab ∧ ¬refersToUnset) ∧
              transcript.output =
                Report.ofCheck format root (documents.map (Command.reportOn settings)) ∧
              (format = .text → transcript.output = Text.unlines
                (Report.linesOf root documents.length (Report.findings settings documents))) := by
  constructor
  · rw [Command.run, Command.run, (Command.checkFiles_gives disk root .json files).start,
      (Command.checkFiles_gives disk root .text files).start]
  · intro format code transcript ran
    have succeeds : (Command.run disk root format (.check files)).start.1 = .ok code := by
      rw [ran]
    obtain ⟨settings, documents, looks⟩ := Command.exists_looks succeeds
    obtain ⟨result, printed⟩ := Command.check_of_looks looks format
    rw [ran] at result printed
    cases result
    obtain ⟨two, one, zero⟩ := Command.checkCode_iff settings documents
    refine ⟨settings, documents, looks, two, one, zero, printed, ?_⟩
    rintro rfl
    rw [printed, Report.ofCheck_text]

/-- One document lacks a tab, and the other refers to a variable that is not set.  A target
and a variable that are reported as well do not count. -/
theorem check_determined_by_findings_two_files :
    let disk : Disk :=
      ⟨.directory [(['a', '.', 'm', 'k'], .file "a: b\n x\n".toUTF8),
        (['b', '.', 'm', 'k'], .file "X = $(Y)\n".toUTF8)], []⟩
    let files : List Path := [⟨['a', '.', 'm', 'k']⟩, ⟨['b', '.', 'm', 'k']⟩]
    let ran := (Command.run disk ⟨['.']⟩ .text (.check files)).start
    ran.1 = .ok 2 ∧
      (∃ settings documents, Command.Looks disk ⟨['.']⟩ files settings documents ∧
        ∃ document ∈ documents, Lint.LacksTab document.2) ∧
      ran.2.output = Text.concat
        ["a.mk:0:3: information [undefined-target] Target 'b' is not defined in this Makefile\n",
          "a.mk:1:0: error [tab-required] ",
          "Recipe lines must start with a tab character, not spaces\n",
          "b.mk:0:6: warning [undefined-variable] Undefined variable 'Y'\n",
          "b.mk:0:0: hint [unused-variable] Variable 'X' is defined but never used\n",
          "\n1 errors, 1 warnings, 4 total in 2 files\n"] := by
  intro disk files ran
  have result : ran.1 = .ok 2 := by decide +kernel
  obtain ⟨settings, documents, looks, two, _⟩ :=
    (check_determined_by_findings disk ⟨['.']⟩ files).2 .text 2 ran.2 (Prod.ext result rfl)
  exact ⟨result, ⟨settings, documents, looks, two.mp rfl⟩, by decide +kernel⟩

end MakefileNav
