/-
Module: MakefileNav.Proofs.ReportLines
Purpose: The lines that a check prints, told from the findings alone.
Main exports:
  Command.reportOn, Report.findings, Report.count_map_reportOn, Report.linesOf,
  Report.ofCheck_text
-/
import MakefileNav.Report
import MakefileNav.Settings

namespace MakefileNav

/-!
A report is put together file by file, and its last lines count what all files have in them.
Which file a finding belongs to is said on its own line, so the text depends on nothing but the
list of all findings, each with its file, and on the number of files that were looked at.
-/

/-- What a check finds in a document. -/
def Command.reportOn (settings : Settings) (document : Path × Text) : FileReport where
  file := document.1
  diagnostics := lint document.1 document.2 settings.predefinedVariables

namespace Report

/-- Findings in documents, each with the file it is in. -/
def findings (settings : Settings) (documents : List (Path × Text)) : List (Path × Diagnostic) :=
  documents.flatMap fun document =>
    (lint document.1 document.2 settings.predefinedVariables).map (document.1, ·)

/-- One line for every finding, in the order of the documents, and the lines that count them. -/
def linesOf (root : Path) (files : Nat) (findings : List (Path × Diagnostic)) : List Text :=
  findings.map (fun finding => diagnosticLine root finding.1 finding.2) ++
    if findings = [] then [Text.concat ["All ", Text.ofNat files, " files clean"]]
    else
      [[], Text.concat [Text.ofNat (findings.countP (·.2.severity = .error)), " errors, ",
        Text.ofNat (findings.countP (·.2.severity = .warning)), " warnings, ",
        Text.ofNat findings.length, " total in ", Text.ofNat files, " files"]]

variable (settings : Settings) (documents : List (Path × Text))

/-! ### Counting -/

theorem map_findings :
    (findings settings documents).map Prod.snd =
      (documents.map (Command.reportOn settings)).flatMap FileReport.diagnostics := by
  rw [findings, List.map_flatMap, List.flatMap_map]
  simp only [List.map_map, Function.comp_def, List.map_id']
  rfl

theorem total_map_reportOn :
    total (documents.map (Command.reportOn settings)) = (findings settings documents).length := by
  rw [total, ← map_findings, List.length_map]

theorem count_map_reportOn (severity : Severity) :
    count severity (documents.map (Command.reportOn settings)) =
      (findings settings documents).countP (·.2.severity = severity) := by
  rw [count, ← map_findings, ← List.countP_eq_length_filter, List.countP_map]
  rfl

/-! ### Lines -/

/-- The lines of the findings follow each other as the files do. -/
theorem flatMap_diagnosticLine (root : Path) :
    ((documents.map (Command.reportOn settings)).flatMap fun report =>
        report.diagnostics.map (diagnosticLine root report.file)) =
      (findings settings documents).map fun finding =>
        diagnosticLine root finding.1 finding.2 := by
  rw [findings, List.map_flatMap, List.flatMap_map]
  simp only [List.map_map]
  rfl

/-- The report in lines has one line for every finding and counts them. -/
theorem ofCheck_text (root : Path) :
    ofCheck .text root (documents.map (Command.reportOn settings)) =
      Text.unlines (linesOf root documents.length (findings settings documents)) := by
  rw [ofCheck, flatMap_diagnosticLine, linesOf, summary, total_map_reportOn, count_map_reportOn,
    count_map_reportOn, List.length_map]
  simp only [List.length_eq_zero_iff]

end Report

end MakefileNav
