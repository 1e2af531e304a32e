/-
Module: MakefileNav.Report
Purpose: The form in which commands print their results.
Main exports:
  Format, FileReport, Report.ofCheck, Report.ofCompletions, Report.ofLocations,
  Report.ofHover, Report.ofName, Report.ofSymbols
-/
import MakefileNav.Completion
import MakefileNav.Hover
import MakefileNav.Json
import MakefileNav.Lint.Checks

namespace MakefileNav

/-- Form of the output. -/
inductive Format where
  /-- Structured output. -/
  | json
  /-- One line for each result. -/
  | text
deriving Repr, DecidableEq, Inhabited

/-- What was found in one file. -/
structure FileReport where
  file : Path
  diagnostics : List Diagnostic
deriving Repr, DecidableEq

namespace Report

/-! ### Structured output -/

/-- A place as a structured value. -/
def placeJson (place : Position) : Json :=
  .object [("character", .number place.character), ("line", .number place.line)]

/-- A range as a structured value. -/
def rangeJson (range : TextRange) : Json :=
  .object [("end", placeJson range.stop), ("start", placeJson range.start)]

/-- A location as a structured value. -/
def locationJson (location : Location) : Json :=
  .object [("file", .string location.file.text), ("range", rangeJson location.range)]

/-- A finding as a structured value. -/
def diagnosticJson (diagnostic : Diagnostic) : Json :=
  .object [("code", .string diagnostic.finding.code),
    ("message", .string diagnostic.finding.message),
    ("range", rangeJson diagnostic.range),
    ("severity", .string diagnostic.severity.tag)]

/-- The findings in a file as a structured value. -/
def fileReportJson (report : FileReport) : Json :=
  .object [("diagnostics", .array (report.diagnostics.map diagnosticJson)),
    ("file", .string report.file.text)]

/-- A completion as a structured value. -/
def completionJson (item : Completion) : Json :=
  .object [("detail", .ofOption item.detail),
    ("documentation", .ofOption item.documentation),
    ("insert_text", .ofOption item.insertText),
    ("kind", .string item.kind.tag),
    ("label", .string item.label),
    ("sort_text", .ofOption item.sortText)]

/-- A description as a structured value. -/
def hoverJson (hover : Hover) : Json :=
  .object [("contents", .string hover.contents), ("range", rangeJson hover.range)]

/-- A symbol as a structured value. -/
def symbolJson (symbol : Symbol) : Json :=
  .object [("kind", .string symbol.kind.tag),
    ("name", .string symbol.name),
    ("outline_kind", .string symbol.kind.outline),
    ("range", rangeJson symbol.range)]

/-- A structured value as it is printed. -/
def ofJson (value : Json) : Text :=
  value.pretty 0 ++ ['\n']

/-! ### Lines -/

/-- Numbers with colons between them, as in `3:14`. -/
def startText (range : TextRange) : Text :=
  Text.concat [Text.ofNat range.start.line, ":", Text.ofNat range.start.character]

/-- A location on one line, its path relative to the root where possible. -/
def locationLine (root : Path) (location : Location) : Text :=
  Text.concat [(root.shownFrom location.file).text, ":", startText location.range, "-",
    Text.ofNat location.range.stop.character]

/-- A finding on one line. -/
def diagnosticLine (root file : Path) (diagnostic : Diagnostic) : Text :=
  Text.concat [(root.shownFrom file).text, ":", startText diagnostic.range, ": ",
    diagnostic.severity.tag, " [", diagnostic.finding.code, "] ", diagnostic.finding.message]

/-- A completion on one line. -/
def completionLine (item : Completion) : Text :=
  Text.concat [item.label, "\t", item.detail.getD []]

/-- A symbol on one line. -/
def symbolLine (symbol : Symbol) : Text :=
  Text.concat [startText symbol.range, "\t", symbol.kind.label, "\t", symbol.name]

/-! ### Results -/

/-- Number of findings of a severity. -/
def count (severity : Severity) (reports : List FileReport) : Nat :=
  ((reports.flatMap FileReport.diagnostics).filter (·.severity = severity)).length

/-- Number of all findings. -/
def total (reports : List FileReport) : Nat :=
  (reports.flatMap FileReport.diagnostics).length

/-- The lines that end a report on checked files. -/
def summary (reports : List FileReport) : List Text :=
  if total reports = 0 then
    [Text.concat ["All ", Text.ofNat reports.length, " files clean"]]
  else
    [[], Text.concat [Text.ofNat (count .error reports), " errors, ",
      Text.ofNat (count .warning reports), " warnings, ",
      Text.ofNat (total reports), " total in ",
      Text.ofNat reports.length, " files"]]

/-- The report on checked files: the findings in order and a summary. -/
def ofCheck (format : Format) (root : Path) (reports : List FileReport) : Text :=
  match format with
  | .json => ofJson (.array (reports.map fileReportJson))
  | .text =>
      Text.unlines
        ((reports.flatMap fun report =>
            report.diagnostics.map (diagnosticLine root report.file)) ++
          summary reports)

/-- A list of completions. -/
def ofCompletions (format : Format) (items : List Completion) : Text :=
  match format with
  | .json => ofJson (.array (items.map completionJson))
  | .text => Text.unlines (items.map completionLine)

/-- A list of locations. -/
def ofLocations (format : Format) (root : Path) (locations : List Location) : Text :=
  match format with
  | .json => ofJson (.array (locations.map locationJson))
  | .text => Text.unlines (locations.map (locationLine root))

/-- A description. -/
def ofHover (format : Format) (hover : Hover) : Text :=
  match format with
  | .json => ofJson (hoverJson hover)
  | .text => Text.unlines [hover.contents]

/-- The name under a cursor, if there is one. -/
def ofName (format : Format) (name : Option Text) : Text :=
  match format with
  | .json => ofJson (.ofOption name)
  | .text => Text.unlines name.toList

/-- A list of symbols. -/
def ofSymbols (format : Format) (symbols : List Symbol) : Text :=
  match format with
  | .json => ofJson (.array (symbols.map symbolJson))
  | .text => Text.unlines (symbols.map symbolLine)

end Report

end MakefileNav
