/-
Module: MakefileNav.Proofs.RangeRoundTrip
Purpose: Every range that is reported for a document covers what the report is about.
Main exports:
  Finding.Quotes, Diagnostic.Pinpoints, Lint.mem_checkLines_iff,
  reported_ranges_cover_names
-/
import MakefileNav.Lint.Checks
import MakefileNav.Proofs.UsageSites

namespace MakefileNav

/-!
Declarations, usages and findings are reported with ranges of their own.  A reader who
cuts the range out of the document has to get the name back that the report is about,
or, under the check for tabs, the indentation that is wrong.  For each scanner this is
the statement that its tokens stand in their line; the step from there to the reported
range is the same for all of them and needs only that lines and columns are not cut off
at the greatest number that can be reported.
-/

/-! ### What a finding is about -/

/-- The message of a finding quotes a name: the name is what stands between the first
and the last apostrophe. -/
def Finding.Quotes (finding : Finding) (name : Text) : Prop :=
  ∃ before after, '\'' ∉ before ∧ '\'' ∉ after ∧
    finding.message = before ++ '\'' :: (name ++ '\'' :: after)

/-- The range of a finding covers what the finding is about.  For a missing tab this is
white space that starts the line, begins with a space and goes up to some other
character; for the other findings it is the name that the message quotes. -/
def Diagnostic.Pinpoints (text : Text) (diagnostic : Diagnostic) : Prop :=
  match diagnostic.finding with
  | .tabRequired =>
      ∃ line blank c rest, text.lines[diagnostic.range.start.line]? = some line ∧
        line = blank ++ c :: rest ∧ isWhitespace c = false ∧ Text.Blank blank ∧
        blank.head? = some ' ' ∧ diagnostic.range.start.character = 0 ∧
        diagnostic.range.covered? text = some blank
  | _ => ∃ name, diagnostic.finding.Quotes name ∧ diagnostic.range.covered? text = some name

theorem Finding.quotes_undefinedVariable (name : Text) :
    (undefinedVariable name).Quotes name :=
  ⟨("Undefined variable " : Text), [], by decide, by decide, rfl⟩

theorem Finding.quotes_undefinedTarget (name : Text) :
    (undefinedTarget name).Quotes name :=
  ⟨("Target " : Text), (" is not defined in this Makefile" : Text), by decide, by decide, rfl⟩

theorem Finding.quotes_unusedVariable (name : Text) :
    (unusedVariable name).Quotes name :=
  ⟨("Variable " : Text), (" is defined but never used" : Text), by decide, by decide, rfl⟩

/-! ### Declarations and usages -/

theorem covered?_of_mem_declarations {file : Path} {text : Text} {symbol : Symbol}
    (reportable : text.Reportable) (declared : symbol ∈ declarations file text) :
    symbol.range.covered? text = some symbol.name ∧ symbol.name ≠ [] := by
  obtain ⟨number, line, found, member⟩ := mem_scanLines.mp declared
  obtain ⟨⟨kind, name⟩, names, rfl⟩ := List.mem_map.mp member
  obtain ⟨nonempty, stands⟩ := Line.standsIn_of_mem_declaredNames names
  have covered := stands.covered?_onLine reportable found
  rw [Token.stop, Nat.zero_add] at covered
  exact ⟨covered, nonempty⟩

theorem covered?_of_mem_usages {file : Path} {text name : Text} {location : Location}
    (reportable : text.Reportable) (used : location ∈ usages file text name) :
    location.range.covered? text = some name := by
  obtain ⟨_, _, number, line, offset, found, place, rfl⟩ := mem_usages_iff.mp used
  exact (Line.standsIn_of_mem_usageOffsets place).covered?_onLine reportable found

/-! ### Findings -/

namespace Lint

/-- The checks of all lines find what the check of one line finds, beside the line
before it. -/
theorem mem_checkLines_iff {known targets lines : List Text} {diagnostic : Diagnostic} :
    diagnostic ∈ checkLines known targets lines ↔
      ∃ number line previous, lines[number]? = some line ∧
        (none :: lines.map some)[number]? = some previous ∧
        diagnostic ∈ checkLine known targets number previous line := by
  unfold checkLines
  rw [List.mem_flatMap]
  constructor
  · intro checked
    rcases checked with ⟨⟨⟨previous, line⟩, number⟩, indexed, found⟩
    have paired := List.mk_mem_zipIdx_iff_getElem?.mp indexed
    obtain ⟨before, here⟩ := List.getElem?_zip_eq_some.mp paired
    exact ⟨number, line, previous, here, before, found⟩
  · intro checked
    rcases checked with ⟨number, line, previous, here, before, found⟩
    refine ⟨((previous, line), number), ?_, found⟩
    rw [List.mk_mem_zipIdx_iff_getElem?]
    exact List.getElem?_zip_eq_some.mpr ⟨before, here⟩

variable {text line : Text} {number : Nat} {diagnostic : Diagnostic}

/-- A missing tab is reported on the indentation of the line. -/
theorem pinpoints_of_tabRequired? {previous : Option Text} (reportable : text.Reportable)
    (found : text.lines[number]? = some line)
    (reported : tabRequired? number previous line = some diagnostic) :
    diagnostic.Pinpoints text := by
  unfold tabRequired? at reported
  split at reported
  · rename_i failed
    injection reported with same
    subst same
    obtain ⟨space, filled, _⟩ := failed
    obtain ⟨others, rfl⟩ := List.head?_eq_some_iff.mp space
    have isBlank := Text.blank_takeWhile (' ' :: others)
    -- A line that is white space throughout would be blank.
    have visible : (' ' :: others).dropWhile isWhitespace ≠ [] := by
      intro empty
      apply filled
      simp [Text.trim, Text.trimStart, empty, Text.trimEnd]
    obtain ⟨c, rest, split⟩ := List.exists_cons_of_ne_nil visible
    have solid := Text.dropWhile_head isWhitespace (' ' :: others) c (by rw [split]; rfl)
    have stands : Token.StandsIn ⟨0, (' ' :: others).takeWhile isWhitespace⟩ (' ' :: others) :=
      ⟨[], c :: rest, by rw [← split]; simp, rfl⟩
    have covered := stands.covered?_onLine reportable found
    rw [Token.stop, Nat.zero_add] at covered
    refine ⟨' ' :: others, (' ' :: others).takeWhile isWhitespace, c, rest, ?_, ?_, solid,
      isBlank, ?_, rfl, covered⟩
    · simp only [TextRange.onLine]
      rw [reportable.clamp_line found]
      exact found
    · rw [← split, List.takeWhile_append_dropWhile]
    · rw [List.takeWhile_cons, if_pos (by decide)]
      rfl
  · simp at reported

theorem pinpoints_of_mem_undefinedVariables {known : List Text} (reportable : text.Reportable)
    (found : text.lines[number]? = some line)
    (reported : diagnostic ∈ undefinedVariables known number line) :
    diagnostic.Pinpoints text := by
  obtain ⟨token, kept, rfl⟩ := List.mem_map.mp reported
  have stands := Line.standsIn_of_mem_variableUses (List.mem_filter.mp kept).1
  exact ⟨token.text, Finding.quotes_undefinedVariable token.text,
    stands.covered?_onLine reportable found⟩

theorem pinpoints_of_mem_undefinedTargets {targets : List Text} (reportable : text.Reportable)
    (found : text.lines[number]? = some line)
    (reported : diagnostic ∈ undefinedTargets targets number line) :
    diagnostic.Pinpoints text := by
  obtain ⟨token, kept, rfl⟩ := List.mem_map.mp reported
  have stands := Line.standsIn_of_mem_dependencies (List.mem_filter.mp kept).1
  exact ⟨token.text, Finding.quotes_undefinedTarget token.text,
    stands.covered?_onLine reportable found⟩

/-- Every finding on a line is reported on what it is about. -/
theorem pinpoints_of_mem_checkLine {known targets : List Text} {previous : Option Text}
    (reportable : text.Reportable) (found : text.lines[number]? = some line)
    (reported : diagnostic ∈ checkLine known targets number previous line) :
    diagnostic.Pinpoints text := by
  unfold checkLine at reported
  rw [List.mem_append, List.mem_append, Option.mem_toList] at reported
  rcases reported with (tab | undefinedVariable) | undefinedTarget
  · exact pinpoints_of_tabRequired? reportable found tab
  · exact pinpoints_of_mem_undefinedVariables reportable found undefinedVariable
  · exact pinpoints_of_mem_undefinedTargets reportable found undefinedTarget

/-- A variable that is not used is reported on its declaration. -/
theorem pinpoints_of_mem_unusedVariables {file : Path} (reportable : text.Reportable)
    (reported : diagnostic ∈ unusedVariables file text.lines (declarations file text)) :
    diagnostic.Pinpoints text := by
  obtain ⟨symbol, kept, rfl⟩ := List.mem_map.mp reported
  obtain ⟨covered, _⟩ := covered?_of_mem_declarations reportable (List.mem_filter.mp kept).1
  exact ⟨symbol.name, Finding.quotes_unusedVariable symbol.name, covered⟩

end Lint

/-- Every range that is reported for a document covers what it is reported for: a
declaration its name, a usage the name that is used, and a finding what it is about. -/
theorem reported_ranges_cover_names (file : Path) (text : Text) (reportable : text.Reportable) :
    (∀ symbol ∈ declarations file text,
      symbol.location.range = symbol.range ∧
        symbol.range.start.line = symbol.range.stop.line ∧
        symbol.range.covered? text = some symbol.name ∧ symbol.name ≠ []) ∧
      (∀ name, ∀ location ∈ usages file text name,
        location.range.covered? text = some name) ∧
      (∀ predefined, ∀ diagnostic ∈ lint file text predefined, diagnostic.Pinpoints text) := by
  refine ⟨?_, ?_, ?_⟩
  · intro symbol declared
    obtain ⟨covered, nonempty⟩ := covered?_of_mem_declarations reportable declared
    exact ⟨rfl, TextRange.line_eq_of_covered? covered, covered, nonempty⟩
  · intro name location used
    exact covered?_of_mem_usages reportable used
  · intro predefined diagnostic reported
    rcases List.mem_append.mp reported with line | unused
    · obtain ⟨number, line, previous, found, _, member⟩ := Lint.mem_checkLines_iff.mp line
      exact Lint.pinpoints_of_mem_checkLine reportable found member
    · exact Lint.pinpoints_of_mem_unusedVariables reportable unused

/-- A declaration, a usage behind a character of two bytes, and an indentation with an
ideographic space, in one document. -/
theorem reported_ranges_cover_names_multibyte :
    let file : Path := ⟨['M']⟩
    let text : Text :=
      ['C', '=', '\r', '\n', 'a', ':', 'é', ' ', '$', '(', 'C', ')', '\n', ' ', '\u3000', 'x']
    let symbol : Symbol := ⟨.variable, ['C'], ⟨file, ⟨⟨0, 0⟩, ⟨0, 1⟩⟩⟩⟩
    let location : Location := ⟨file, ⟨⟨1, 7⟩, ⟨1, 8⟩⟩⟩
    let diagnostic : Diagnostic := ⟨.tabRequired, ⟨⟨2, 0⟩, ⟨2, 4⟩⟩⟩
    text.Reportable ∧
      (symbol ∈ declarations file text ∧ symbol.range.covered? text = some symbol.name) ∧
      (location ∈ usages file text ['C'] ∧ location.range.covered? text = some ['C']) ∧
      (diagnostic ∈ lint file text [] ∧ diagnostic.Pinpoints text) := by
  intro file text symbol location diagnostic
  have reportable : text.Reportable := ⟨by decide, by decide⟩
  have declared : symbol ∈ declarations file text := by decide
  have used : location ∈ usages file text ['C'] := by decide
  have reported : diagnostic ∈ lint file text [] := by decide
  obtain ⟨symbols, locations, diagnostics⟩ := reported_ranges_cover_names file text reportable
  exact ⟨reportable, ⟨declared, (symbols symbol declared).2.2.1⟩,
    ⟨used, locations ['C'] location used⟩, ⟨reported, diagnostics [] diagnostic reported⟩⟩

end MakefileNav
