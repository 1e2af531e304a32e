/-
Module: MakefileNav.Proofs.LintFindings
Purpose: Which findings the checks of a document make, and in which order.
Main exports:
  Lint.sweep, Lint.checkLines_eq, Lint.DeclaresVariable, Lint.known,
  Lint.mem_namesOf_declarations_iff, lint_eq, Lint.exists_onLine_of_mem_checkLine,
  Lint.mem_lint_iff_exists_line, Lint.undefinedVariables_pairwise, Lint.filter_lint,
  tabRequired_mem_lint_iff, undefinedTarget_mem_lint_iff, undefinedVariable_mem_lint_iff,
  unusedVariable_mem_lint_iff
-/
import MakefileNav.Proofs.LineLocality
import MakefileNav.Proofs.RangeRoundTrip

namespace MakefileNav

/-!
The checks of the lines carry one thing from line to line, which is the line before.  Written
as a recursion over the lines they can be compared with each other and with checks that leave
something out.  What they say about variables does not depend on the line before, so these
findings are those of a scan, and their columns grow along every line.
-/

namespace Lint

/-! ### Line after line -/

/-- A check of lines in their order, each beside the line before it.  The first line has the
number `number` and the line `previous` before it. -/
def sweep (check : Nat → Option Text → Text → List Diagnostic) :
    Option Text → Nat → List Text → List Diagnostic
  | _, _, [] => []
  | previous, number, line :: rest =>
      check number previous line ++ sweep check (some line) (number + 1) rest

variable {check : Nat → Option Text → Text → List Diagnostic}

private theorem flatMap_zip_eq_sweep (previous : Option Text) (number : Nat) (lines : List Text) :
    ((((previous :: lines.map some).zip lines).zipIdx number).flatMap
        fun ((previous, line), number) => check number previous line) =
      sweep check previous number lines := by
  induction lines generalizing previous number with
  | nil => rfl
  | cons line rest ih =>
      rw [List.map_cons, List.zip_cons_cons, List.zipIdx_cons, List.flatMap_cons, ih]
      rfl

theorem checkLines_eq (known targets lines : List Text) :
    checkLines known targets lines = sweep (checkLine known targets) none 0 lines :=
  flatMap_zip_eq_sweep none 0 lines

/-- The lines that come last are checked as if they were alone, apart from their numbers and
from the line before them. -/
theorem sweep_append (previous : Option Text) (number : Nat) (left right : List Text) :
    sweep check previous number (left ++ right) =
      sweep check previous number left ++
        sweep check (left.getLast?.or previous) (number + left.length) right := by
  induction left generalizing previous number with
  | nil => simp [sweep]
  | cons line rest ih =>
      have last : ((line :: rest).getLast?.or previous) = rest.getLast?.or (some line) := by
        rw [List.getLast?_cons]
        cases rest.getLast? <;> rfl
      rw [List.cons_append, sweep, sweep, ih, last, List.append_assoc, List.length_cons,
        Nat.add_right_comm, Nat.add_assoc]

/-- Findings can be left out of every line instead of the whole. -/
theorem filter_sweep (keep : Diagnostic → Bool) (previous : Option Text) (number : Nat)
    (lines : List Text) :
    (sweep check previous number lines).filter keep =
      sweep (fun number previous line => (check number previous line).filter keep)
        previous number lines := by
  induction lines generalizing previous number with
  | nil => rfl
  | cons line rest ih =>
      rw [sweep, sweep, List.filter_append, ih]

/-- A check that does not look at the line before is a scan. -/
theorem sweep_eq_scanLines (scan : Nat → Text → List Diagnostic) (previous : Option Text)
    (number : Nat) (lines : List Text) :
    sweep (fun number _ line => scan number line) previous number lines =
      scanLines scan number lines := by
  induction lines generalizing previous number with
  | nil => rfl
  | cons line rest ih =>
      rw [sweep, scanLines_cons, ih]

/-! ### What is known -/

/-- A line of the document assigns to the variable. -/
def DeclaresVariable (file : Path) (text name : Text) : Prop :=
  ∃ symbol ∈ declarations file text, symbol.kind = .variable ∧ symbol.name = name

/-- The variables that count as set in a document. -/
def known (file : Path) (text : Text) (predefined : List Text) : List Text :=
  namesOf .variable (declarations file text) ++ builtinVariables ++ predefined

theorem mem_namesOf_iff {kind : SymbolKind} {symbols : List Symbol} {name : Text} :
    name ∈ namesOf kind symbols ↔ ∃ symbol ∈ symbols, symbol.kind = kind ∧ symbol.name = name := by
  simp only [namesOf, List.mem_map, List.mem_filter, decide_eq_true_eq, and_assoc]

/-- The names of one kind are those that some line declares. -/
theorem mem_namesOf_declarations_iff {file : Path} {text name : Text} {kind : SymbolKind} :
    name ∈ namesOf kind (declarations file text) ↔
      ∃ line ∈ text.lines, (kind, name) ∈ Line.declaredNames line := by
  rw [mem_namesOf_iff]
  constructor
  · rintro ⟨symbol, declared, rfl, rfl⟩
    obtain ⟨number, line, found, member⟩ := mem_scanLines.mp declared
    obtain ⟨⟨kind, name⟩, named, rfl⟩ := List.mem_map.mp member
    exact ⟨line, List.mem_of_getElem? found, named⟩
  · rintro ⟨line, member, named⟩
    obtain ⟨number, found⟩ := List.mem_iff_getElem?.mp member
    exact ⟨_, mem_scanLines.mpr ⟨number, line, found, List.mem_map.mpr ⟨_, named, rfl⟩⟩, rfl, rfl⟩

theorem mem_known_iff {file : Path} {text name : Text} {predefined : List Text} :
    name ∈ known file text predefined ↔
      DeclaresVariable file text name ∨ name ∈ builtinVariables ∨ name ∈ predefined := by
  rw [known, List.mem_append, List.mem_append, mem_namesOf_iff, or_assoc]
  rfl

end Lint

theorem lint_eq (file : Path) (text : Text) (predefined : List Text) :
    lint file text predefined =
      Lint.sweep (Lint.checkLine (Lint.known file text predefined)
          (Lint.namesOf .target (declarations file text))) none 0 text.lines ++
        Lint.unusedVariables file text.lines (declarations file text) := by
  rw [← Lint.checkLines_eq]
  rfl

namespace Lint

/-! ### Kinds of findings -/

section Kinds

variable {number : Nat} {previous : Option Text} {line : Text} {diagnostic : Diagnostic}

theorem finding_of_tabRequired? (reported : tabRequired? number previous line = some diagnostic) :
    diagnostic.finding = .tabRequired := by
  unfold tabRequired? at reported
  split at reported
  · injection reported with same
    rw [← same]
  · simp at reported

theorem finding_of_mem_undefinedVariables {known : List Text}
    (reported : diagnostic ∈ undefinedVariables known number line) :
    ∃ name, diagnostic.finding = .undefinedVariable name := by
  obtain ⟨token, _, rfl⟩ := List.mem_map.mp reported
  exact ⟨token.text, rfl⟩

theorem finding_of_mem_undefinedTargets {targets : List Text}
    (reported : diagnostic ∈ undefinedTargets targets number line) :
    ∃ name, diagnostic.finding = .undefinedTarget name := by
  obtain ⟨token, _, rfl⟩ := List.mem_map.mp reported
  exact ⟨token.text, rfl⟩

/-- The checks of one line never find that a variable is not used. -/
theorem finding_of_mem_checkLine {known targets : List Text}
    (reported : diagnostic ∈ checkLine known targets number previous line) :
    diagnostic.finding = .tabRequired ∨
      (∃ name, diagnostic.finding = .undefinedVariable name) ∨
      ∃ name, diagnostic.finding = .undefinedTarget name := by
  unfold checkLine at reported
  rw [List.mem_append, List.mem_append, Option.mem_toList] at reported
  rcases reported with (tab | undefinedVariable) | undefinedTarget
  · exact Or.inl (finding_of_tabRequired? tab)
  · exact Or.inr (Or.inl (finding_of_mem_undefinedVariables undefinedVariable))
  · exact Or.inr (Or.inr (finding_of_mem_undefinedTargets undefinedTarget))

/-- A check of a line reports ranges on this line. -/
theorem exists_onLine_of_mem_checkLine {known targets : List Text}
    (reported : diagnostic ∈ checkLine known targets number previous line) :
    ∃ start stop, diagnostic.range = .onLine number start stop := by
  unfold checkLine at reported
  rw [List.mem_append, List.mem_append, Option.mem_toList] at reported
  rcases reported with (tab | undefinedVariable) | undefinedTarget
  · unfold tabRequired? at tab
    rw [Option.ite_none_right_eq_some, Option.some.injEq] at tab
    obtain ⟨_, rfl⟩ := tab
    exact ⟨_, _, rfl⟩
  · obtain ⟨token, _, rfl⟩ := List.mem_map.mp undefinedVariable
    exact ⟨_, _, rfl⟩
  · obtain ⟨token, _, rfl⟩ := List.mem_map.mp undefinedTarget
    exact ⟨_, _, rfl⟩

end Kinds

theorem expectsRecipe_iff (line : Text) :
    expectsRecipe line = true ↔ ':' ∈ line ∧ line.trim.head? ≠ some '#' := by
  rw [expectsRecipe, Bool.and_eq_true, List.contains_iff_mem, bne_iff_ne]

theorem tabRequired?_eq_some_iff {number : Nat} {previous : Option Text} {line : Text}
    {diagnostic : Diagnostic} :
    tabRequired? number previous line = some diagnostic ↔
      (line.head? = some ' ' ∧ ¬line.Blank ∧ ∃ above, previous = some above ∧ ':' ∈ above ∧
          above.trim.head? ≠ some '#') ∧
        diagnostic = ⟨.tabRequired, .onLine number 0 line.indent⟩ := by
  unfold tabRequired?
  rw [Option.ite_none_right_eq_some, Option.some.injEq, ne_eq, Text.trim_eq_nil_iff,
    Option.any_eq_true]
  simp only [expectsRecipe_iff]
  exact and_congr_right fun _ => eq_comm

theorem tabRequired_mem_checkLine_iff {known targets : List Text} {number : Nat}
    {previous : Option Text} {line : Text} {range : TextRange} :
    ⟨.tabRequired, range⟩ ∈ checkLine known targets number previous line ↔
      tabRequired? number previous line = some ⟨.tabRequired, range⟩ := by
  have noVariable : ⟨.tabRequired, range⟩ ∉ undefinedVariables known number line := by
    intro reported
    obtain ⟨name, finding⟩ := finding_of_mem_undefinedVariables reported
    cases finding
  have noTarget : ⟨.tabRequired, range⟩ ∉ undefinedTargets targets number line := by
    intro reported
    obtain ⟨name, finding⟩ := finding_of_mem_undefinedTargets reported
    cases finding
  rw [checkLine, List.mem_append, List.mem_append, or_iff_left noTarget, or_iff_left noVariable,
    Option.mem_toList]

theorem undefinedTarget_mem_checkLine_iff {known targets : List Text} {number : Nat}
    {previous : Option Text} {line name : Text} {range : TextRange} :
    ⟨.undefinedTarget name, range⟩ ∈ checkLine known targets number previous line ↔
      ∃ offset, ⟨offset, name⟩ ∈ Line.dependencies line ∧ looksLikeTarget name = true ∧
        name ∉ targets ∧ range = .onLine number offset (offset + name.byteLength) := by
  have noTab : ⟨.undefinedTarget name, range⟩ ∉ (tabRequired? number previous line).toList := by
    intro reported
    cases finding_of_tabRequired? (Option.mem_toList.mp reported)
  have noVariable : ⟨.undefinedTarget name, range⟩ ∉ undefinedVariables known number line := by
    intro reported
    obtain ⟨name, finding⟩ := finding_of_mem_undefinedVariables reported
    cases finding
  rw [checkLine, List.mem_append, List.mem_append, or_iff_right (not_or.mpr ⟨noTab, noVariable⟩)]
  simp only [undefinedTargets, List.mem_map, List.mem_filter, Bool.and_eq_true, Bool.not_eq_true',
    List.contains_eq_mem, decide_eq_false_iff_not]
  constructor
  · rintro ⟨token, ⟨listed, flagged, undeclared⟩, same⟩
    cases same
    exact ⟨token.offset, listed, flagged, undeclared, rfl⟩
  · rintro ⟨offset, listed, flagged, undeclared, rfl⟩
    exact ⟨⟨offset, name⟩, ⟨listed, flagged, undeclared⟩, rfl⟩

/-- Every line has a line before it or is the first one. -/
theorem exists_previous {lines : List Text} {number : Nat} {line : Text}
    (found : lines[number]? = some line) :
    ∃ previous, (none :: lines.map some)[number]? = some previous := by
  have inside : number < (none :: lines.map some).length := by
    rw [List.length_cons, List.length_map]
    exact Nat.lt_succ_of_lt (List.getElem?_eq_some_iff.mp found).1
  exact ⟨_, List.getElem?_eq_getElem inside⟩

/-- The finding that a variable is not used comes last.  The other findings come from the checks
of the lines. -/
theorem mem_lint_iff_exists_line {file : Path} {text : Text} {predefined : List Text}
    {diagnostic : Diagnostic} (used : ∀ name, diagnostic.finding ≠ .unusedVariable name) :
    diagnostic ∈ lint file text predefined ↔
      ∃ number line previous, text.lines[number]? = some line ∧
        (none :: text.lines.map some)[number]? = some previous ∧
        diagnostic ∈ checkLine (known file text predefined)
          (namesOf .target (declarations file text)) number previous line := by
  have notLast : diagnostic ∉ unusedVariables file text.lines (declarations file text) := by
    intro reported
    obtain ⟨symbol, _, rfl⟩ := List.mem_map.mp reported
    exact used symbol.name rfl
  rw [lint_eq, ← checkLines_eq, List.mem_append, or_iff_left notLast, mem_checkLines_iff]

/-! ### References to variables that nothing sets -/

/-- A reference to a variable that nothing sets is found at its place. -/
theorem mem_undefinedVariables_iff {known : List Text} {number : Nat} {line : Text}
    {diagnostic : Diagnostic} :
    diagnostic ∈ undefinedVariables known number line ↔
      ∃ name offset, Line.IsVariableName name ∧ Line.RefersAt line name offset ∧ name ∉ known ∧
        diagnostic = ⟨.undefinedVariable name,
          .onLine number offset (offset + Text.byteLength name)⟩ := by
  simp only [undefinedVariables, List.mem_map, List.mem_filter, Line.mem_variableUses_iff,
    Bool.not_eq_true', List.contains_eq_mem, decide_eq_false_iff_not]
  constructor
  · intro reported
    rcases reported with ⟨token, ⟨⟨isName, refers⟩, unknown⟩, rfl⟩
    exact ⟨token.text, token.offset, isName, refers, unknown, rfl⟩
  · intro reference
    rcases reference with ⟨name, offset, isName, refers, unknown, rfl⟩
    exact ⟨⟨offset, name⟩, ⟨⟨isName, refers⟩, unknown⟩, rfl⟩

end Lint

/-- References are listed from left to right. -/
theorem Line.variableUses_pairwise (line : Text) :
    (variableUses line).Pairwise fun token token' => token.offset < token'.offset := by
  induction line with
  | nil => exact .nil
  | cons c rest ih =>
      rw [variableUses_cons, List.pairwise_append]
      refine ⟨?_, ?_, ?_⟩
      · cases variableUseAt? (c :: rest) with
        | none => exact .nil
        | some name => exact List.pairwise_singleton _ _
      · rw [List.pairwise_map]
        refine ih.imp ?_
        intro token token' before
        rw [Token.shift_offset, Token.shift_offset]
        omega
      · -- A reference at the start of the line has its name in the third column, and a
        -- later one has its name behind two characters of its own.
        intro token first token' later
        obtain ⟨name, _, rfl⟩ := Option.map_eq_some_iff.mp (Option.mem_toList.mp first)
        obtain ⟨inner, used, rfl⟩ := List.mem_map.mp later
        obtain ⟨_, before, after, _, offset⟩ := mem_variableUses_iff.mp used
        have wide := Char.utf8Size_pos c
        rw [Token.shift_offset, offset]
        simp only
        omega

namespace Lint

/-- In a document with reportable columns the references that a line is reported for stand
from left to right, and those of an earlier line come first. -/
theorem undefinedVariables_pairwise (known : List Text) {text : Text}
    (reportable : text.Reportable) :
    (scanLines (undefinedVariables known) 0 text.lines).Pairwise fun diagnostic diagnostic' =>
      Position.order diagnostic.range.start diagnostic'.range.start = .lt := by
  apply scanLines_pairwise
  · intro number line found
    unfold undefinedVariables
    rw [List.pairwise_map]
    have stands : ∀ token ∈ (Line.variableUses line).filter (!known.contains ·.text),
        Position.clamp token.offset = token.offset := by
      intro token kept
      apply reportable.clamp_column found
      have inside := (Line.standsIn_of_mem_variableUses (List.mem_filter.mp kept).1).stop_le
      exact Nat.le_trans (Nat.le_add_right _ _) inside
    refine ((Line.variableUses_pairwise line).filter _).imp_of_mem ?_
    intro token token' member member' before
    simp only [TextRange.onLine, Position.order, stands token member, stands token' member']
    rw [Std.compare_self, Ordering.then, Nat.compare_eq_lt]
    exact before
  · intro number line number' line' found found' before diagnostic reported diagnostic' reported'
    obtain ⟨_, _, _, _, _, rfl⟩ := mem_undefinedVariables_iff.mp reported
    obtain ⟨_, _, _, _, _, rfl⟩ := mem_undefinedVariables_iff.mp reported'
    simp only [TextRange.onLine, Position.order, reportable.clamp_line found,
      reportable.clamp_line found']
    rw [Nat.compare_eq_lt.mpr before]
    rfl

/-! ### Findings about variables in a document -/

/-- The code of a finding tells its kind. -/
theorem code_eq_undefinedVariable_iff {finding : Finding} :
    finding.code = ("undefined-variable" : Text) ↔ ∃ name, finding = .undefinedVariable name := by
  have target : ("undefined-target" : Text) ≠ ("undefined-variable" : Text) := by decide
  have unused : ("unused-variable" : Text) ≠ ("undefined-variable" : Text) := by decide
  cases finding with
  | tabRequired => exact iff_of_false (by decide) (by simp)
  | undefinedVariable name => exact iff_of_true rfl ⟨name, rfl⟩
  | undefinedTarget name => exact iff_of_false target (by simp)
  | unusedVariable name => exact iff_of_false unused (by simp)

/-- Among the findings on a line, those with the code of undefined variables are those that
the check for undefined variables makes. -/
theorem filter_checkLine (known targets : List Text) (number : Nat) (previous : Option Text)
    (line : Text) :
    (checkLine known targets number previous line).filter
        (·.finding.code = ("undefined-variable" : Text)) =
      undefinedVariables known number line := by
  have tab : (tabRequired? number previous line).toList.filter
      (·.finding.code = ("undefined-variable" : Text)) = [] := by
    rw [List.filter_eq_nil_iff]
    intro diagnostic reported
    rw [decide_eq_true_iff, code_eq_undefinedVariable_iff,
      finding_of_tabRequired? (Option.mem_toList.mp reported)]
    simp
  have kept : (undefinedVariables known number line).filter
      (·.finding.code = ("undefined-variable" : Text)) = undefinedVariables known number line := by
    rw [List.filter_eq_self]
    intro diagnostic reported
    rw [decide_eq_true_iff, code_eq_undefinedVariable_iff]
    exact finding_of_mem_undefinedVariables reported
  have target : (undefinedTargets targets number line).filter
      (·.finding.code = ("undefined-variable" : Text)) = [] := by
    rw [List.filter_eq_nil_iff]
    intro diagnostic reported
    obtain ⟨name, finding⟩ := finding_of_mem_undefinedTargets reported
    rw [decide_eq_true_iff, code_eq_undefinedVariable_iff, finding]
    simp
  rw [checkLine, List.filter_append, List.filter_append, tab, kept, target, List.nil_append,
    List.append_nil]

theorem filter_unusedVariables (file : Path) (lines : List Text) (symbols : List Symbol) :
    (unusedVariables file lines symbols).filter
      (·.finding.code = ("undefined-variable" : Text)) = [] := by
  rw [List.filter_eq_nil_iff]
  intro diagnostic reported
  obtain ⟨symbol, _, rfl⟩ := List.mem_map.mp reported
  rw [decide_eq_true_iff, code_eq_undefinedVariable_iff]
  simp

/-- The findings about undefined variables are those of a scan for them. -/
theorem filter_lint (file : Path) (text : Text) (predefined : List Text) :
    (lint file text predefined).filter (·.finding.code = ("undefined-variable" : Text)) =
      scanLines (undefinedVariables (known file text predefined)) 0 text.lines := by
  rw [lint_eq, List.filter_append, filter_sweep, filter_unusedVariables, List.append_nil]
  simp only [filter_checkLine]
  exact sweep_eq_scanLines _ none 0 text.lines

/-- In a list whose ranges start one after the other there is one finding with the range of
each. -/
theorem filter_range_eq_singleton {findings : List Diagnostic} {diagnostic : Diagnostic}
    (ordered : findings.Pairwise fun diagnostic diagnostic' =>
      Position.order diagnostic.range.start diagnostic'.range.start = .lt)
    (member : diagnostic ∈ findings) :
    findings.filter (·.range = diagnostic.range) = [diagnostic] := by
  obtain ⟨before, after, rfl⟩ := List.append_of_mem member
  rw [List.pairwise_append, List.pairwise_cons] at ordered
  obtain ⟨_, ⟨later, _⟩, earlier⟩ := ordered
  have itself : Position.order diagnostic.range.start diagnostic.range.start ≠ .lt := by
    simp [Position.order]
  have noneBefore : before.filter (·.range = diagnostic.range) = [] := by
    rw [List.filter_eq_nil_iff]
    intro other member' same
    have lt := earlier other member' diagnostic (List.mem_cons_self ..)
    rw [of_decide_eq_true same] at lt
    exact itself lt
  have noneAfter : after.filter (·.range = diagnostic.range) = [] := by
    rw [List.filter_eq_nil_iff]
    intro other member' same
    have lt := later other member'
    rw [of_decide_eq_true same] at lt
    exact itself lt
  rw [List.filter_append, List.filter_cons, if_pos (decide_eq_true rfl), noneBefore, noneAfter,
    List.nil_append]

end Lint

/-! ### Findings in a document -/

/-- A missing tab is reported on a line that is indented with a space and not blank, right below
a line that has a colon and is no comment. -/
theorem tabRequired_mem_lint_iff {file : Path} {text : Text} {predefined : List Text}
    {range : TextRange} :
    ⟨.tabRequired, range⟩ ∈ lint file text predefined ↔
      ∃ number previous line, text.lines[number]? = some previous ∧
        text.lines[number + 1]? = some line ∧ line.head? = some ' ' ∧ ¬line.Blank ∧
        ':' ∈ previous ∧ previous.trim.head? ≠ some '#' ∧
        range = .onLine (number + 1) 0 line.indent := by
  rw [Lint.mem_lint_iff_exists_line (by simp)]
  simp only [Lint.tabRequired_mem_checkLine_iff, Lint.tabRequired?_eq_some_iff]
  constructor
  · rintro ⟨number, line, _, found, above, ⟨space, solid, previous, rfl, colon, speaks⟩, same⟩
    cases same
    cases number with
    | zero => cases above
    | succ number =>
        rw [List.getElem?_cons_succ, List.getElem?_map, Option.map_eq_some_iff] at above
        obtain ⟨_, above, same⟩ := above
        cases same
        exact ⟨number, previous, line, above, found, space, solid, colon, speaks, rfl⟩
  · rintro ⟨number, previous, line, above, found, space, solid, colon, speaks, rfl⟩
    refine ⟨number + 1, line, some previous, found, ?_,
      ⟨space, solid, previous, rfl, colon, speaks⟩, rfl⟩
    rw [List.getElem?_cons_succ, List.getElem?_map, above, Option.map_some]

/-- An undefined target is reported at every dependency that has its name, if the name looks like
that of a target and no line declares it. -/
theorem undefinedTarget_mem_lint_iff {file : Path} {text name : Text} {predefined : List Text}
    {range : TextRange} :
    ⟨.undefinedTarget name, range⟩ ∈ lint file text predefined ↔
      ∃ number line offset, text.lines[number]? = some line ∧
        ⟨offset, name⟩ ∈ Line.dependencies line ∧ Lint.looksLikeTarget name = true ∧
        name ∉ Lint.namesOf .target (declarations file text) ∧
        range = .onLine number offset (offset + name.byteLength) := by
  rw [Lint.mem_lint_iff_exists_line (by simp)]
  simp only [Lint.undefinedTarget_mem_checkLine_iff]
  constructor
  · rintro ⟨number, line, _, found, _, offset, reported⟩
    exact ⟨number, line, offset, found, reported⟩
  · rintro ⟨number, line, offset, found, reported⟩
    obtain ⟨previous, above⟩ := Lint.exists_previous found
    exact ⟨number, line, previous, found, above, offset, reported⟩

/-- An undefined variable is reported where the document refers to it, and it is not known
from anywhere. -/
theorem undefinedVariable_mem_lint_iff {file : Path} {text name : Text} {predefined : List Text}
    {range : TextRange} :
    ⟨.undefinedVariable name, range⟩ ∈ lint file text predefined ↔
      ∃ number line offset, text.lines[number]? = some line ∧ Line.IsVariableName name ∧
        Line.RefersAt line name offset ∧ name ∉ Lint.known file text predefined ∧
        range = .onLine number offset (offset + name.byteLength) := by
  have code : (Finding.undefinedVariable name).code = ("undefined-variable" : Text) := rfl
  have kept : ⟨.undefinedVariable name, range⟩ ∈ lint file text predefined ↔
      ⟨.undefinedVariable name, range⟩ ∈ (lint file text predefined).filter
        (·.finding.code = ("undefined-variable" : Text)) := by
    rw [List.mem_filter, decide_eq_true_iff]
    exact (and_iff_left code).symm
  rw [kept, Lint.filter_lint, mem_scanLines]
  simp only [Lint.mem_undefinedVariables_iff]
  constructor
  · intro reported
    rcases reported with ⟨number, line, found, name', offset, isName, refers, unknown, same⟩
    cases same
    exact ⟨number, line, offset, found, isName, refers, unknown, rfl⟩
  · intro reference
    rcases reference with ⟨number, line, offset, found, isName, refers, unknown, rfl⟩
    exact ⟨number, line, found, name, offset, isName, refers, unknown, rfl⟩

/-- An unused variable is reported where it is declared, and it has no usages. -/
theorem unusedVariable_mem_lint_iff {file : Path} {text name : Text} {predefined : List Text}
    {range : TextRange} :
    ⟨.unusedVariable name, range⟩ ∈ lint file text predefined ↔
      ∃ symbol ∈ declarations file text, symbol.kind = .variable ∧ symbol.name = name ∧
        symbol.range = range ∧ usages file text name = [] := by
  have notOnLines : ⟨.unusedVariable name, range⟩ ∉ Lint.checkLines
      (Lint.known file text predefined) (Lint.namesOf .target (declarations file text))
      text.lines := by
    intro reported
    obtain ⟨_, _, _, _, _, member⟩ := Lint.mem_checkLines_iff.mp reported
    simpa using Lint.finding_of_mem_checkLine member
  rw [lint_eq, ← Lint.checkLines_eq, List.mem_append, or_iff_right notOnLines,
    Lint.unusedVariables]
  simp only [List.mem_map, List.mem_filter, Bool.and_eq_true, decide_eq_true_eq,
    List.isEmpty_iff, Diagnostic.mk.injEq, Finding.unusedVariable.injEq]
  constructor
  · intro reported
    rcases reported with ⟨symbol, ⟨declared, kind, unused⟩, rfl, range⟩
    exact ⟨symbol, declared, kind, rfl, range, unused⟩
  · intro declaration
    rcases declaration with ⟨symbol, declared, kind, rfl, range, unused⟩
    exact ⟨symbol, ⟨declared, kind, unused⟩, rfl, range⟩

end MakefileNav
