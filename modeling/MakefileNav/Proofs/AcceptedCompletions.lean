/-
Module: MakefileNav.Proofs.AcceptedCompletions
Purpose: To accept a completion does not bring about the findings that completions are there to
  prevent.
Main exports:
  Lint.FoundOn, Lint.ClearAt, Lint.clearAt_of_line, Line.ReadsAsAssignment.of_dollar,
  Line.ReadsAsRule.of_colon, Line.FitsInReference, Line.reference_eq_of_meets,
  Line.dependency_eq_of_meets, Lint.clearAt_of_known, Lint.clearAt_of_target,
  accepted_completions_are_clear
-/
import MakefileNav.Proofs.CompletionContexts
import MakefileNav.Proofs.Insertions
import MakefileNav.Proofs.LintFindings

namespace MakefileNav

/-!
A completion puts a name into a line.  The name is known before, and two things have to be seen
to: that it is still known in the changed document, where the changed line may declare something
else, and that no longer or shorter name is read at its place.  For references the parentheses
keep the name apart from what is around it, and for dependencies white space does.
-/

namespace Lint

/-! ### Findings about a line -/

/-- The checks of one line make a finding. -/
def FoundOn (file : Path) (text : Text) (predefined : List Text) (number : Nat)
    (diagnostic : Diagnostic) : Prop :=
  ∃ line previous, text.lines[number]? = some line ∧
    (none :: text.lines.map some)[number]? = some previous ∧
    diagnostic ∈ checkLine (known file text predefined)
      (namesOf .target (declarations file text)) number previous line

/-- No finding of the given code overlaps a stretch of a line, if nothing is predefined.  In a
document that has more lines than there are numbers for lines, the last lines share a number,
and only the findings about the line itself are meant. -/
structure ClearAt (file : Path) (text code : Text) (number start stop : Nat) : Prop where
  ofLine : ∀ diagnostic, FoundOn file text [] number diagnostic →
    diagnostic.finding.code = code → ¬diagnostic.range.Overlaps (.onLine number start stop)
  ofDocument : text.lines.length ≤ Position.limit + 1 → ∀ diagnostic ∈ lint file text [],
    diagnostic.finding.code = code → ¬diagnostic.range.Overlaps (.onLine number start stop)

/-- If lines have numbers of their own, it is enough to look at the findings about the line. -/
theorem clearAt_of_line {file : Path} {text code : Text} {number start stop : Nat}
    (used : code ≠ ("unused-variable" : Text)) (inside : number < text.lines.length)
    (ofLine : ∀ diagnostic, FoundOn file text [] number diagnostic →
      diagnostic.finding.code = code → ¬diagnostic.range.Overlaps (.onLine number start stop)) :
    ClearAt file text code number start stop := by
  refine ⟨ofLine, ?_⟩
  intro numbered diagnostic reported sameCode overlaps
  rw [lint_eq, ← checkLines_eq, List.mem_append] at reported
  rcases reported with onLine | unused
  · obtain ⟨number', line, previous, found, above, member⟩ := mem_checkLines_iff.mp onLine
    obtain ⟨start', stop', range⟩ := exists_onLine_of_mem_checkLine member
    rw [range] at overlaps
    have inside' := (List.getElem?_eq_some_iff.mp found).1
    have same : number' = number := by
      have shared := overlaps.columns.1
      unfold Position.clamp at shared
      omega
    subst same
    exact ofLine diagnostic ⟨line, previous, found, above, member⟩ sameCode (range ▸ overlaps)
  · obtain ⟨symbol, _, rfl⟩ := List.mem_map.mp unused
    exact used sameCode.symm

end Lint

namespace Line

/-! ### Lines that go on in another way -/

/-- An assignment stays one, whatever follows a dollar sign in it. -/
theorem ReadsAsAssignment.of_dollar {name before after : Text}
    (read : ReadsAsAssignment name (before ++ '$' :: after)) (other : Text) :
    ReadsAsAssignment name (before ++ '$' :: other) := by
  obtain ⟨isName, blank, operator, rest, isBlank, isOperator, split⟩ := read
  have plain : '$' ∉ name ++ blank ++ operator := by
    rw [List.mem_append, List.mem_append, not_or, not_or]
    refine ⟨⟨Text.not_mem_of_accepted isName.isIdentifierChar rfl,
      Text.not_mem_of_accepted isBlank rfl⟩, ?_⟩
    revert operator
    simp [assignmentOperators]
  obtain ⟨more, rfl⟩ : ∃ more, before = name ++ blank ++ operator ++ more := by
    rcases Text.append_cons_eq_append_iff.mp split with ⟨more, whole, -⟩ | ⟨more, whole, -⟩
    · exact absurd (whole ▸ by simp) plain
    · exact ⟨more, whole⟩
  exact ⟨isName, blank, operator, more ++ '$' :: other, isBlank, isOperator, by simp⟩

/-- A rule stays one, whatever follows its colon. -/
theorem ReadsAsRule.of_colon {name before after : Text} (read : ReadsAsRule name (before ++ after))
    (colon : ':' ∈ before) (other : Text) : ReadsAsRule name (before ++ other) := by
  obtain ⟨isName, blank, rest, isBlank, split⟩ := read
  have flat : ':' ∉ name ++ blank := by
    rw [List.mem_append, not_or]
    exact ⟨Text.not_mem_of_accepted isName.isTargetChar rfl, Text.not_mem_of_accepted isBlank rfl⟩
  obtain ⟨more, rfl⟩ : ∃ more, before = name ++ blank ++ ':' :: more := by
    rcases Text.append_cons_eq_append_iff.mp split.symm with ⟨more, whole, -⟩ | ⟨more, whole, -⟩
    · exact ⟨more, whole⟩
    · exact absurd (whole ▸ List.mem_append_left _ colon) flat
  exact ⟨isName, blank, more ++ other, isBlank, by simp⟩

/-- A rule that is a `.PHONY` list has `.PHONY` for its target. -/
theorem ReadsAsRule.eq_phonyTarget {name line : Text} (read : ReadsAsRule name line)
    (isList : ReadsAsPhonyList line.trim) : name = phonyTarget := by
  obtain ⟨blank, blank', list, isBlank, _, _, trimmed⟩ := isList
  have isName : IsTargetName phonyTarget := by decide
  exact read.trim.unique ⟨isName, blank, blank' ++ list, isBlank, trimmed⟩

/-! ### Names that meet what has been put in -/

/-- A name can be put between the parentheses of a reference. -/
structure FitsInReference (name : Text) : Prop extends Text.Unbroken name where
  noOpening : '(' ∉ name
  noClosing : ')' ∉ name

theorem IsVariableName.fitsInReference {name : Text} (isName : IsVariableName name) :
    FitsInReference name where
  toUnbroken := .of_accepted isName.isIdentifierChar rfl rfl
  noOpening := Text.not_mem_of_accepted isName.isIdentifierChar rfl
  noClosing := Text.not_mem_of_accepted isName.isIdentifierChar rfl

/-- With its parenthesis a name does not break the line either. -/
theorem FitsInReference.closed {name : Text} (fits : FitsInReference name) :
    Text.Unbroken (name ++ [')']) where
  noLineFeed := by simpa using fits.noLineFeed
  noReturn := by simpa using fits.noReturn

/-- A reference that meets a name put between the parentheses of a reference is this one. -/
theorem reference_eq_of_meets {opening inserted after name : Text} {offset : Nat}
    (fits : FitsInReference inserted) (isName : IsVariableName name)
    (refers : RefersAt (opening ++ '$' :: '(' :: (inserted ++ ')' :: after)) name offset)
    (starts : offset < Text.byteLength opening + 2 + Text.byteLength (inserted ++ [')']))
    (stops : Text.byteLength opening + 2 < offset + Text.byteLength name) : name = inserted := by
  obtain ⟨before, behind, split, rfl⟩ := refers
  have fits' := isName.fitsInReference
  have whole : before ++ ['$', '('] ++ (name ++ ')' :: behind) =
      opening ++ ['$', '('] ++ (inserted ++ [')'] ++ after) := by
    simpa using split.symm
  have bytes (text : Text) : Text.byteLength (text ++ ['$', '(']) = Text.byteLength text + 2 :=
    Text.byteLength_append_opening text []
  obtain ⟨-, rest⟩ := Text.before_eq_of_meets whole
    (by rw [bytes, bytes]; omega) (by rw [bytes, bytes]; omega)
    (by simpa using fits'.noOpening) (by simpa using fits.noOpening)
  rw [List.append_assoc] at rest
  exact Text.piece_eq_of_ends rest (by simpa using fits'.noClosing)
    (by simpa using fits.noClosing)

/-- A dependency that meets a target name put between white space is this name. -/
theorem dependency_eq_of_meets {before inserted after : Text} {token : Token}
    (isTarget : ∀ c ∈ inserted, isTargetChar c = true)
    (begins : ∀ c ∈ before.getLast?, isWhitespace c = true)
    (ends : ∀ c ∈ after.head?, isWhitespace c = true)
    (found : token ∈ dependencies (before ++ inserted ++ after))
    (starts : token.offset < Text.byteLength before + Text.byteLength inserted)
    (stops : Text.byteLength before < token.stop) : token.text = inserted := by
  obtain ⟨-, left, colons, passed, behind, split⟩ := exists_split_of_mem_dependencies found
  have solid {c : Char} (white : isWhitespace c = true) : c ∉ token.text := by
    intro member
    rw [split.solid c member] at white
    cases white
  have apart {c : Char} (other : isTargetChar c = false) : c ∉ inserted :=
    Text.not_mem_of_accepted isTarget other
  have whole : left ++ ':' :: (colons ++ passed) ++ (token.text ++ behind) =
      before ++ (inserted ++ after) := by
    rw [← List.append_assoc before, split.line_eq]
    simp
  have rejected {c : Char} (mark : isWhitespace c = true ∨ c = ':' ∨ c = ';') : c ∉ inserted := by
    rcases mark with white | rfl | rfl
    · exact apart (isTargetChar_of_isWhitespace white)
    · exact apart rfl
    · exact apart rfl
  obtain ⟨-, rest⟩ := Text.before_eq_of_meets whole
    (by rw [← split.offset_eq]; exact Nat.le_of_lt stops)
    (by rw [← split.offset_eq]; exact Nat.le_of_lt starts)
    (fun c last => solid (begins c last))
    (fun c last => rejected ((split.last_before c last).imp_right Or.inl))
  exact Text.piece_eq_of_ends rest (fun c first => solid (ends c first))
    (fun c first => rejected ((split.ends c first).imp_right Or.inr))

end Line

namespace Lint

/-! ### Findings that do not come about -/

theorem mem_undefinedVariables_of_code {known targets : List Text} {number : Nat}
    {previous : Option Text} {line : Text} {diagnostic : Diagnostic}
    (reported : diagnostic ∈ checkLine known targets number previous line)
    (code : diagnostic.finding.code = ("undefined-variable" : Text)) :
    diagnostic ∈ undefinedVariables known number line := by
  rw [← filter_checkLine known targets number previous line]
  exact List.mem_filter.mpr ⟨reported, decide_eq_true code⟩

theorem mem_undefinedTargets_of_code {known targets : List Text} {number : Nat}
    {previous : Option Text} {line : Text} {diagnostic : Diagnostic}
    (reported : diagnostic ∈ checkLine known targets number previous line)
    (code : diagnostic.finding.code = ("undefined-target" : Text)) :
    diagnostic ∈ undefinedTargets targets number line := by
  rw [checkLine, List.mem_append, List.mem_append, Option.mem_toList] at reported
  rcases reported with (tab | undefinedVariable) | undefinedTarget
  · rw [finding_of_tabRequired? tab] at code
    exact absurd code (by decide)
  · obtain ⟨name, finding⟩ := finding_of_mem_undefinedVariables undefinedVariable
    rw [finding] at code
    exact absurd code
      (show ("undefined-variable" : Text) ≠ ("undefined-target" : Text) by decide)
  · exact undefinedTarget

section Inserted

variable {file : Path} {text line inserted before after name : Text} {place : Position}

/-- Nothing that is put behind a dollar sign takes a declaration away from a variable. -/
theorem mem_known_insertAt {predefined : List Text} {opening : Text}
    (found : text.lines[place.line]? = some line)
    (cut : line.splitBytes place.character = (opening ++ ['$', '('], after))
    (unbroken : inserted.Unbroken)
    (isKnown : name ∈ known file text predefined) :
    name ∈ known file (text.insertAt place inserted) predefined := by
  rw [known, List.mem_append, List.mem_append] at isKnown ⊢
  refine isKnown.imp_left (Or.imp_left ?_)
  rw [mem_namesOf_declarations_iff, mem_namesOf_declarations_iff]
  rintro ⟨other, member, declared⟩
  rcases Text.mem_lines_insertAt found unbroken member with rfl | kept
  · have parts := Text.splitBytes_append place.character other
    rw [cut, List.append_assoc] at parts
    have read := Line.variable_mem_declaredNames.mp declared
    rw [← parts] at read
    have changed := read.of_dollar ('(' :: (inserted ++ after))
    have here := Text.getElem?_lines_insertAt found cut unbroken
    refine ⟨_, List.mem_of_getElem? here, Line.variable_mem_declaredNames.mpr ?_⟩
    simpa using changed
  · exact ⟨other, kept, declared⟩

/-- Nothing that is put behind the colon of a rule takes the declaration away from its target,
unless the line becomes a `.PHONY` list. -/
theorem mem_targets_insertAt (found : text.lines[place.line]? = some line)
    (cut : line.splitBytes place.character = (before, after)) (colon : ':' ∈ before)
    (unbroken : inserted.Unbroken)
    (isTarget : name ∈ namesOf .target (declarations file text)) :
    name = Line.phonyTarget ∨
      name ∈ namesOf .target (declarations file (text.insertAt place inserted)) := by
  rw [mem_namesOf_declarations_iff] at isTarget ⊢
  obtain ⟨other, member, declared⟩ := isTarget
  rcases Text.mem_lines_insertAt found unbroken member with rfl | kept
  · have parts := Text.splitBytes_append place.character other
    rw [cut] at parts
    have read := (Line.target_mem_declaredNames.mp declared).1
    rw [← parts] at read
    have changed := read.of_colon colon (inserted ++ after)
    rw [← List.append_assoc] at changed
    have here := Text.getElem?_lines_insertAt found cut unbroken
    by_cases isList : Line.ReadsAsPhonyList (Text.trim (before ++ inserted ++ after))
    · exact Or.inl (changed.eq_phonyTarget isList)
    · exact Or.inr ⟨_, List.mem_of_getElem? here,
        Line.target_mem_declaredNames.mpr ⟨changed, isList⟩⟩
  · exact Or.inr ⟨other, kept, declared⟩

/-- For a stretch of the changed line it is enough to look at the findings about this line. -/
theorem clearAt_insertAt {code : Text} {start stop : Nat}
    (used : code ≠ ("unused-variable" : Text)) (found : text.lines[place.line]? = some line)
    (cut : line.splitBytes place.character = (before, after))
    (unbroken : inserted.Unbroken)
    (ofLine : ∀ previous, ∀ diagnostic ∈ checkLine
        (known file (text.insertAt place inserted) [])
        (namesOf .target (declarations file (text.insertAt place inserted))) place.line previous
        (before ++ inserted ++ after),
      diagnostic.finding.code = code →
        ¬diagnostic.range.Overlaps (.onLine place.line start stop)) :
    ClearAt file (text.insertAt place inserted) code place.line start stop := by
  have here := Text.getElem?_lines_insertAt found cut unbroken
  refine clearAt_of_line used (List.getElem?_eq_some_iff.mp here).1 ?_
  rintro diagnostic ⟨changed, previous, found', -, member⟩
  rw [here, Option.some.injEq] at found'
  subst found'
  exact ofLine previous diagnostic member

/-- A known name, put with its parenthesis behind `$(`, is not reported as undefined. -/
theorem clearAt_of_known {opening : Text} (found : text.lines[place.line]? = some line)
    (cut : line.splitBytes place.character = (opening ++ ['$', '('], after))
    (fits : Line.FitsInReference name) (isKnown : name ∈ known file text []) :
    ClearAt file (text.insertAt place (name ++ [')'])) ("undefined-variable" : Text) place.line
      (Text.byteLength (opening ++ ['$', '(']))
      (Text.byteLength (opening ++ ['$', '(']) + Text.byteLength (name ++ [')'])) := by
  refine clearAt_insertAt (by decide) found cut fits.closed ?_
  intro previous diagnostic member code overlaps
  obtain ⟨name', offset, isName, refers, unknown, rfl⟩ :=
    mem_undefinedVariables_iff.mp (mem_undefinedVariables_of_code member code)
  obtain ⟨-, starts, stops⟩ := overlaps.columns
  rw [Text.byteLength_append_opening opening []] at starts stops
  have line' : opening ++ ['$', '('] ++ (name ++ [')']) ++ after =
      opening ++ '$' :: '(' :: (name ++ ')' :: after) := by simp
  rw [line'] at refers
  have same := Line.reference_eq_of_meets fits isName refers starts stops
  subst same
  exact unknown (mem_known_insertAt found cut fits.closed isKnown)

/-- A declared target, put between white space behind a colon, is not reported as undefined. -/
theorem clearAt_of_target (found : text.lines[place.line]? = some line)
    (cut : line.splitBytes place.character = (before, after)) (colon : ':' ∈ before)
    (begins : ∀ c ∈ before.getLast?, isWhitespace c = true)
    (ends : ∀ c ∈ after.head?, isWhitespace c = true)
    (isTarget : name ∈ namesOf .target (declarations file text)) :
    ClearAt file (text.insertAt place name) ("undefined-target" : Text) place.line
      (Text.byteLength before) (Text.byteLength before + Text.byteLength name) := by
  obtain ⟨declaring, _, declared⟩ := mem_namesOf_declarations_iff.mp isTarget
  have isTargetChar := (Line.isTargetName_of_mem_declaredNames declared).isTargetChar
  have unbroken : name.Unbroken := .of_accepted isTargetChar rfl rfl
  refine clearAt_insertAt (by decide) found cut unbroken ?_
  intro previous diagnostic member code overlaps
  obtain ⟨token, kept, rfl⟩ := List.mem_map.mp (mem_undefinedTargets_of_code member code)
  obtain ⟨listed, flagged⟩ := List.mem_filter.mp kept
  obtain ⟨-, starts, stops⟩ := overlaps.columns
  have same := Line.dependency_eq_of_meets isTargetChar begins ends listed starts stops
  rw [same, Bool.and_eq_true, Bool.not_eq_true', List.contains_eq_mem,
    decide_eq_false_iff_not] at flagged
  rcases mem_targets_insertAt found cut colon unbroken isTarget with rfl | stays
  · exact absurd flagged.1 (by decide)
  · exact flagged.2 stays

end Inserted

end Lint

namespace Completion

/-! ### What completions put in -/

/-- Every variable that make is said to set is one that the checks know. -/
theorem predefinedVariables_builtin :
    ∀ entry ∈ predefinedVariables,
      entry.1.toList ∈ Lint.builtinVariables ∧ Line.FitsInReference entry.1.toList := by
  have listed : ∀ entry ∈ predefinedVariables, entry.1.toList ∈ Lint.builtinVariables ∧
      '\n' ∉ entry.1.toList ∧ '\r' ∉ entry.1.toList ∧ '(' ∉ entry.1.toList ∧
      ')' ∉ entry.1.toList := by
    decide +kernel
  intro entry member
  obtain ⟨builtin, noLineFeed, noReturn, noOpening, noClosing⟩ := listed entry member
  exact ⟨builtin, ⟨noLineFeed, noReturn⟩, noOpening, noClosing⟩

/-- A variable that is offered is known, and its name fits between parentheses. -/
theorem exists_of_mem_variableCompletions {file : Path} {text : Text} {item : Completion}
    (offered : item ∈ variableCompletions (declarations file text)) :
    ∃ name, item.insertText = some (name ++ [')']) ∧ name ∈ Lint.known file text [] ∧
      Line.FitsInReference name := by
  rw [variableCompletions, List.mem_append] at offered
  rcases offered with declared | predefined
  · obtain ⟨symbol, member, rfl⟩ := List.mem_map.mp declared
    have named : symbol.name ∈ Lint.namesOf .variable (declarations file text) :=
      List.mem_map_of_mem member
    obtain ⟨line, _, onLine⟩ := Lint.mem_namesOf_declarations_iff.mp named
    have isName := (Line.variable_mem_declaredNames.mp onLine).1
    exact ⟨symbol.name, rfl, List.mem_append_left _ (List.mem_append_left _ named),
      isName.fitsInReference⟩
  · obtain ⟨entry, member, rfl⟩ := List.mem_map.mp predefined
    obtain ⟨builtin, fits⟩ := predefinedVariables_builtin entry member
    exact ⟨entry.1.toList, rfl, List.mem_append_left _ (List.mem_append_right _ builtin), fits⟩

/-- A target that is offered is declared. -/
theorem label_of_mem_targetCompletions {file : Path} {text : Text} {item : Completion}
    (offered : item ∈ targetCompletions (declarations file text)) :
    item.label ∈ Lint.namesOf .target (declarations file text) := by
  rw [← label_targetCompletions]
  exact List.mem_map_of_mem offered

section Offered

variable {text : Text} {place : Position}

/-- A place with something before it is in a line. -/
theorem exists_line
    (nonempty : ((text.lines[place.line]?.getD []).splitBytes place.character).1 ≠ []) :
    text.lines[place.line]? = some (text.lines[place.line]?.getD []) := by
  cases found : text.lines[place.line]? with
  | some line => rfl
  | none =>
      rw [found] at nonempty
      exact absurd rfl nonempty

end Offered

end Completion

/-- Behind `$(` every variable that is offered can be put in without a finding about an undefined
variable there, and between white space every target that is offered as a dependency can be put
in without a finding about an undefined target there. -/
theorem accepted_completions_are_clear (file : Path) (text : Text) (place : Position) :
    let line := text.lines[place.line]?.getD []
    let before := (line.splitBytes place.character).1
    let after := (line.splitBytes place.character).2
    let column := line.snap place.character
    (['$', '('] <:+ before → ∀ item ∈ completions file text place,
      ∃ inserted, item.insertText = some inserted ∧
        (text.insertAt place inserted).lines =
          text.lines.set place.line (before ++ inserted ++ after) ∧
        Lint.ClearAt file (text.insertAt place inserted) ("undefined-variable" : Text) place.line
          column (column + Text.byteLength inserted)) ∧
    (Completion.contextOf before = .dependency →
      (∃ c, before.getLast? = some c ∧ isWhitespace c = true) →
      (∀ c ∈ after.head?, isWhitespace c = true) → ∀ item ∈ completions file text place,
        (text.insertAt place item.label).lines =
          text.lines.set place.line (before ++ item.label ++ after) ∧
        Lint.ClearAt file (text.insertAt place item.label) ("undefined-target" : Text) place.line
          column (column + Text.byteLength item.label)) := by
  intro line before after column
  constructor
  · rintro ⟨opening, ends⟩ item offered
    have found : text.lines[place.line]? = some line :=
      Completion.exists_line fun nothing => by simpa using ends.trans nothing
    have cut : line.splitBytes place.character = (opening ++ ['$', '('], after) :=
      Prod.ext ends.symm rfl
    have asked : Completion.contextOf before = .variableReference :=
      ends ▸ Completion.contextOf_reference opening
    have listed : item ∈ Completion.variableCompletions (declarations file text) := by
      rwa [Completion.completions_of_reference file asked] at offered
    obtain ⟨name, insertText, isKnown, fits⟩ :=
      Completion.exists_of_mem_variableCompletions listed
    refine ⟨name ++ [')'], insertText, ?_, ?_⟩
    · exact Text.lines_insertAt found fits.closed
    · have clear := Lint.clearAt_of_known found cut fits isKnown
      rwa [ends] at clear
  · rintro asked ⟨c, last, white⟩ ends item offered
    have found : text.lines[place.line]? = some line := by
      refine Completion.exists_line fun nothing => ?_
      rw [show before = [] from nothing] at last
      cases last
    have listed : item ∈ Completion.targetCompletions (declarations file text) := by
      rwa [Completion.completions_of_dependency file asked] at offered
    have isTarget := Completion.label_of_mem_targetCompletions listed
    obtain ⟨_, _, declared⟩ := Lint.mem_namesOf_declarations_iff.mp isTarget
    have isTargetChar := (Line.isTargetName_of_mem_declaredNames declared).isTargetChar
    constructor
    · exact Text.lines_insertAt found (.of_accepted isTargetChar rfl rfl)
    · refine Lint.clearAt_of_target found rfl (Completion.colon_mem_of_contextOf asked) ?_ ends
        isTarget
      intro d final
      rw [last, Option.mem_some_iff] at final
      exact final ▸ white

/-- A variable put into the line that declares it, and a target into its own rule.  A name that
is not offered would be reported. -/
theorem accepted_completions_are_clear_own_line :
    let file : Path := ⟨['M']⟩
    let text : Text := ['X', ' ', ':', '=', ' ', '$', '(', '\n', 'a', ':', ' ']
    let inReference : Position := ⟨0, 7⟩
    let inRule : Position := ⟨1, 3⟩
    (∃ item ∈ completions file text inReference, item.insertText = some ['X', ')']) ∧
      text.insertAt inReference ['X', ')'] =
        ['X', ' ', ':', '=', ' ', '$', '(', 'X', ')', '\n', 'a', ':', ' '] ∧
      Lint.ClearAt file (text.insertAt inReference ['X', ')']) ("undefined-variable" : Text)
        0 7 9 ∧
      ¬Lint.ClearAt file (text.insertAt inReference ['Q', ')']) ("undefined-variable" : Text)
        0 7 9 ∧
      (∃ item ∈ completions file text inRule, item.label = ['a']) ∧
      Lint.ClearAt file (text.insertAt inRule ['a']) ("undefined-target" : Text) 1 3 4 := by
  intro file text inReference inRule
  let x : Completion := Completion.ofVariable ['X'] "User-defined variable"
  let a : Completion := Completion.ofTarget ['a']
  have offered : x ∈ completions file text inReference := by decide +kernel
  have offered' : a ∈ completions file text inRule := by decide +kernel
  obtain ⟨inserted, same, -, clear⟩ :=
    (accepted_completions_are_clear file text inReference).1
      ⟨['X', ' ', ':', '=', ' '], by decide⟩ x offered
  obtain ⟨-, clear'⟩ := (accepted_completions_are_clear file text inRule).2 (by decide)
    ⟨' ', by decide, by decide⟩ (by rintro c ⟨⟩) a offered'
  cases same
  refine ⟨⟨x, offered, rfl⟩, by decide, clear, ?_, ⟨a, offered', rfl⟩, clear'⟩
  intro unknown
  have reported : Lint.FoundOn file (text.insertAt inReference ['Q', ')']) [] 0
      ⟨.undefinedVariable ['Q'], .onLine 0 7 8⟩ :=
    ⟨['X', ' ', ':', '=', ' ', '$', '(', 'Q', ')'], none, by decide +kernel, rfl,
      by decide +kernel⟩
  exact unknown.ofLine _ reported rfl
    ⟨⟨0, 7⟩, ⟨by decide, by decide⟩, ⟨by decide, by decide⟩⟩

end MakefileNav
