/-
Module: MakefileNav.Proofs.ReferenceAccounting
Purpose: The checks of a document account for every reference to a variable.
Main exports:
  usages_ne_nil_of_refersAt, Lint.not_undefinedVariable_of_known,
  Lint.not_refersAt_of_unusedVariable, Lint.filter_lint_of_refersAt, references_accounted_for
-/
import MakefileNav.Proofs.LintFindings
import MakefileNav.Proofs.UsageSpecification

namespace MakefileNav

/-!
Two readers look at references.  The check for undefined variables reads any name between
the parentheses and asks whether it is known, and the check for unused variables takes a
declared name and searches for references to it.  They would contradict each other if one of
them saw a reference that the other does not see.  For the names of variables both see exactly
the places at which the characters of a reference stand, so that every reference makes its
variable used or is reported, and is reported once.
-/

/-- A reference to a variable is a usage of it, unless the name is too long to be searched
for. -/
theorem usages_ne_nil_of_refersAt (file : Path) {text line name : Text} {offset : Nat}
    (short : Usage.isTooLong name = false) (isName : Line.IsVariableName name)
    (member : line ∈ text.lines) (refers : Line.RefersAt line name offset) :
    usages file text name ≠ [] := by
  obtain ⟨number, found⟩ := List.getElem?_of_mem member
  have closed : ')' ∉ name := Text.not_mem_of_accepted isName.isIdentifierChar rfl
  have place : offset ∈ Line.usageOffsets name line :=
    List.mem_append_left _ ((Usage.mem_inReferences_iff closed).mpr refers)
  exact List.ne_nil_of_mem
    (mem_usages_iff.mpr ⟨isName.nonempty, short, number, line, offset, found, place, rfl⟩)

/-- The name of a declared variable is the name of a variable. -/
theorem Lint.DeclaresVariable.isVariableName {file : Path} {text name : Text}
    (declares : DeclaresVariable file text name) : Line.IsVariableName name := by
  obtain ⟨symbol, declared, kind, rfl⟩ := declares
  obtain ⟨number, line, _, member⟩ := mem_scanLines.mp declared
  obtain ⟨⟨kind', name⟩, named, rfl⟩ := List.mem_map.mp member
  obtain rfl : kind' = .variable := kind
  exact (Line.variable_mem_declaredNames.mp named).1

namespace Lint

section Findings

variable {file : Path} {text name : Text} {predefined : List Text}

theorem not_undefinedVariable_of_known (isKnown : name ∈ known file text predefined)
    {diagnostic : Diagnostic} (reported : diagnostic ∈ lint file text predefined) :
    diagnostic.finding ≠ .undefinedVariable name := by
  obtain ⟨finding, range⟩ := diagnostic
  rintro rfl
  obtain ⟨_, _, _, _, _, _, unknown, _⟩ := undefinedVariable_mem_lint_iff.mp reported
  exact unknown isKnown

/-- What is reported as unused is declared and not referred to. -/
theorem not_refersAt_of_unusedVariable {range : TextRange}
    (reported : ⟨.unusedVariable name, range⟩ ∈ lint file text predefined) :
    DeclaresVariable file text name ∧
      (Usage.isTooLong name = false →
        ∀ line ∈ text.lines, ∀ offset, ¬Line.RefersAt line name offset) := by
  obtain ⟨symbol, declared, kind, named, _, unused⟩ := unusedVariable_mem_lint_iff.mp reported
  have declares : DeclaresVariable file text name := ⟨symbol, declared, kind, named⟩
  refine ⟨declares, ?_⟩
  intro short line member offset refers
  exact usages_ne_nil_of_refersAt file short declares.isVariableName member refers unused

/-- A reference to a variable that nothing sets is reported once. -/
theorem filter_lint_of_refersAt {line : Text} {number offset : Nat}
    (reportable : text.Reportable) (found : text.lines[number]? = some line)
    (isName : Line.IsVariableName name) (refers : Line.RefersAt line name offset)
    (unknown : name ∉ known file text predefined) :
    let range : TextRange := ⟨⟨number, offset⟩, ⟨number, offset + name.byteLength⟩⟩
    ((lint file text predefined).filter
        (·.finding.code = ("undefined-variable" : Text))).filter (·.range = range) =
      [⟨.undefinedVariable name, range⟩] := by
  intro range
  have rangeEq : TextRange.onLine number offset (offset + name.byteLength) = range :=
    refers.standsIn.onLine_eq reportable found
  have reported : ⟨.undefinedVariable name, range⟩ ∈
      scanLines (undefinedVariables (known file text predefined)) 0 text.lines := by
    rw [mem_scanLines]
    refine ⟨number, line, found, ?_⟩
    rw [mem_undefinedVariables_iff]
    exact ⟨name, offset, isName, refers, unknown, by rw [rangeEq]⟩
  rw [filter_lint]
  exact filter_range_eq_singleton (undefinedVariables_pairwise _ reportable) reported

end Findings

end Lint

/-- Every reference to a variable is accounted for, and only once.  If the document declares
the variable, then it is reported neither as undefined nor as unused.  If make or the caller
sets it, it is not reported as undefined.  Otherwise one finding about undefined variables has
the range of the name in the reference.  Conversely a variable that is reported as undefined is
referred to at the range of the finding and is known from nowhere, and one that is reported as
unused is declared and not referred to.  Names that are too long to be searched for are reported
as unused whether they are referred to or not. -/
theorem references_accounted_for (file : Path) (text : Text) (predefined : List Text)
    (reportable : text.Reportable) :
    (∀ number line name offset, text.lines[number]? = some line → Line.IsVariableName name →
      Line.RefersAt line name offset →
        (Lint.DeclaresVariable file text name → ∀ diagnostic ∈ lint file text predefined,
          diagnostic.finding ≠ .undefinedVariable name ∧
            (Usage.isTooLong name = false → diagnostic.finding ≠ .unusedVariable name)) ∧
        (name ∈ Lint.builtinVariables ∨ name ∈ predefined →
          ∀ diagnostic ∈ lint file text predefined,
            diagnostic.finding ≠ .undefinedVariable name) ∧
        (¬Lint.DeclaresVariable file text name → name ∉ Lint.builtinVariables →
          name ∉ predefined →
          let range : TextRange := ⟨⟨number, offset⟩, ⟨number, offset + name.byteLength⟩⟩
          ((lint file text predefined).filter
              (·.finding.code = ("undefined-variable" : Text))).filter (·.range = range) =
            [⟨.undefinedVariable name, range⟩])) ∧
      (∀ name range, ⟨.undefinedVariable name, range⟩ ∈ lint file text predefined →
        ¬Lint.DeclaresVariable file text name ∧ name ∉ Lint.builtinVariables ∧
          name ∉ predefined ∧ Line.IsVariableName name ∧
          ∃ number line offset, text.lines[number]? = some line ∧
            Line.RefersAt line name offset ∧
            range = ⟨⟨number, offset⟩, ⟨number, offset + name.byteLength⟩⟩) ∧
      (∀ name range, ⟨.unusedVariable name, range⟩ ∈ lint file text predefined →
        Lint.DeclaresVariable file text name ∧
          (Usage.isTooLong name = false →
            ∀ line ∈ text.lines, ∀ offset, ¬Line.RefersAt line name offset)) := by
  refine ⟨?_, ?_, fun _ _ => Lint.not_refersAt_of_unusedVariable⟩
  · intro number line name offset found isName refers
    refine ⟨?_, ?_, ?_⟩
    · rintro declares ⟨finding, range⟩ reported
      have isKnown : name ∈ Lint.known file text predefined :=
        Lint.mem_known_iff.mpr (Or.inl declares)
      refine ⟨Lint.not_undefinedVariable_of_known isKnown reported, ?_⟩
      rintro short rfl
      have notReferred := (Lint.not_refersAt_of_unusedVariable reported).2 short
      exact notReferred line (List.mem_of_getElem? found) offset refers
    · intro set diagnostic reported
      have isKnown : name ∈ Lint.known file text predefined :=
        Lint.mem_known_iff.mpr (Or.inr set)
      exact Lint.not_undefinedVariable_of_known isKnown reported
    · intro undeclared notBuiltin notPredefined
      have unknown : name ∉ Lint.known file text predefined := by
        rw [Lint.mem_known_iff, not_or, not_or]
        exact ⟨undeclared, notBuiltin, notPredefined⟩
      exact Lint.filter_lint_of_refersAt reportable found isName refers unknown
  · intro name range reported
    obtain ⟨number, line, offset, found, isName, refers, unknown, rfl⟩ :=
      undefinedVariable_mem_lint_iff.mp reported
    rw [Lint.mem_known_iff, not_or, not_or] at unknown
    obtain ⟨undeclared, notBuiltin, notPredefined⟩ := unknown
    exact ⟨undeclared, notBuiltin, notPredefined, isName, number, line, offset, found, refers,
      refers.standsIn.onLine_eq reportable found⟩

/-- A document with a reference in a value, two references behind an opening that is never
closed, and a variable that nothing refers to. -/
theorem references_accounted_for_unclosed :
    let file : Path := ⟨['M']⟩
    let text : Text :=
      ['C', '=', '$', '(', 'B', ')', '\n', 'x', ':', '$', '(', '$', '(', 'C', ')', '$', '(', 'D', ')',
        '\n', 'V', '=']
    let predefined : List Text := [['D']]
    let range : TextRange := ⟨⟨0, 4⟩, ⟨0, 5⟩⟩
    text.Reportable ∧
      (text.lines[0]? = some ['C', '=', '$', '(', 'B', ')'] ∧ Line.IsVariableName ['B'] ∧
        Line.RefersAt ['C', '=', '$', '(', 'B', ')'] ['B'] 4 ∧
        ¬Lint.DeclaresVariable file text ['B'] ∧ ['B'] ∉ Lint.builtinVariables ∧
        ['B'] ∉ predefined ∧
        ((lint file text predefined).filter
            (·.finding.code = ("undefined-variable" : Text))).filter (·.range = range) =
          [⟨.undefinedVariable ['B'], range⟩]) ∧
      (Lint.DeclaresVariable file text ['C'] ∧ Usage.isTooLong ['C'] = false ∧
        ∀ diagnostic ∈ lint file text predefined,
          diagnostic.finding ≠ .undefinedVariable ['C'] ∧
            diagnostic.finding ≠ .unusedVariable ['C']) ∧
      (['D'] ∈ predefined ∧ ∀ diagnostic ∈ lint file text predefined,
        diagnostic.finding ≠ .undefinedVariable ['D']) ∧
      (⟨.unusedVariable ['V'], ⟨⟨2, 0⟩, ⟨2, 1⟩⟩⟩ ∈ lint file text predefined ∧
        Usage.isTooLong ['V'] = false ∧
        ∀ line ∈ text.lines, ∀ offset, ¬Line.RefersAt line ['V'] offset) := by
  intro file text predefined range
  have reportable : text.Reportable := ⟨by decide, by decide⟩
  have value : text.lines[0]? = some ['C', '=', '$', '(', 'B', ')'] := by decide
  have isName : ∀ c, Line.IsLetter c → Line.IsVariableName [c] := by
    intro c letter
    exact ⟨Or.inl letter, by simp⟩
  have isB : Line.IsVariableName ['B'] := isName 'B' (Or.inr (by decide))
  have refersB : Line.RefersAt ['C', '=', '$', '(', 'B', ')'] ['B'] 4 := ⟨['C', '='], [], rfl, rfl⟩
  have rule : text.lines[1]? =
      some ['x', ':', '$', '(', '$', '(', 'C', ')', '$', '(', 'D', ')'] := by decide
  have refersC : Line.RefersAt ['x', ':', '$', '(', '$', '(', 'C', ')', '$', '(', 'D', ')']
      ['C'] 6 := ⟨['x', ':', '$', '('], ['$', '(', 'D', ')'], rfl, rfl⟩
  have refersD : Line.RefersAt ['x', ':', '$', '(', '$', '(', 'C', ')', '$', '(', 'D', ')']
      ['D'] 10 := ⟨['x', ':', '$', '(', '$', '(', 'C', ')'], [], rfl, rfl⟩
  have declaresC : Lint.DeclaresVariable file text ['C'] :=
    ⟨⟨.variable, ['C'], ⟨file, ⟨⟨0, 0⟩, ⟨0, 1⟩⟩⟩⟩, by decide⟩
  have undeclaredB : ¬Lint.DeclaresVariable file text ['B'] := by
    unfold Lint.DeclaresVariable
    decide
  have unusedV : ⟨.unusedVariable ['V'], ⟨⟨2, 0⟩, ⟨2, 1⟩⟩⟩ ∈ lint file text predefined := by decide
  obtain ⟨accounted, _, unused⟩ := references_accounted_for file text predefined reportable
  have once := (accounted 0 _ ['B'] 4 value isB refersB).2.2
  have used := (accounted 1 _ ['C'] 6 rule (isName 'C' (Or.inr (by decide))) refersC).1
  have set := (accounted 1 _ ['D'] 10 rule (isName 'D' (Or.inr (by decide))) refersD).2.1
  refine ⟨reportable, ⟨value, isB, refersB, undeclaredB, by decide, by decide,
    once undeclaredB (by decide) (by decide)⟩, ⟨declaresC, by decide, ?_⟩,
    ⟨by decide, set (Or.inr (by decide))⟩, ⟨unusedV, by decide,
    (unused ['V'] _ unusedV).2 (by decide)⟩⟩
  intro diagnostic reported
  have absent := used declaresC diagnostic reported
  exact ⟨absent.1, absent.2 (by decide)⟩

end MakefileNav
