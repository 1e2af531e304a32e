/-
Module: MakefileNav.Proofs.UndefinedVariableFixes
Purpose: An undefined variable can be declared in the document or by the caller, to the same
  effect.
Main exports:
  Line.declaredNames_of_assignment, Line.usageOffsets_eq_nil, Lint.checkLine_eq_nil,
  Lint.checkLine_grows, undefined_variable_fixes_agree
-/
import MakefileNav.Proofs.DeclarationsApart
import MakefileNav.Proofs.ReferenceAccounting

namespace MakefileNav

/-!
A line that assigns nothing to a variable and stands at the end of a document has no findings
of its own, refers to nothing and declares the variable only.  So all it changes is that one
more variable is known, and this takes away the findings about that variable.  The list of
names that the caller gives has the same effect.  The new declaration would be reported as
unused if nothing referred to the variable; the finding that is taken away says where
something does.
-/

namespace Line

/-! ### Assignments without references -/

section Assignment

variable {name line : Text}

/-- An assignment without a colon declares its variable only. -/
theorem declaredNames_of_assignment (read : ReadsAsAssignment name line) (flat : ':' ∉ line) :
    declaredNames line = [(.variable, name)] := by
  obtain ⟨isName, blank, operator, rest, isBlank, member, rfl⟩ := read
  have plain : operator ≠ [':', '='] := by
    rintro rfl
    simp at flat
  rw [declaredNames_assignment isName isBlank member, if_neg plain, List.nil_append]

theorem not_refersAt (plain : '$' ∉ line) (other : Text) (offset : Nat) :
    ¬RefersAt line other offset := by
  rintro ⟨before, after, rfl, _⟩
  exact plain (by simp)

/-- An assignment without references uses no name. -/
theorem usageOffsets_eq_nil (read : ReadsAsAssignment name line) (plain : '$' ∉ line)
    (other : Text) : usageOffsets other line = [] := by
  rw [List.eq_nil_iff_forall_not_mem]
  intro offset used
  exact not_refersAt plain other offset (refersAt_of_mem_usageOffsets read used)

end Assignment

/-! ### The assignment of nothing -/

namespace IsVariableName

variable {name : Text}

theorem readsAsAssignment (isName : IsVariableName name) :
    ReadsAsAssignment name (name ++ [' ', '=']) := by
  have isBlank : Text.Blank [' '] := List.forall_mem_singleton.mpr rfl
  exact ⟨isName, [' '], ['='], [], isBlank, by decide, by simp⟩

theorem not_mem_assignment (isName : IsVariableName name) {c : Char}
    (other : Line.isIdentifierChar c = false) (sign : c ∉ [' ', '=']) : c ∉ name ++ [' ', '='] := by
  rw [List.mem_append, not_or]
  exact ⟨Text.not_mem_of_accepted isName.isIdentifierChar other, sign⟩

theorem lines_assignment (isName : IsVariableName name) :
    Text.lines (name ++ [' ', '=']) = [name ++ [' ', '=']] :=
  Text.lines_of_not_mem (isName.not_mem_assignment rfl (by decide)) (by simp)

end IsVariableName

end Line

namespace Lint

/-- Nothing is wrong with an assignment without references. -/
theorem checkLine_eq_nil {name line : Text} (read : Line.ReadsAsAssignment name line)
    (plain : '$' ∉ line) (known targets : List Text) (number : Nat) (previous : Option Text) :
    checkLine known targets number previous line = [] := by
  have tab : tabRequired? number previous line = none := by
    unfold tabRequired?
    rw [if_neg]
    rintro ⟨space, _⟩
    obtain ⟨c, first, identifier⟩ := read.exists_head
    rw [space, Option.some.injEq] at first
    subst first
    exact absurd identifier (by decide)
  have noVariable : undefinedVariables known number line = [] := by
    rw [List.eq_nil_iff_forall_not_mem]
    intro diagnostic reported
    obtain ⟨other, offset, _, refers, _⟩ := mem_undefinedVariables_iff.mp reported
    exact Line.not_refersAt plain other offset refers
  have noTarget : undefinedTargets targets number line = [] := by
    rw [List.eq_nil_iff_forall_not_mem]
    intro diagnostic reported
    obtain ⟨token, kept, _⟩ := List.mem_map.mp reported
    obtain ⟨notAssignment, _⟩ :=
      Line.exists_split_of_mem_dependencies (List.mem_filter.mp kept).1
    rw [read.isAssignment] at notAssignment
    exact Bool.noConfusion notAssignment
  rw [checkLine, tab, noVariable, noTarget]
  rfl

theorem sweep_append_assignment {name line : Text} (read : Line.ReadsAsAssignment name line)
    (plain : '$' ∉ line) (known targets lines : List Text) :
    sweep (checkLine known targets) none 0 (lines ++ [line]) =
      sweep (checkLine known targets) none 0 lines := by
  rw [sweep_append, sweep, sweep, checkLine_eq_nil read plain, List.append_nil, List.append_nil]

/-! ### One more known variable -/

section Growth

variable {known known' : List Text} {name : Text}

theorem undefinedVariables_grows
    (grows : ∀ other, other ∈ known' ↔ other ∈ known ∨ other = name) (number : Nat)
    (line : Text) :
    undefinedVariables known' number line =
      (undefinedVariables known number line).filter (·.finding ≠ .undefinedVariable name) := by
  unfold undefinedVariables
  rw [List.filter_map, List.filter_filter]
  congr 1
  apply List.filter_congr
  intro token _
  rw [Bool.eq_iff_iff]
  simp [grows, and_comm]

/-- To know one more variable takes the findings about it away from a line. -/
theorem checkLine_grows (grows : ∀ other, other ∈ known' ↔ other ∈ known ∨ other = name)
    (targets : List Text) (number : Nat) (previous : Option Text) (line : Text) :
    checkLine known' targets number previous line =
      (checkLine known targets number previous line).filter
        (·.finding ≠ .undefinedVariable name) := by
  have tab : (tabRequired? number previous line).toList.filter
      (·.finding ≠ .undefinedVariable name) = (tabRequired? number previous line).toList := by
    rw [List.filter_eq_self]
    intro diagnostic reported
    rw [finding_of_tabRequired? (Option.mem_toList.mp reported)]
    rfl
  have target : (undefinedTargets targets number line).filter
      (·.finding ≠ .undefinedVariable name) = undefinedTargets targets number line := by
    rw [List.filter_eq_self]
    intro diagnostic reported
    obtain ⟨other, finding⟩ := finding_of_mem_undefinedTargets reported
    rw [finding]
    rfl
  rw [checkLine, checkLine, List.filter_append, List.filter_append, tab, target,
    undefinedVariables_grows grows]

/-- The same for all lines of a document, and for its unused variables, which stay. -/
theorem filter_findings (grows : ∀ other, other ∈ known' ↔ other ∈ known ∨ other = name)
    (targets lines : List Text) (file : Path) (symbols : List Symbol) :
    (sweep (checkLine known targets) none 0 lines ++ unusedVariables file lines symbols).filter
        (·.finding ≠ .undefinedVariable name) =
      sweep (checkLine known' targets) none 0 lines ++ unusedVariables file lines symbols := by
  have unused : (unusedVariables file lines symbols).filter
      (·.finding ≠ .undefinedVariable name) = unusedVariables file lines symbols := by
    rw [List.filter_eq_self]
    intro diagnostic reported
    obtain ⟨symbol, _, rfl⟩ := List.mem_map.mp reported
    rfl
  rw [List.filter_append, unused, filter_sweep]
  simp only [← checkLine_grows grows]

end Growth

end Lint

/-! ### One more line -/

section Declaring

variable {text name line : Text}

theorem usages_append_assignment (file : Path) (read : Line.ReadsAsAssignment name line)
    (plain : '$' ∉ line) (single : line.lines = [line]) (other : Text) :
    usages file (text ++ '\n' :: line) other = usages file text other := by
  have nothing : scanLines (Line.usages file other) text.lines.length [line] = [] := by
    rw [scanLines_cons, scanLines_nil, Line.usages, Line.usageOffsets_eq_nil read plain]
    rfl
  rw [usages_append, single, nothing, ite_self, List.append_nil]

theorem declarations_append_assignment (file : Path) (text : Text)
    (read : Line.ReadsAsAssignment name line) (flat : ':' ∉ line)
    (single : line.lines = [line]) :
    ∃ symbol : Symbol, symbol.kind = .variable ∧ symbol.name = name ∧
      declarations file (text ++ '\n' :: line) = declarations file text ++ [symbol] := by
  refine ⟨⟨.variable, name, ⟨file, .onLine text.lines.length 0 name.byteLength⟩⟩, rfl, rfl, ?_⟩
  rw [declarations_append, single, scanLines_cons, scanLines_nil, Line.declarations,
    Line.declaredNames_of_assignment read flat]
  rfl

namespace Lint

variable {file : Path} {predefined : List Text} {symbol : Symbol}

/-- One more declaration makes one more variable known. -/
theorem mem_known_of_declared {text' : Text} (kind : symbol.kind = .variable)
    (named : symbol.name = name)
    (declared : declarations file text' = declarations file text ++ [symbol]) (other : Text) :
    other ∈ known file text' predefined ↔ other ∈ known file text predefined ∨ other = name := by
  rw [mem_known_iff, mem_known_iff, DeclaresVariable, declared]
  simp only [List.mem_append, List.mem_singleton, or_and_right, exists_or, exists_eq_left, kind,
    named, true_and]
  rw [or_right_comm, eq_comm]
  rfl

/-- One more name from the caller makes one more variable known. -/
theorem mem_known_of_predefined (other : Text) :
    other ∈ known file text (predefined ++ [name]) ↔
      other ∈ known file text predefined ∨ other = name := by
  rw [known, ← List.append_assoc, List.mem_append, List.mem_singleton]
  rfl

/-- A variable that the document already refers to is used, also if its declaration is new. -/
theorem unusedVariables_append_assignment (file : Path)
    (read : Line.ReadsAsAssignment name line) (plain : '$' ∉ line)
    (single : line.lines = [line]) (used : usages file text name ≠ [])
    (named : symbol.name = name) (symbols : List Symbol) :
    unusedVariables file (text ++ '\n' :: line).lines (symbols ++ [symbol]) =
      unusedVariables file text.lines symbols := by
  have same : ∀ other, usagesOnLines file (text ++ '\n' :: line).lines other =
      usagesOnLines file text.lines other :=
    usages_append_assignment file read plain single
  have dropped : (symbol.kind = .variable && (usagesOnLines file text.lines symbol.name).isEmpty) =
      false := by
    rw [named, Bool.and_eq_false_iff]
    exact Or.inr (List.isEmpty_eq_false_iff.mpr used)
  unfold unusedVariables
  simp only [same]
  rw [List.filter_append, List.filter_cons, if_neg (by rw [dropped]; decide), List.filter_nil,
    List.append_nil]

end Lint

end Declaring

/-- The two ways to fix an undefined variable agree and have no other effect.  If the document
has a finding about the variable, then a line at its end that assigns nothing to it and one
more name in the list of the caller both give the findings of before, in their order, without
those about the variable. -/
theorem undefined_variable_fixes_agree (file : Path) (text name : Text) (predefined : List Text)
    (short : Usage.isTooLong name = false)
    (reported : ∃ diagnostic ∈ lint file text predefined,
      diagnostic.finding = .undefinedVariable name) :
    lint file (text ++ '\n' :: (name ++ [' ', '='])) predefined =
        lint file text (predefined ++ [name]) ∧
      lint file text (predefined ++ [name]) =
        (lint file text predefined).filter (·.finding ≠ .undefinedVariable name) := by
  obtain ⟨⟨_, range⟩, member, rfl⟩ := reported
  obtain ⟨number, line, offset, found, isName, refers, _, _⟩ :=
    undefinedVariable_mem_lint_iff.mp member
  have used : usages file text name ≠ [] :=
    usages_ne_nil_of_refersAt file short isName (List.mem_of_getElem? found) refers
  have read := isName.readsAsAssignment
  have single := isName.lines_assignment
  have plain : '$' ∉ name ++ [' ', '='] := isName.not_mem_assignment rfl (by decide)
  have flat : ':' ∉ name ++ [' ', '='] := isName.not_mem_assignment rfl (by decide)
  obtain ⟨symbol, kind, named, declared⟩ :=
    declarations_append_assignment file text read flat single
  have sameTargets : Lint.namesOf .target (declarations file text ++ [symbol]) =
      Lint.namesOf .target (declarations file text) := by
    simp [Lint.namesOf, kind]
  have fixed : lint file text (predefined ++ [name]) =
      (lint file text predefined).filter (·.finding ≠ .undefinedVariable name) := by
    rw [lint_eq, lint_eq, Lint.filter_findings Lint.mem_known_of_predefined]
  refine ⟨?_, fixed⟩
  calc lint file (text ++ '\n' :: (name ++ [' ', '='])) predefined
      = Lint.sweep (Lint.checkLine
            (Lint.known file (text ++ '\n' :: (name ++ [' ', '='])) predefined)
            (Lint.namesOf .target (declarations file text))) none 0 text.lines ++
          Lint.unusedVariables file text.lines (declarations file text) := by
        rw [lint_eq, declared, sameTargets,
          Lint.unusedVariables_append_assignment file read plain single used named,
          Text.lines_append, single, Lint.sweep_append_assignment read plain]
    _ = (lint file text predefined).filter (·.finding ≠ .undefinedVariable name) := by
        rw [lint_eq, Lint.filter_findings (Lint.mem_known_of_declared kind named declared)]
    _ = lint file text (predefined ++ [name]) := fixed.symm

/-- A document with findings of all kinds, two of which are about one variable. -/
theorem undefined_variable_fixes_agree_kinds :
    let file : Path := ⟨['M']⟩
    let text : Text :=
      ['x', ':', '$', '(', 'N', ')', ' ', 'y', '\n', ' ', '$', '(', 'O', ')', '$', '(', 'N', ')', '\n',
        'V', '=']
    let declaring : Text := text ++ ['\n', 'N', ' ', '=']
    Usage.isTooLong ['N'] = false ∧
      ⟨.undefinedVariable ['N'], ⟨⟨0, 4⟩, ⟨0, 5⟩⟩⟩ ∈ lint file text [] ∧
      lint file declaring [] = lint file text [['N']] ∧
      lint file text [['N']] =
        [⟨.undefinedTarget ['y'], ⟨⟨0, 7⟩, ⟨0, 8⟩⟩⟩, ⟨.tabRequired, ⟨⟨1, 0⟩, ⟨1, 1⟩⟩⟩,
          ⟨.undefinedVariable ['O'], ⟨⟨1, 3⟩, ⟨1, 4⟩⟩⟩, ⟨.unusedVariable ['V'], ⟨⟨2, 0⟩, ⟨2, 1⟩⟩⟩] := by
  intro file text declaring
  have short : Usage.isTooLong ['N'] = false := by decide
  have reported : ⟨.undefinedVariable ['N'], ⟨⟨0, 4⟩, ⟨0, 5⟩⟩⟩ ∈ lint file text [] := by decide
  obtain ⟨agree, removed⟩ :=
    undefined_variable_fixes_agree file text ['N'] [] short ⟨_, reported, rfl⟩
  exact ⟨short, reported, agree, removed.trans (by decide)⟩

end MakefileNav
