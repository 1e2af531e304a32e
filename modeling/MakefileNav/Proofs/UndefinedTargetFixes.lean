/-
Module: MakefileNav.Proofs.UndefinedTargetFixes
Purpose: Which undefined targets can be declared.
Main exports:
  Line.IsTargetName.mem_declaredNames_rule, Line.isTargetName_iff_exists_line,
  undefinedTarget_mem_lint_append, undefined_target_fixed_iff, continuation_reported_below_rule
-/
import MakefileNav.Proofs.LintFindings
import MakefileNav.Proofs.Pieces

namespace MakefileNav

/-!
The dependencies of a line are its words, and a word is left alone if it has a sign of a
variable, a pattern or a file name.  The target of a rule has letters, digits and a few other
characters.  Between the two there are words that are reported although no line can declare
them, such as the backslash of a continued line and words with letters of other alphabets.
-/

namespace Line

/-! ### Names that a line can declare -/

/-- A rule without dependencies is no `.PHONY` list. -/
theorem not_readsAsPhonyList_rule {name : Text} (flat : ':' ∉ name) :
    ¬ReadsAsPhonyList (Text.trim (name ++ [':'])) := by
  rintro ⟨blank, blank', list, _, _, nonempty, trimmed⟩
  obtain ⟨trailing, _, split⟩ := Text.exists_trim (name ++ [':'])
  rw [trimmed] at split
  -- A list stands behind the colon, but the only colon is the last character.
  have inner : ':' ∈ (name ++ [':']).dropLast := by
    have more : blank' ++ list ++ trailing ≠ [] := by simp [nonempty]
    have whole : name ++ [':'] =
        List.takeWhile isWhitespace (name ++ [':']) ++ phonyTarget ++ blank ++
          ':' :: (blank' ++ list ++ trailing) := by
      simpa using split
    rw [whole, List.dropLast_append_of_ne_nil (by simp), List.dropLast_cons_of_ne_nil more]
    simp
  rw [List.dropLast_concat] at inner
  exact flat inner

/-- A rule without dependencies declares its target. -/
theorem IsTargetName.mem_declaredNames_rule {name : Text} (isName : IsTargetName name) :
    (SymbolKind.target, name) ∈ declaredNames (name ++ [':']) := by
  have flat : ':' ∉ name := Text.not_mem_of_accepted isName.isTargetChar rfl
  rw [target_mem_declaredNames]
  exact ⟨⟨isName, [], [], by simp [Text.Blank], by simp⟩, not_readsAsPhonyList_rule flat⟩

/-- A name can be a target if and only if some line declares it, be it as a target or as a
variable. -/
theorem isTargetName_iff_exists_line {name : Text} :
    IsTargetName name ↔ ∃ line kind, (kind, name) ∈ declaredNames line := by
  constructor
  · intro isName
    exact ⟨_, .target, isName.mem_declaredNames_rule⟩
  · rintro ⟨line, kind, declared⟩
    exact isTargetName_of_mem_declaredNames declared

end Line

/-! ### Documents with a line more -/

/-- A rule at the end of a document declares its target. -/
theorem mem_namesOf_append_rule (file : Path) (text : Text) {name : Text}
    (isName : Line.IsTargetName name) :
    name ∈ Lint.namesOf .target (declarations file (text ++ '\n' :: (name ++ [':']))) := by
  have single : Text.lines (name ++ [':']) = [name ++ [':']] := by
    apply Text.lines_of_not_mem
    · simpa using Text.not_mem_of_accepted isName.isTargetChar rfl
    · simp
  rw [Lint.mem_namesOf_declarations_iff]
  refine ⟨name ++ [':'], ?_, isName.mem_declaredNames_rule⟩
  rw [Text.lines_append, single]
  simp

/-- What is no name of a target is reported wherever it was, whatever is put below. -/
theorem undefinedTarget_mem_lint_append {file : Path} {text name : Text} {predefined : List Text}
    {range : TextRange} (undeclarable : ¬Line.IsTargetName name)
    (reported : ⟨.undefinedTarget name, range⟩ ∈ lint file text predefined) (more : Text) :
    ⟨.undefinedTarget name, range⟩ ∈ lint file (text ++ '\n' :: more) predefined := by
  obtain ⟨number, line, offset, found, listed, flagged, -, rfl⟩ :=
    undefinedTarget_mem_lint_iff.mp reported
  have stays : (text ++ '\n' :: more).lines[number]? = some line := by
    rw [Text.lines_append, List.getElem?_append_left (List.getElem?_eq_some_iff.mp found).1, found]
  refine undefinedTarget_mem_lint_iff.mpr
    ⟨number, line, offset, stays, listed, flagged, ?_, rfl⟩
  intro declared
  obtain ⟨other, -, named⟩ := Lint.mem_namesOf_declarations_iff.mp declared
  exact undeclarable (Line.isTargetName_iff_exists_line.mpr ⟨other, _, named⟩)

/-- A rule for an undefined target, put at the end of the document, takes away all findings about
this target if and only if its name can be the target of a rule.  If it cannot, every finding
about it stays, whatever is put at the end. -/
theorem undefined_target_fixed_iff (file : Path) (text name : Text) (predefined : List Text)
    (reported : ∃ range, ⟨.undefinedTarget name, range⟩ ∈ lint file text predefined) :
    ((∀ range, ⟨.undefinedTarget name, range⟩ ∉
        lint file (text ++ '\n' :: (name ++ [':'])) predefined) ↔ Line.IsTargetName name) ∧
      (¬Line.IsTargetName name → (∀ line kind, (kind, name) ∉ Line.declaredNames line) ∧
        ∀ range, ⟨.undefinedTarget name, range⟩ ∈ lint file text predefined →
          ∀ more, ⟨.undefinedTarget name, range⟩ ∈
            lint file (text ++ '\n' :: more) predefined) := by
  have stays (undeclarable : ¬Line.IsTargetName name) (range : TextRange) :=
    @undefinedTarget_mem_lint_append file text name predefined range undeclarable
  refine ⟨⟨?_, ?_⟩, fun undeclarable => ⟨?_, stays undeclarable⟩⟩
  · intro fixed
    obtain ⟨range, member⟩ := reported
    by_contra undeclarable
    exact fixed range (stays undeclarable range member _)
  · intro isName range member
    obtain ⟨_, _, _, _, _, _, undeclared, _⟩ := undefinedTarget_mem_lint_iff.mp member
    exact undeclared (mem_namesOf_append_rule file text isName)
  · intro line kind declared
    exact undeclarable (Line.isTargetName_iff_exists_line.mpr ⟨line, kind, declared⟩)

/-- A name with a hyphen is fixed, a word with another letter is not and cannot be declared. -/
theorem undefined_target_fixed_iff_words :
    let file : Path := ⟨['M']⟩
    let text : Text := ['a', ':', ' ', 'b', '-', '1', ' ', 'é']
    (∀ range, ⟨.undefinedTarget ['b', '-', '1'], range⟩ ∉
        lint file (text ++ ['\n', 'b', '-', '1', ':']) []) ∧
      (∀ line kind, (kind, ['é']) ∉ Line.declaredNames line) ∧
      ⟨.undefinedTarget ['é'], .onLine 0 7 9⟩ ∈ lint file (text ++ ['\n', 'é', ':']) [] := by
  intro file text
  have reported : ⟨.undefinedTarget ['b', '-', '1'], .onLine 0 3 6⟩ ∈ lint file text [] := by
    decide
  have reported' : ⟨.undefinedTarget ['é'], .onLine 0 7 9⟩ ∈ lint file text [] := by decide
  have isName : Line.IsTargetName ['b', '-', '1'] := by decide
  have noName : ¬Line.IsTargetName ['é'] := by decide
  obtain ⟨undeclared, stays⟩ :=
    (undefined_target_fixed_iff file text _ [] ⟨_, reported'⟩).2 noName
  refine ⟨?_, undeclared, stays _ reported' _⟩
  exact (undefined_target_fixed_iff file text _ [] ⟨_, reported⟩).1.mpr isName

/-- The backslash of a continued line is reported, and a rule for it changes nothing. -/
theorem continuation_reported_below_rule :
    let file : Path := ⟨['M']⟩
    let text : Text := ['a', ':', ' ', '\\']
    ⟨.undefinedTarget ['\\'], .onLine 0 3 4⟩ ∈ lint file text [] ∧
      ⟨.undefinedTarget ['\\'], .onLine 0 3 4⟩ ∈ lint file (text ++ '\n' :: (['\\'] ++ [':'])) [] ∧
      ¬Line.IsTargetName ['\\'] := by
  intro file text
  exact ⟨by decide, by decide, by decide⟩

end MakefileNav
