/-
Module: MakefileNav.Proofs.RuleLines
Purpose: What the checks take for a rule line.
Main exports:
  Line.IsRuleLine, Line.HasStrayColon, Line.colon_and_speaks_iff,
  tabRequired_below_rule_or_stray_colon, tabRequired_below_assignment
-/
import MakefileNav.Proofs.LintFindings

namespace MakefileNav

/-!
Two checks ask whether a line is a rule.  The one for undefined targets leaves out comments,
recipe lines and assignments.  The one for missing tabs looks at the line above and leaves out
comments only, so that any colon in a recipe or in an assignment makes it expect a recipe below.
-/

namespace Line

/-! ### Rule lines and stray colons -/

/-- A line with a colon that is no comment, no recipe line and no assignment. -/
structure IsRuleLine (line : Text) : Prop where
  colon : ':' ∈ line
  speaks : line.trim.head? ≠ some '#'
  noRecipe : line.head? ≠ some '\t'
  noAssignment : isAssignment line = false

/-- A recipe line or an assignment with a colon in it. -/
structure HasStrayColon (line : Text) : Prop where
  colon : ':' ∈ line
  speaks : line.trim.head? ≠ some '#'
  noRule : line.head? = some '\t' ∨ isAssignment line = true

theorem HasStrayColon.not_isRuleLine {line : Text} (stray : HasStrayColon line) :
    ¬IsRuleLine line := by
  intro rule
  rcases stray.noRule with recipe | assignment
  · exact rule.noRecipe recipe
  · exact absurd (rule.noAssignment.symm.trans assignment) Bool.false_ne_true

/-- A line with a colon that is no comment is a rule line or has a stray colon. -/
theorem colon_and_speaks_iff {line : Text} :
    ':' ∈ line ∧ line.trim.head? ≠ some '#' ↔ IsRuleLine line ∨ HasStrayColon line := by
  constructor
  · rintro ⟨colon, speaks⟩
    by_cases recipe : line.head? = some '\t'
    · exact Or.inr ⟨colon, speaks, Or.inl recipe⟩
    · cases assignment : isAssignment line with
      | true => exact Or.inr ⟨colon, speaks, Or.inr assignment⟩
      | false => exact Or.inl ⟨colon, speaks, recipe, assignment⟩
  · rintro (rule | stray)
    · exact ⟨rule.colon, rule.speaks⟩
    · exact ⟨stray.colon, stray.speaks⟩

end Line

/-! ### Findings below rule lines -/

/-- A missing tab is reported on every line that is indented with a space and not blank, if the
line above is a rule line or has a stray colon, and on no other line. -/
theorem tabRequired_below_rule_or_stray_colon (file : Path) (text : Text) (predefined : List Text)
    (range : TextRange) :
    ⟨.tabRequired, range⟩ ∈ lint file text predefined ↔
      ∃ number previous line, text.lines[number]? = some previous ∧
        text.lines[number + 1]? = some line ∧ line.head? = some ' ' ∧ ¬line.Blank ∧
        (Line.IsRuleLine previous ∨ Line.HasStrayColon previous) ∧
        range = .onLine (number + 1) 0 line.indent := by
  rw [tabRequired_mem_lint_iff]
  simp only [← Line.colon_and_speaks_iff, and_assoc]

/-- A missing tab below an assignment with a colon. -/
theorem tabRequired_below_assignment :
    let text : Text := "CC := gcc\n  LD = ld"
    ⟨.tabRequired, .onLine 1 0 2⟩ ∈ lint ⟨['M']⟩ text [] ∧
      text.lines[0]? = some ("CC := gcc" : Text) ∧
      Line.assignedName? (Text.trim "CC := gcc") = some ("CC" : Text) ∧
      ¬Line.IsRuleLine ("CC := gcc" : Text) := by
  intro text
  have stray : Line.HasStrayColon ("CC := gcc" : Text) :=
    ⟨by decide, by decide, Or.inr (by decide)⟩
  exact ⟨by decide +kernel, by decide, by decide, stray.not_isRuleLine⟩

end MakefileNav
