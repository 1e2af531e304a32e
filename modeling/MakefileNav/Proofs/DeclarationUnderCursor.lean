/-
Module: MakefileNav.Proofs.DeclarationUnderCursor
Purpose: What a cursor on a declared name is answered with, and where the hover text and
  the definitions lead from there.
Main exports:
  Line.exists_after_of_mem_declaredNames, Cursor.nameOnLine?_on_declaration,
  DeclaredFirst, firstDeclaration?_eq_some_iff, declared_name_under_cursor
-/
import MakefileNav.Hover
import MakefileNav.Proofs.CursorReading
import MakefileNav.Proofs.LineGrammar
import MakefileNav.Workspace

namespace MakefileNav

/-!
Three readers meet on a declared name: the one that finds targets, the one that finds
assignments and the one that finds words under a cursor.  They know different characters,
but they all stop at the same place, because white space and operators belong to none of
their classes.  Only the percent sign makes a difference.  It belongs to a target and to
no word, so that a cursor on the name of a pattern finds a piece of it at most.
-/

namespace Line

/-! ### What follows a declared name -/

/-- A line begins with the name that it declares, and what follows cannot continue a name.
The line has a colon or is an assignment to the name. -/
theorem exists_after_of_mem_declaredNames {kind : SymbolKind} {name line : Text}
    (declared : (kind, name) ∈ declaredNames line) :
    ∃ after, line = name ++ after ∧
      (∀ c ∈ after.head?, isTargetChar c = false) ∧
      (':' ∈ line ∨ assignedName? line = some name) := by
  have apart : ∀ c, isWhitespace c = true → isTargetChar c = false :=
    fun _ => isTargetChar_of_isWhitespace
  cases kind with
  | target =>
      obtain ⟨⟨_, blank, rest, isBlank, rfl⟩, _⟩ := target_mem_declaredNames.mp declared
      refine ⟨blank ++ ':' :: rest, by simp, ?_, Or.inl (by simp)⟩
      apply isBlank.head_append apart
      intro c first
      obtain rfl : ':' = c := by simpa using first
      decide
  | «variable» =>
      have assignment := variable_mem_declaredNames.mp declared
      have assigned := assignedName?_eq_some_iff.mpr assignment
      obtain ⟨_, blank, operator, rest, isBlank, member, rfl⟩ := assignment
      refine ⟨blank ++ (operator ++ rest), by simp, ?_, Or.inr assigned⟩
      apply isBlank.head_append apart
      intro c first
      exact (head_of_mem_assignmentOperators member rest c first).1

end Line

/-! ### The cursor on a declared name -/

namespace Cursor

/-- A cut inside a declared name, or at one of its ends, is answered with the name exactly
if the name has no percent sign. -/
theorem nameOnLine?_on_declaration {kind : SymbolKind} {inner rest line : Text}
    (declared : (kind, inner ++ rest) ∈ Line.declaredNames line) :
    nameOnLine? line (Text.byteLength inner) = some (inner ++ rest) ↔ '%' ∉ inner ++ rest := by
  have isName := Line.isTargetName_of_mem_declaredNames declared
  obtain ⟨after, lineEq, stops, plain⟩ := Line.exists_after_of_mem_declaredNames declared
  have outside : referenceAt? line (Text.byteLength inner) = none := by
    rw [lineEq, List.append_assoc]
    apply referenceAt?_eq_none
    intro member
    exact Text.not_mem_of_accepted isName.isTargetChar rfl (List.mem_append_left rest member)
  constructor
  · intro answered percent
    -- With a percent sign the line is no assignment, so the answer would be a word.
    have colon : ':' ∈ line := by
      rcases plain with colon | assigned
      · exact colon
      · have assignment := Line.assignedName?_eq_some_iff.mp assigned
        exact absurd percent (Text.not_mem_of_accepted assignment.1.isIdentifierChar rfl)
    cases touched : wordAt? line (Text.byteLength inner) with
    | none => simp [nameOnLine?, touched] at answered
    | some word =>
        rw [nameOnLine?_of_word touched outside (Or.inl colon), Option.some.injEq] at answered
        have noPercent : '%' ∉ word.text :=
          Text.not_mem_of_accepted (isWordChar_of_wordAt? touched) rfl
        rw [answered] at noPercent
        exact noPercent percent
  · intro noPercent
    have run : Text.MaximalRun isWordChar [] (inner ++ rest) after := by
      refine ⟨isName.nonempty, ?_, by simp, ?_⟩
      · exact isWordChar_of_isTargetChar isName.isTargetChar noPercent
      · intro c first
        exact isWordChar_of_not_isTargetChar (stops c first)
    have touched := wordAt?_of_maximalRun run
    simp only [List.nil_append, ← lineEq] at touched
    exact nameOnLine?_of_word touched outside plain

end Cursor

/-! ### First declarations -/

/-- The symbol is the first one of its name. -/
def DeclaredFirst (symbols : List Symbol) (first : Symbol) : Prop :=
  ∃ earlier later, symbols = earlier ++ first :: later ∧
    ∀ other ∈ earlier, other.name ≠ first.name

theorem firstDeclaration?_eq_some_iff {symbols : List Symbol} {name : Text} {first : Symbol} :
    firstDeclaration? symbols name = some first ↔
      first.name = name ∧ DeclaredFirst symbols first := by
  unfold firstDeclaration?
  rw [List.find?_eq_some_iff_append, decide_eq_true_eq]
  constructor
  · rintro ⟨rfl, earlier, later, split, none⟩
    exact ⟨rfl, earlier, later, split, by simpa using none⟩
  · rintro ⟨rfl, earlier, later, split, none⟩
    exact ⟨rfl, earlier, later, split, by simpa using none⟩

/-- The name of a symbol has a first declaration. -/
theorem exists_firstDeclaration? {symbols : List Symbol} {symbol : Symbol}
    (declared : symbol ∈ symbols) :
    ∃ first, firstDeclaration? symbols symbol.name = some first := by
  apply Option.isSome_iff_exists.mp
  apply List.find?_isSome.mpr
  exact ⟨symbol, declared, by simp⟩

/-- At every column of a declaration that is reported, the reader of a cursor answers with
the name exactly if the name has no percent sign. -/
theorem nameAt?_on_declaration {file : Path} {text : Text} (reportable : text.Reportable)
    {symbol : Symbol} (declared : symbol ∈ declarations file text) {column : Nat}
    (notAfter : column ≤ symbol.range.stop.character) :
    nameAt? text ⟨symbol.range.start.line, column⟩ = some symbol.name ↔
      '%' ∉ symbol.name := by
  obtain ⟨number, line, found, member⟩ := mem_scanLines.mp declared
  obtain ⟨⟨kind, name⟩, named, rfl⟩ := List.mem_map.mp member
  have isName := Line.isTargetName_of_mem_declaredNames named
  obtain ⟨after, lineEq, _⟩ := Line.exists_after_of_mem_declaredNames named
  have inside : column ≤ Text.byteLength name := Nat.le_trans notAfter (Position.clamp_le _)
  have narrow : ∀ c ∈ name, c.utf8Size = 1 := by
    intro c member
    exact Line.utf8Size_of_isTargetChar (isName.isTargetChar c member)
  obtain ⟨inner, rest, rfl, rfl⟩ := Text.exists_cut_of_narrow narrow inside
  simp only [Symbol.range, TextRange.onLine, reportable.clamp_line found]
  rw [lineEq, List.append_assoc] at found
  rw [nameAt?_of_cut found, ← List.append_assoc, ← lineEq]
  exact Cursor.nameOnLine?_on_declaration named

/-- A cursor on a declared name is answered with the name exactly if the name has no
percent sign.  The hover text is then about the first declaration of the name, and this is
the only definition, whatever else there is in the workspace. -/
theorem declared_name_under_cursor (file : Path) (text : Text) (reportable : text.Reportable) :
    ∀ symbol ∈ declarations file text, ∀ column,
      symbol.range.start.character ≤ column → column ≤ symbol.range.stop.character →
      (nameAt? text ⟨symbol.range.start.line, column⟩ = some symbol.name ↔
          '%' ∉ symbol.name) ∧
        ('%' ∉ symbol.name →
          ∃ first, first.name = symbol.name ∧ DeclaredFirst (declarations file text) first ∧
            (∃ contents, hover? file text ⟨symbol.range.start.line, column⟩ =
              some ⟨contents, first.range⟩) ∧
            ∀ workspace : Workspace,
              workspace.definitions file text symbol.name = [first.location]) := by
  intro symbol declared column _ notAfter
  have answered := nameAt?_on_declaration reportable declared notAfter
  refine ⟨answered, ?_⟩
  intro plain
  obtain ⟨first, found⟩ := exists_firstDeclaration? declared
  obtain ⟨named, isFirst⟩ := firstDeclaration?_eq_some_iff.mp found
  refine ⟨first, named, isFirst, ⟨Hover.describe file text first, ?_⟩, ?_⟩
  · simp only [hover?, answered.mpr plain, found, Option.map_some]
  · intro workspace
    simp only [Workspace.definitions, Workspace.declaration?, found, Option.map_some]

/-- A name that is declared twice, with a cursor behind the second declaration, and the
name of a pattern. -/
theorem declared_name_under_cursor_second :
    let file : Path := ⟨['M']⟩
    let text : Text := ['C', ' ', '?', '=', 'é', '\n', 'C', ':', '\n', '%', 'a', ':']
    let again : Symbol := ⟨.target, ['C'], ⟨file, ⟨⟨1, 0⟩, ⟨1, 1⟩⟩⟩⟩
    let pattern : Symbol := ⟨.target, ['%', 'a'], ⟨file, ⟨⟨2, 0⟩, ⟨2, 2⟩⟩⟩⟩
    text.Reportable ∧ again ∈ declarations file text ∧ '%' ∉ again.name ∧
      nameAt? text ⟨again.range.start.line, 1⟩ = some again.name ∧
      (∃ first, first.name = again.name ∧ DeclaredFirst (declarations file text) first ∧
        (∃ contents, hover? file text ⟨again.range.start.line, 1⟩ =
          some ⟨contents, first.range⟩) ∧
        ∀ workspace : Workspace,
          workspace.definitions file text again.name = [first.location]) ∧
      pattern ∈ declarations file text ∧
      nameAt? text ⟨pattern.range.start.line, 1⟩ ≠ some pattern.name := by
  intro file text again pattern
  have reportable : text.Reportable := ⟨by decide, by decide⟩
  have declared : again ∈ declarations file text := by decide
  have plain : '%' ∉ again.name := by decide
  have declaredPattern : pattern ∈ declarations file text := by decide
  have cursor := declared_name_under_cursor file text reportable
  obtain ⟨answered, leads⟩ := cursor again declared 1 (by decide) (by decide)
  obtain ⟨answeredPattern, _⟩ := cursor pattern declaredPattern 1 (by decide) (by decide)
  exact ⟨reportable, declared, plain, answered.mpr plain, leads plain, declaredPattern,
    fun same => answeredPattern.mp same (by decide)⟩

end MakefileNav
