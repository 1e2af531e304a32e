/-
Module: MakefileNav.Proofs.LineEndings
Purpose: A carriage return in front of every line feed changes no answer about a document.
Main exports:
  Text.withCarriageReturns, Text.lines_withCarriageReturns, usages_congr, hover?_congr,
  lint_congr, carriage_returns_change_nothing
-/
import MakefileNav.Completion
import MakefileNav.Hover
import MakefileNav.Lint.Checks
import MakefileNav.Proofs.Pieces
import Mathlib.Data.List.Forall2

namespace MakefileNav

/-!
A line ends at a line feed, and a carriage return directly before the line feed belongs to
the ending.  So a document may be written with either ending.  The pieces between the line
feeds then differ by a carriage return at their ends, the lines are the same, and every
reader of a document reads its lines only.
-/

namespace Text

/-! ### Lines -/

/-- A text with a carriage return in front of every line feed. -/
def withCarriageReturns (text : Text) : Text :=
  text.flatMap fun c => if c = '\n' then ['\r', '\n'] else [c]

theorem withCarriageReturns_cons_lineFeed (rest : Text) :
    withCarriageReturns ('\n' :: rest) = '\r' :: '\n' :: withCarriageReturns rest := rfl

theorem withCarriageReturns_cons {c : Char} (other : c ≠ '\n') (rest : Text) :
    withCarriageReturns (c :: rest) = c :: withCarriageReturns rest := by
  simp [withCarriageReturns, other]

/-- Between the line feeds there is the same as before, or the same and a carriage return. -/
theorem splitOn_withCarriageReturns (text : Text) :
    List.Forall₂ (fun changed piece => changed = piece ∨ changed = piece ++ ['\r'])
      (text.withCarriageReturns.splitOn '\n') (text.splitOn '\n') := by
  induction text with
  | nil => exact .cons (Or.inl rfl) .nil
  | cons c rest ih =>
      rcases splitOn_cons_cases '\n' c rest with ⟨rfl, whole⟩ | ⟨other, _, _, pieces, whole⟩
      · have changed : ('\r' :: '\n' :: withCarriageReturns rest).splitOn '\n' =
            ['\r'] :: (withCarriageReturns rest).splitOn '\n' :=
          List.splitOn_append_cons_self_of_not_mem (by decide : '\n' ∉ ['\r']) _
        rw [withCarriageReturns_cons_lineFeed, changed, whole]
        exact .cons (Or.inr rfl) ih
      · obtain ⟨_, _, _, pieces', changed⟩ :=
          (splitOn_cons_cases '\n' c (withCarriageReturns rest)).resolve_left
            fun lineFeed => other lineFeed.1
        rw [withCarriageReturns_cons other, changed, whole]
        rw [pieces, pieces'] at ih
        obtain ⟨ending, endings⟩ := List.forall₂_cons.mp ih
        refine .cons ?_ endings
        rcases ending with rfl | rfl
        · exact Or.inl rfl
        · exact Or.inr rfl

/-- Pieces that differ by carriage returns at their ends stand for the same lines. -/
theorem map_dropCarriageReturn_eq {changed pieces : List Text}
    (endings : List.Forall₂ (fun changed piece => changed = piece ∨ changed = piece ++ ['\r'])
      changed pieces)
    (plain : ∀ piece ∈ pieces, piece.getLast? ≠ some '\r') :
    changed.map dropCarriageReturn = pieces.map dropCarriageReturn := by
  induction endings with
  | nil => rfl
  | @cons first piece _ rest ending _ ih =>
      obtain ⟨plainPiece, plainRest⟩ := List.forall_mem_cons.mp plain
      have same : dropCarriageReturn first = dropCarriageReturn piece := by
        rw [dropCarriageReturn_of_getLast? plainPiece]
        rcases ending with rfl | rfl
        · exact dropCarriageReturn_of_getLast? plainPiece
        · exact dropCarriageReturn_append piece
      rw [List.map_cons, List.map_cons, same, ih plainRest]

/-- Carriage returns that stand in front of line feeds are no part of any line, provided that
no line had one at its end before. -/
theorem lines_withCarriageReturns {text : Text}
    (plain : ∀ piece ∈ text.splitOn '\n', piece.getLast? ≠ some '\r') :
    text.withCarriageReturns.lines = text.lines :=
  map_dropCarriageReturn_eq (splitOn_withCarriageReturns text) plain

/-- A line that ends with a carriage return of its own keeps one of two. -/
example : lines ['a', '\r', '\n'] = [['a'], []] ∧
    lines (withCarriageReturns ['a', '\r', '\n']) = [['a', '\r'], []] := by decide

end Text

/-! ### Readers of lines -/

section Readers

variable {text other : Text}

theorem declarations_congr (same : text.lines = other.lines) (file : Path) :
    declarations file text = declarations file other := by
  unfold declarations
  rw [same]

theorem usages_congr (same : text.lines = other.lines) (file : Path) (name : Text) :
    usages file text name = usages file other name := by
  unfold usages
  rw [same]

theorem usagesWithDeclaration_congr (same : text.lines = other.lines) (file : Path)
    (name : Text) (withDeclaration : Bool) :
    usagesWithDeclaration file text name withDeclaration =
      usagesWithDeclaration file other name withDeclaration := by
  unfold usagesWithDeclaration
  rw [declarations_congr same, usages_congr same]

theorem nameAt?_congr (same : text.lines = other.lines) (place : Position) :
    nameAt? text place = nameAt? other place := by
  unfold nameAt?
  rw [same]

/-- A description quotes a line and counts the usages of a name. -/
theorem describe_congr (same : text.lines = other.lines) (file : Path) (symbol : Symbol) :
    Hover.describe file text symbol = Hover.describe file other symbol := by
  unfold Hover.describe
  rw [same, usages_congr same]

theorem hover?_congr (same : text.lines = other.lines) (file : Path) (place : Position) :
    hover? file text place = hover? file other place := by
  unfold hover?
  simp only [nameAt?_congr same, declarations_congr same, describe_congr same]

theorem completions_congr (same : text.lines = other.lines) (file : Path) (place : Position) :
    completions file text place = completions file other place := by
  unfold completions
  simp only [same, declarations_congr same]

theorem lint_congr (same : text.lines = other.lines) (file : Path) (predefined : List Text) :
    lint file text predefined = lint file other predefined := by
  unfold lint
  simp only [same, declarations_congr same]

end Readers

/-- Line endings do not matter.  If no line of a document ends with a carriage return, then
the document with a carriage return in front of every line feed has the same lines.  All
that is reported of it is the same too: declarations and usages with their columns, the name
under a cursor, its description, what can be typed, and the findings of all checks. -/
theorem carriage_returns_change_nothing (text : Text)
    (plain : ∀ piece ∈ text.splitOn '\n', piece.getLast? ≠ some '\r') :
    text.withCarriageReturns.lines = text.lines ∧
      ∀ (file : Path) (name : Text) (place : Position) (predefined : List Text)
        (withDeclaration : Bool),
        declarations file text.withCarriageReturns = declarations file text ∧
          usages file text.withCarriageReturns name = usages file text name ∧
          usagesWithDeclaration file text.withCarriageReturns name withDeclaration =
            usagesWithDeclaration file text name withDeclaration ∧
          nameAt? text.withCarriageReturns place = nameAt? text place ∧
          hover? file text.withCarriageReturns place = hover? file text place ∧
          completions file text.withCarriageReturns place = completions file text place ∧
          lint file text.withCarriageReturns predefined = lint file text predefined := by
  have same := Text.lines_withCarriageReturns plain
  refine ⟨same, ?_⟩
  intro file name place predefined withDeclaration
  exact ⟨declarations_congr same file, usages_congr same file name,
    usagesWithDeclaration_congr same file name withDeclaration, nameAt?_congr same place,
    hover?_congr same file place, completions_congr same file place,
    lint_congr same file predefined⟩

/-- A rule that uses a variable, a line that lacks its tab, and no line feed at the end. -/
theorem carriage_returns_change_nothing_rule :
    let file : Path := ⟨['M']⟩
    let text : Text :=
      ['C', ' ', '=', ' ', '1', '\n', 'a', ':', '$', '(', 'C', ')', '\n', ' ', 'b']
    let changed : Text :=
      ['C', ' ', '=', ' ', '1', '\r', '\n', 'a', ':', '$', '(', 'C', ')', '\r', '\n', ' ', 'b']
    (∀ piece ∈ text.splitOn '\n', piece.getLast? ≠ some '\r') ∧
      text.withCarriageReturns = changed ∧
      changed.lines = text.lines ∧
      hover? file changed ⟨1, 4⟩ = hover? file text ⟨1, 4⟩ ∧
      (hover? file text ⟨1, 4⟩).isSome = true ∧
      lint file changed [] = lint file text [] ∧
      lint file text [] = [⟨.tabRequired, ⟨⟨2, 0⟩, ⟨2, 1⟩⟩⟩] := by
  intro file text changed
  have plain : ∀ piece ∈ text.splitOn '\n', piece.getLast? ≠ some '\r' := by decide
  obtain ⟨lines, answers⟩ := carriage_returns_change_nothing text plain
  obtain ⟨_, _, _, _, description, _, findings⟩ := answers file ['C'] ⟨1, 4⟩ [] false
  exact ⟨plain, by decide, lines, description, by decide, findings, by decide⟩

end MakefileNav
