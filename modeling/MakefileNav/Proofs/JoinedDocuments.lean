/-
Module: MakefileNav.Proofs.JoinedDocuments
Purpose: A document that goes on with another one behind a line feed declares and uses what
  both do.
Main exports:
  TextRange.onLine_add, scanLines_add, declarations_shift, usages_shift, joined_documents
-/
import MakefileNav.Proofs.LineLocality

namespace MakefileNav

/-!
A scan knows a line by its number only, and the number is written into the ranges that it
reports.  So the second of two joined documents is scanned as if it were alone, with ranges
that are further down by the number of lines of the first.  This needs room for the numbers:
beyond the limit all lines would be reported as one.
-/

/-! ### Lines further down -/

theorem TextRange.onLine_add {count number : Nat} (inside : count + number < 2 ^ 32)
    (start stop : Nat) :
    onLine (count + number) start stop = (onLine number start stop).shiftLines count := by
  have alone : number < 2 ^ 32 := Nat.lt_of_le_of_lt (Nat.le_add_left number count) inside
  simp only [onLine, shiftLines, Position.clamp_of_lt inside, Position.clamp_of_lt alone,
    Nat.add_comm number count]

/-- Lines further down are scanned with larger numbers.  If every line is reported as before,
but moved, then so are all lines. -/
theorem scanLines_add {α : Type} {scan : Nat → Text → List α} {move : α → α} {count : Nat}
    (first : Nat) {lines : List Text}
    (moved : ∀ number line, number < first + lines.length →
      scan (count + number) line = (scan number line).map move) :
    scanLines scan (count + first) lines = (scanLines scan first lines).map move := by
  induction lines generalizing first with
  | nil => rfl
  | cons line rest ih =>
      have here : first < first + (line :: rest).length :=
        Nat.lt_add_of_pos_right (Nat.zero_lt_succ rest.length)
      have further : ∀ number line, number < first + 1 + rest.length →
          scan (count + number) line = (scan number line).map move := by
        intro number line' before
        apply moved number line'
        rw [List.length_cons]
        omega
      rw [scanLines_cons, scanLines_cons, List.map_append, moved first line here, Nat.add_assoc,
        ih (first + 1) further]

section Shift

variable {count : Nat} {text : Text} (room : count + text.lines.length ≤ 2 ^ 32)

include room

theorem declarations_shift (file : Path) :
    scanLines (Line.declarations file) count text.lines =
      (declarations file text).map (Symbol.shiftLines count) := by
  apply scanLines_add 0
  intro number line inside
  have small : count + number < 2 ^ 32 := by omega
  rw [Line.declarations, Line.declarations, List.map_map]
  apply List.map_congr_left
  rintro ⟨kind, name⟩ _
  simp only [Function.comp_apply, Symbol.shiftLines, Location.shiftLines,
    TextRange.onLine_add small]

theorem usages_shift (file : Path) (name : Text) :
    scanLines (Line.usages file name) count text.lines =
      (scanLines (Line.usages file name) 0 text.lines).map (Location.shiftLines count) := by
  apply scanLines_add 0
  intro number line inside
  have small : count + number < 2 ^ 32 := by omega
  rw [Line.usages, Line.usages, List.map_map]
  apply List.map_congr_left
  intro offset _
  simp only [Function.comp_apply, Location.shiftLines, TextRange.onLine_add small]

end Shift

/-! ### Joined documents -/

/-- The first declaration of a name in two documents is that of the first document, if there
is one. -/
theorem firstDeclaration?_append (left right : List Symbol) (count : Nat) (name : Text) :
    firstDeclaration? (left ++ right.map (Symbol.shiftLines count)) name =
      (firstDeclaration? left name).or
        ((firstDeclaration? right name).map (Symbol.shiftLines count)) := by
  rw [firstDeclaration?, List.find?_append, List.find?_map]
  rfl

/-- Two documents with a line feed between them have the lines of both, declare the names of
both and use a name where one of them does, all of the second one further down by the number
of lines of the first.  A name that the first document declares is looked up there. -/
theorem joined_documents (file : Path) {left right : Text}
    (few : left.lines.length + right.lines.length ≤ 2 ^ 32) (name : Text) :
    (left ++ '\n' :: right).lines = left.lines ++ right.lines ∧
      declarations file (left ++ '\n' :: right) =
        declarations file left ++
          (declarations file right).map (Symbol.shiftLines left.lines.length) ∧
      usages file (left ++ '\n' :: right) name =
        usages file left name ++
          (usages file right name).map (Location.shiftLines left.lines.length) ∧
      firstDeclaration? (declarations file (left ++ '\n' :: right)) name =
        (firstDeclaration? (declarations file left) name).or
          ((firstDeclaration? (declarations file right) name).map
            (Symbol.shiftLines left.lines.length)) := by
  have declared := declarations_append file left right
  rw [declarations_shift few] at declared
  have used := usages_append file left right name
  rw [usages_shift few] at used
  refine ⟨Text.lines_append left right, declared, ?_, ?_⟩
  · rw [used, usages, usagesOnLines, usages, usagesOnLines]
    split
    · rfl
    · rfl
  · rw [declared, firstDeclaration?_append]

/-- A carriage return at the seam, and names that are declared in one document, in the other
and in both. -/
theorem joined_documents_seam :
    let file : Path := ⟨['M']⟩
    let left : Text := ['A', '=', '\r', '\n', 'b', ':', 'c', '\r']
    let right : Text := ['b', ':', '\n', 'c', ':', '\n', '$', '(', 'A', ')']
    let whole : Text := left ++ '\n' :: right
    let twoDown : Symbol := ⟨.target, ['c'], ⟨file, ⟨⟨3, 0⟩, ⟨3, 1⟩⟩⟩⟩
    left.lines.length + right.lines.length ≤ 2 ^ 32 ∧
      whole.lines = left.lines ++ right.lines ∧
      declarations file whole =
        declarations file left ++ (declarations file right).map (Symbol.shiftLines 2) ∧
      usages file whole ['A'] =
        usages file left ['A'] ++ (usages file right ['A']).map (Location.shiftLines 2) ∧
      usages file whole ['A'] = [⟨file, ⟨⟨4, 2⟩, ⟨4, 3⟩⟩⟩] ∧
      firstDeclaration? (declarations file whole) ['b'] =
        firstDeclaration? (declarations file left) ['b'] ∧
      firstDeclaration? (declarations file whole) ['c'] = some twoDown := by
  intro file left right whole twoDown
  have few : left.lines.length + right.lines.length ≤ 2 ^ 32 := by decide
  obtain ⟨lines, declared, used, _⟩ := joined_documents file few ['A']
  obtain ⟨_, _, _, inBoth⟩ := joined_documents file few ['b']
  obtain ⟨_, _, _, inSecond⟩ := joined_documents file few ['c']
  have early : (firstDeclaration? (declarations file left) ['b']).isSome = true := by decide
  refine ⟨few, lines, declared, used, by decide, ?_, ?_⟩
  · rw [inBoth, Option.or_of_isSome early]
  · rw [inSecond]
    decide

end MakefileNav
