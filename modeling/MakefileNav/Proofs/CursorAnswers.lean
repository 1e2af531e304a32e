/-
Module: MakefileNav.Proofs.CursorAnswers
Purpose: A cursor is answered with the reference around it or with the word at it, and it
  touches the answer.
Main exports:
  Text.IsBoundary, Text.SnapsTo, Text.snapsTo_iff, Cursor.TouchesRun, Cursor.touchesRun_iff,
  Cursor.wordAt?_of_readsAsAssignment, Cursor.nameOnLine?_eq, name_is_reference_or_word,
  Cursor.exists_slice_of_nameOnLine?, name_touches_cursor
-/
import Mathlib.Order.Bounds.Basic
import MakefileNav.Proofs.DeclarationUnderCursor
import MakefileNav.Proofs.ReferenceAgreement

namespace MakefileNav

/-!
The reader of a cursor has a rule of its own for lines with a colon and another one for
assignments, but both agree with the rule for all other lines.  The name of a variable is cut
out of its line by a recognizer that knows fewer characters than the one for words; still the
two stop at the same place, since neither white space nor an operator belongs to a word.  So
two rules are left, and each of them answers with a piece of the line that has the cursor in
it or at one of its ends.
-/

namespace Text

/-! ### Snapping -/

/-- The column lies between two characters of the text or at one of its ends. -/
def IsBoundary (text : Text) (column : Nat) : Prop :=
  ∃ before after, text = before ++ after ∧ byteLength before = column

/-- The place is the last boundary of the text that is not beyond the column. -/
def SnapsTo (text : Text) (column place : Nat) : Prop :=
  IsGreatest {boundary | text.IsBoundary boundary ∧ boundary ≤ min column (byteLength text)} place

/-- Snapping passes every boundary up to the column. -/
private theorem byteLength_le_snap {before : Text} (after : Text) {column : Nat}
    (notAfter : byteLength before ≤ column) :
    byteLength before ≤ snap (before ++ after) column := by
  unfold snap
  induction before generalizing column with
  | nil => exact Nat.zero_le _
  | cons c before ih =>
      rw [byteLength_cons] at notAfter
      have further := @ih (column - c.utf8Size) (by omega)
      rw [List.cons_append, splitBytes_cons, if_pos (by omega), byteLength_cons, byteLength_cons]
      omega

theorem snapsTo_snap (text : Text) (column : Nat) : text.SnapsTo column (text.snap column) := by
  constructor
  · obtain ⟨before, after, split, bytes⟩ := exists_cut_at_snap text column
    refine ⟨⟨before, after, split, bytes.symm⟩, Nat.le_min.mpr ⟨snap_le text column, ?_⟩⟩
    rw [bytes, split, byteLength_append]
    exact Nat.le_add_right _ _
  · rintro boundary ⟨⟨before, after, rfl, rfl⟩, notAfter⟩
    exact byteLength_le_snap after (Nat.le_min.mp notAfter).1

/-- A column is snapped to the last boundary that is not beyond it. -/
theorem snapsTo_iff {text : Text} {column place : Nat} :
    text.SnapsTo column place ↔ text.snap column = place := by
  constructor
  · intro greatest
    exact (snapsTo_snap text column).unique greatest
  · rintro rfl
    exact snapsTo_snap text column

/-- A slice is cut out between two boundaries. -/
theorem isBoundary_of_slice? {text piece : Text} {start stop : Nat}
    (sliced : text.slice? start stop = some piece) :
    text.IsBoundary start ∧ text.IsBoundary stop ∧ start ≤ stop := by
  obtain ⟨before, after, split, rfl, rfl⟩ := slice?_eq_some_iff.mp sliced
  refine ⟨⟨before, piece ++ after, by rw [split, List.append_assoc], rfl⟩, ?_, Nat.le_add_right _ _⟩
  exact ⟨before ++ piece, after, split, byteLength_append before piece⟩

end Text

namespace Cursor

/-! ### Two rules for a line -/

/-- The column touches the word, which is a maximal run of word characters of the line.  Both
ends of the word are touched too. -/
def TouchesRun (line : Text) (column : Nat) (word : Text) : Prop :=
  ∃ before after, line = before ++ word ++ after ∧ Text.MaximalRun isWordChar before word after ∧
    Text.byteLength before ≤ column ∧ column ≤ Text.byteLength before + Text.byteLength word

variable {line name word : Text} {column : Nat}

theorem touchesRun_iff :
    TouchesRun line column word ↔ ∃ offset, wordAt? line column = some ⟨offset, word⟩ := by
  simp only [wordAt?_eq_some_iff, Text.mem_runs_iff, Token.stop]
  constructor
  · rintro ⟨before, after, split, run, notBefore, notAfter⟩
    exact ⟨Text.byteLength before, ⟨before, after, split, rfl, run⟩, notBefore, notAfter⟩
  · rintro ⟨offset, ⟨before, after, split, rfl, run⟩, notBefore, notAfter⟩
    exact ⟨before, after, split, run, notBefore, notAfter⟩

/-- Up to the end of the assigned name, the word at a column of an assignment is that name. -/
theorem wordAt?_of_readsAsAssignment (read : Line.ReadsAsAssignment name line)
    (notAfter : column ≤ Text.byteLength name) : wordAt? line column = some ⟨0, name⟩ := by
  have declared := Line.variable_mem_declaredNames.mpr read
  obtain ⟨after, lineEq, stops, _⟩ := Line.exists_after_of_mem_declaredNames declared
  have run : Text.MaximalRun isWordChar [] name after := by
    refine ⟨read.1.nonempty, read.1.isWordChar, by simp, ?_⟩
    intro c first
    exact isWordChar_of_not_isTargetChar (stops c first)
  apply wordAt?_eq_some_iff.mpr
  refine ⟨Text.mem_runs_iff.mpr ⟨[], after, lineEq, rfl, run⟩, Nat.zero_le column, ?_⟩
  simpa [Token.stop] using notAfter

/-- The answer on a line is the reference around the column or, without one, the word. -/
theorem nameOnLine?_eq (line : Text) (column : Nat) :
    nameOnLine? line column =
      (wordAt? line column).map fun word => (referenceAt? line column).getD word.text := by
  cases touched : wordAt? line column with
  | none => simp only [nameOnLine?, touched, Option.map_none]
  | some word =>
      cases reference : referenceAt? line column with
      | some name => exact nameOnLine?_of_reference touched reference
      | none =>
          simp only [nameOnLine?, touched, reference, Option.map_some, Option.getD_none]
          split
          · rfl
          · split
            · rename_i name assigned
              -- Behind the assigned name the word is the answer as it is.
              by_cases notAfter : column ≤ Text.byteLength name
              · have read := Line.assignedName?_eq_some_iff.mp assigned
                rw [wordAt?_of_readsAsAssignment read notAfter, Option.some.injEq] at touched
                rw [if_pos notAfter, ← touched]
              · rw [if_neg notAfter]
            · rfl

/-! ### The answer is a piece of the line -/

/-- What the reader of a cursor answers is cut out of the line around the column. -/
theorem exists_slice_of_nameOnLine? (boundary : line.IsBoundary column)
    (answered : nameOnLine? line column = some name) :
    name ≠ [] ∧ ∃ start stop, line.slice? start stop = some name ∧ start ≤ column ∧
      column ≤ stop := by
  rw [nameOnLine?_eq, Option.map_eq_some_iff] at answered
  obtain ⟨word, touched, answer⟩ := answered
  cases reference : referenceAt? line column with
  | some enclosed =>
      obtain rfl : enclosed = name := by simpa [reference] using answer
      obtain ⟨before, after, rfl, rfl⟩ := boundary
      obtain ⟨_, _, _, _, nonempty⟩ := referenceAt?_eq_some_iff.mp reference
      obtain ⟨_, offset, refers, notBefore, notAfter⟩ := refersAt_of_referenceAt? reference
      exact ⟨nonempty, offset, offset + Text.byteLength enclosed,
        Token.standsIn_iff_slice?.mp refers.standsIn, notBefore, notAfter⟩
  | none =>
      obtain rfl : word.text = name := by simpa [reference] using answer
      obtain ⟨member, notBefore, notAfter⟩ := wordAt?_eq_some_iff.mp touched
      obtain ⟨_, _, _, _, run⟩ := Text.mem_runs_iff.mp member
      exact ⟨run.nonempty, word.offset, word.stop,
        Token.standsIn_iff_slice?.mp (Text.standsIn_of_mem_runs member), notBefore, notAfter⟩

end Cursor

/-! ### Answers in a document -/

/-- The reader of a document answers what the reader of the line does at the place that the
column is snapped to. -/
theorem nameAt?_of_snapsTo {text line : Text} {place : Position} {column : Nat}
    (found : text.lines[place.line]? = some line) (snaps : line.SnapsTo place.character column) :
    nameAt? text place = Cursor.nameOnLine? line column := by
  simp only [nameAt?, found, Text.snapsTo_iff.mp snaps]

/-- Without a line or a word at the cursor there is no answer.  Otherwise the answer is what
stands in the reference around the cursor, or the word if the cursor is in no reference.  A
line with a colon is no exception, and neither is an assignment, since up to the end of the
assigned name the word is this name. -/
theorem name_is_reference_or_word (text : Text) (place : Position) :
    (text.lines[place.line]? = none → nameAt? text place = none) ∧
      ∀ line column, text.lines[place.line]? = some line →
        line.SnapsTo place.character column →
        ((∀ word, ¬Cursor.TouchesRun line column word) → nameAt? text place = none) ∧
          (∀ word, Cursor.TouchesRun line column word →
            nameAt? text place = some ((Cursor.referenceAt? line column).getD word)) ∧
          ∀ name, Line.ReadsAsAssignment name line → column ≤ Text.byteLength name →
            ∀ word, Cursor.TouchesRun line column word ↔ word = name := by
  refine ⟨?_, ?_⟩
  · intro missing
    simp only [nameAt?, missing]
  · intro line column found snaps
    rw [nameAt?_of_snapsTo found snaps, Cursor.nameOnLine?_eq]
    refine ⟨?_, ?_, ?_⟩
    · intro untouched
      cases touched : Cursor.wordAt? line column with
      | none => rfl
      | some word => exact absurd (Cursor.touchesRun_iff.mpr ⟨_, touched⟩) (untouched word.text)
    · intro word touches
      obtain ⟨offset, touched⟩ := Cursor.touchesRun_iff.mp touches
      rw [touched, Option.map_some]
    · intro name read notAfter word
      have touched := Cursor.wordAt?_of_readsAsAssignment read notAfter
      rw [Cursor.touchesRun_iff, touched]
      simp [eq_comm]

/-- An assignment with a reference in its value: a cursor behind the assigned name, one behind
the first character in the parentheses, and one inside a character that no word touches. -/
theorem name_is_reference_or_word_assignment :
    let line : Text := ['C', ' ', '=', '$', '(', 'a', 'é', ')', ' ', 'é']
    let text : Text := '\n' :: line
    text.lines[2]? = none ∧ nameAt? text ⟨2, 0⟩ = none ∧ text.lines[1]? = some line ∧
      (line.SnapsTo 11 10 ∧ (∀ word, ¬Cursor.TouchesRun line 10 word) ∧
        nameAt? text ⟨1, 11⟩ = none) ∧
      (line.SnapsTo 7 6 ∧ Cursor.TouchesRun line 6 ['a'] ∧
        nameAt? text ⟨1, 7⟩ = some ((Cursor.referenceAt? line 6).getD ['a']) ∧
        nameAt? text ⟨1, 7⟩ = some ['a', 'é']) ∧
      (line.SnapsTo 1 1 ∧ Line.ReadsAsAssignment ['C'] line ∧ 1 ≤ Text.byteLength ['C'] ∧
        Cursor.TouchesRun line 1 ['C'] ∧ nameAt? text ⟨1, 1⟩ = some ['C']) := by
  intro line text
  have missing : text.lines[2]? = none := by decide
  have found : text.lines[1]? = some line := by decide
  have snapsTo (column) : line.SnapsTo column (line.snap column) := Text.snapsTo_snap line column
  have untouched : ∀ word, ¬Cursor.TouchesRun line 10 word := by
    intro word touches
    obtain ⟨offset, touched⟩ := Cursor.touchesRun_iff.mp touches
    have nothing : Cursor.wordAt? line 10 = none := by decide
    rw [nothing] at touched
    cases touched
  have inReference : Cursor.TouchesRun line 6 ['a'] :=
    Cursor.touchesRun_iff.mpr ⟨5, by decide⟩
  have read : Line.ReadsAsAssignment ['C'] line := Line.assignedName?_eq_some_iff.mp (by decide)
  obtain ⟨noLine, atLine⟩ := name_is_reference_or_word text ⟨2, 0⟩
  obtain ⟨noWord, _⟩ := (name_is_reference_or_word text ⟨1, 11⟩).2 line 10 found (snapsTo 11)
  obtain ⟨_, word, _⟩ := (name_is_reference_or_word text ⟨1, 7⟩).2 line 6 found (snapsTo 7)
  obtain ⟨_, named, same⟩ := (name_is_reference_or_word text ⟨1, 1⟩).2 line 1 found (snapsTo 1)
  have onName := (same ['C'] read (by decide) ['C']).mpr rfl
  exact ⟨missing, noLine missing, found, ⟨snapsTo 11, untouched, noWord untouched⟩,
    ⟨snapsTo 7, inReference, word ['a'] inReference, by decide⟩,
    ⟨snapsTo 1, read, by decide, onName, named ['C'] onName⟩⟩

/-- An answer is a piece of the line of the cursor, cut out between two characters, and it is
not empty.  The cursor, moved to the last boundary that is not beyond it, is in the piece or at
one of its ends.  What is read in a reference has no closing parenthesis. -/
theorem name_touches_cursor {text name : Text} {place : Position}
    (answered : nameAt? text place = some name) :
    ∃ line column start stop, text.lines[place.line]? = some line ∧
      line.SnapsTo place.character column ∧ name ≠ [] ∧
      line.IsBoundary start ∧ line.IsBoundary stop ∧ start ≤ stop ∧
      line.slice? start stop = some name ∧ start ≤ column ∧ column ≤ stop ∧
      (Cursor.referenceAt? line column = some name → ')' ∉ name) := by
  cases found : text.lines[place.line]? with
  | none =>
      simp only [nameAt?, found] at answered
      cases answered
  | some line =>
      have snaps := Text.snapsTo_snap line place.character
      have boundary := snaps.1.1
      rw [nameAt?_of_snapsTo found snaps] at answered
      obtain ⟨nonempty, start, stop, sliced, notBefore, notAfter⟩ :=
        Cursor.exists_slice_of_nameOnLine? boundary answered
      obtain ⟨startBoundary, stopBoundary, ordered⟩ := Text.isBoundary_of_slice? sliced
      refine ⟨line, _, start, stop, rfl, snaps, nonempty, startBoundary, stopBoundary, ordered,
        sliced, notBefore, notAfter, ?_⟩
      intro reference
      obtain ⟨before, after, rfl, bytes⟩ := boundary
      rw [← bytes] at reference
      exact (Cursor.refersAt_of_referenceAt? reference).1

/-- A cursor inside a character of a reference, and one beyond the end of a line. -/
theorem name_touches_cursor_snapped :
    let line : Text := ['é', ' ', '$', '(', 'a', 'é', ')', 'b']
    (nameAt? line ⟨0, 7⟩ = some ['a', 'é'] ∧
      ∃ column start stop, line.SnapsTo 7 column ∧ line.slice? start stop = some ['a', 'é'] ∧
        start ≤ column ∧ column ≤ stop ∧ ')' ∉ (['a', 'é'] : Text)) ∧
      nameAt? line ⟨0, 99⟩ = some ['b'] ∧
      ∃ column start stop, line.SnapsTo 99 column ∧ line.slice? start stop = some ['b'] ∧
        start ≤ column ∧ column ≤ stop := by
  intro line
  have lines : line.lines[0]? = some line := by decide
  have inside : nameAt? line ⟨0, 7⟩ = some ['a', 'é'] := by decide
  have beyond : nameAt? line ⟨0, 99⟩ = some ['b'] := by decide
  obtain ⟨same, column, start, stop, found, snaps, _, _, _, _, sliced, notBefore, notAfter,
    closed⟩ := name_touches_cursor inside
  obtain ⟨same', column', start', stop', found', snaps', _, _, _, _, sliced', notBefore',
    notAfter', _⟩ := name_touches_cursor beyond
  obtain rfl : line = same := Option.some.inj (lines.symm.trans found)
  obtain rfl : line = same' := Option.some.inj (lines.symm.trans found')
  have reference : Cursor.referenceAt? line column = some ['a', 'é'] := by
    rw [← Text.snapsTo_iff.mp snaps]
    decide
  have noClosing := closed reference
  exact ⟨⟨inside, column, start, stop, snaps, sliced, notBefore, notAfter, noClosing⟩, beyond,
    column', start', stop', snaps', sliced', notBefore', notAfter'⟩

end MakefileNav
