/-
Module: MakefileNav.Proofs.Insertions
Purpose: A document into which a piece of text has been put, line by line and column by column.
Main exports:
  Text.insertAt, Text.Unbroken, Text.lines_insertAt, Text.getElem?_lines_insertAt,
  Text.mem_lines_insertAt, Text.before_eq_of_meets, Text.piece_eq_of_ends, TextRange.Overlaps,
  TextRange.Overlaps.columns
-/
import MakefileNav.Position
import MakefileNav.Proofs.CharacterClasses
import MakefileNav.Proofs.Pieces
import MakefileNav.Proofs.Slices

namespace MakefileNav

/-!
What is put into a line of a document changes this line and no other, and the line keeps its
ending.  What is found in the changed line can be compared with what has been put in by the
columns alone: two stretches that meet are the same if neither can go on past the ends of the
other.
-/

namespace Text

/-! ### Putting text into a line -/

/-- A document with some text put in at a place.  A column past the end of the line, or inside
a character, falls back to the place before it, and nothing is put behind the last line. -/
def insertAt (text : Text) (place : Position) (inserted : Text) : Text :=
  List.intercalate ['\n'] ((text.splitOn '\n').modify place.line fun (piece : Text) =>
    let cut := piece.splitBytes ((dropCarriageReturn piece).snap place.character)
    cut.1 ++ inserted ++ cut.2)

/-- A carriage return at the end of a line is all that belongs to the line ending. -/
theorem exists_dropCarriageReturn (piece : Text) :
    (piece = dropCarriageReturn piece ++ ['\r']) ∨
      (piece = dropCarriageReturn piece ∧ piece.getLast? ≠ some '\r') := by
  rcases List.eq_nil_or_concat piece with rfl | ⟨initial, last, rfl⟩
  · exact Or.inr ⟨rfl, by simp⟩
  · rw [List.concat_eq_append]
    by_cases ending : last = '\r'
    · subst ending
      exact Or.inl (by rw [dropCarriageReturn_append])
    · have plain : (initial ++ [last]).getLast? ≠ some '\r' := by simpa using ending
      exact Or.inr ⟨(dropCarriageReturn_of_getLast? plain).symm, plain⟩

/-- Text that is put into a line ends the line only if nothing follows it. -/
theorem mem_or_getLast?_of_insert {before inserted after : Text} {c : Char}
    (last : (before ++ inserted ++ after).getLast? = some c) :
    c ∈ inserted ∨ (before ++ after).getLast? = some c := by
  rcases List.eq_nil_or_concat after with rfl | ⟨initial, final, rfl⟩
  · rw [List.append_nil] at last ⊢
    rcases List.eq_nil_or_concat inserted with rfl | ⟨initial, final, rfl⟩
    · rw [List.append_nil] at last
      exact Or.inr last
    · rw [List.concat_eq_append, ← List.append_assoc, List.getLast?_concat,
        Option.some.injEq] at last
      exact Or.inl (by simp [last])
  · rw [List.concat_eq_append, ← List.append_assoc, List.getLast?_concat] at last ⊢
    exact Or.inr last

/-- What is put into a line before its ending leaves the ending as it is. -/
theorem dropCarriageReturn_insert {piece inserted : Text} (plain : '\r' ∉ inserted)
    (column : Nat) :
    let cut := piece.splitBytes ((dropCarriageReturn piece).snap column)
    let cutLine := (dropCarriageReturn piece).splitBytes column
    dropCarriageReturn (cut.1 ++ inserted ++ cut.2) = cutLine.1 ++ inserted ++ cutLine.2 := by
  intro cut cutLine
  have line : dropCarriageReturn piece = cutLine.1 ++ cutLine.2 :=
    (splitBytes_append column (dropCarriageReturn piece)).symm
  rcases exists_dropCarriageReturn piece with returned | ⟨whole, unreturned⟩
  · have cutEq : cut = (cutLine.1, cutLine.2 ++ ['\r']) := by
      have parts : piece = cutLine.1 ++ (cutLine.2 ++ ['\r']) := by
        rw [← List.append_assoc, ← line, ← returned]
      change piece.splitBytes (byteLength cutLine.1) = _
      rw [parts, splitBytes_byteLength]
    rw [cutEq, ← List.append_assoc, dropCarriageReturn_append]
  · have cutEq : cut = cutLine := by
      change piece.splitBytes (byteLength cutLine.1) = _
      rw [whole, line, splitBytes_byteLength]
    rw [cutEq, dropCarriageReturn_of_getLast?]
    intro last
    rcases mem_or_getLast?_of_insert last with member | last
    · exact plain member
    · exact unreturned (by rwa [whole, line])

/-- A text holds no part of a line ending. -/
structure Unbroken (text : Text) : Prop where
  noLineFeed : '\n' ∉ text
  noReturn : '\r' ∉ text

theorem Unbroken.of_accepted {accept : Char → Bool} {text : Text}
    (accepted : ∀ c ∈ text, accept c = true) (lineFeed : accept '\n' = false)
    (carriageReturn : accept '\r' = false) : text.Unbroken where
  noLineFeed := not_mem_of_accepted accepted lineFeed
  noReturn := not_mem_of_accepted accepted carriageReturn

/-- What is put into a line changes this line only. -/
theorem lines_insertAt {text line inserted : Text} {place : Position}
    (found : text.lines[place.line]? = some line) (unbroken : inserted.Unbroken) :
    (text.insertAt place inserted).lines = text.lines.set place.line
      ((line.splitBytes place.character).1 ++ inserted ++ (line.splitBytes place.character).2) := by
  rw [lines, List.getElem?_map, Option.map_eq_some_iff] at found
  obtain ⟨piece, found, rfl⟩ := found
  unfold insertAt
  rw [List.modify_eq_set, found, Option.getD_some, lines, List.splitOn_intercalate, List.map_set,
    dropCarriageReturn_insert unbroken.noReturn]
  · rfl
  · intro changed member
    have parts := splitBytes_append ((dropCarriageReturn piece).snap place.character) piece
    have absent : '\n' ∉ piece := not_mem_of_mem_splitOn (List.mem_of_getElem? found)
    rw [← parts, List.mem_append, not_or] at absent
    rcases List.mem_or_eq_of_mem_set member with other | rfl
    · exact not_mem_of_mem_splitOn other
    · simp [absent, unbroken.noLineFeed]
  · simp

/-- The line that is changed. -/
theorem getElem?_lines_insertAt {text line inserted before after : Text} {place : Position}
    (found : text.lines[place.line]? = some line)
    (cut : line.splitBytes place.character = (before, after)) (unbroken : inserted.Unbroken) :
    (text.insertAt place inserted).lines[place.line]? = some (before ++ inserted ++ after) := by
  rw [lines_insertAt found unbroken, cut,
    List.getElem?_set_self (List.getElem?_eq_some_iff.mp found).1]

/-- The lines of the document stay, apart from the one that is changed. -/
theorem mem_lines_insertAt {text line inserted other : Text} {place : Position}
    (found : text.lines[place.line]? = some line) (unbroken : inserted.Unbroken) (member : other ∈ text.lines) :
    other = line ∨ other ∈ (text.insertAt place inserted).lines := by
  rw [lines_insertAt found unbroken]
  obtain ⟨number, here⟩ := List.mem_iff_getElem?.mp member
  by_cases same : place.line = number
  · subst same
    rw [found, Option.some.injEq] at here
    exact Or.inl here.symm
  · refine Or.inr (List.mem_of_getElem? (i := number) ?_)
    rw [List.getElem?_set_ne same, here]

/-! ### Stretches that meet -/

section Stretches

variable {before piece after before' piece' after' : Text}

/-- A stretch that begins later, and not behind the other, has the character before it in the
other. -/
theorem getLast_mem_of_meets (same : before ++ (piece ++ after) = before' ++ after')
    (later : byteLength before < byteLength before')
    (inside : byteLength before' ≤ byteLength before + byteLength piece) :
    ∃ c ∈ before'.getLast?, c ∈ piece := by
  rcases List.append_eq_append_iff.mp same with ⟨passed, rfl, rest⟩ | ⟨passed, rfl, -⟩
  · have nonempty : passed ≠ [] := by
      rintro rfl
      simp at later
    have fits : byteLength passed ≤ byteLength piece := by
      rw [byteLength_append] at inside
      omega
    obtain ⟨further, rfl⟩ : ∃ further, piece = passed ++ further := by
      rcases List.append_eq_append_iff.mp rest with ⟨more, rfl, -⟩ | ⟨more, rfl, -⟩
      · rw [byteLength_append] at fits
        have nothing : more = [] := by
          by_contra some
          have positive := byteLength_pos some
          omega
        exact ⟨[], by rw [nothing]; simp⟩
      · exact ⟨more, rfl⟩
    obtain ⟨c, last⟩ : ∃ c, passed.getLast? = some c :=
      ⟨passed.getLast nonempty, List.getLast?_eq_some_getLast nonempty⟩
    refine ⟨c, ?_, List.mem_append_left _ (List.mem_of_getLast? last)⟩
    rw [Option.mem_def, List.getLast?_append, last]
    rfl
  · rw [byteLength_append] at later
    omega

/-- Two stretches that meet begin at the same place if neither holds the character before the
other. -/
theorem before_eq_of_meets
    (same : before ++ (piece ++ after) = before' ++ (piece' ++ after'))
    (reaches : byteLength before' ≤ byteLength before + byteLength piece)
    (reaches' : byteLength before ≤ byteLength before' + byteLength piece')
    (begins : ∀ c ∈ before'.getLast?, c ∉ piece) (begins' : ∀ c ∈ before.getLast?, c ∉ piece') :
    before = before' ∧ piece ++ after = piece' ++ after' := by
  apply append_inj_of_byteLength same
  apply Nat.le_antisymm
  · by_contra later
    obtain ⟨c, last, member⟩ := getLast_mem_of_meets same.symm (Nat.lt_of_not_le later) reaches'
    exact begins' c last member
  · by_contra later
    obtain ⟨c, last, member⟩ := getLast_mem_of_meets same (Nat.lt_of_not_le later) reaches
    exact begins c last member

/-- Two stretches that begin at the same place are the same if neither holds the character
behind the other. -/
theorem piece_eq_of_ends (same : piece ++ after = piece' ++ after')
    (ends : ∀ c ∈ after'.head?, c ∉ piece) (ends' : ∀ c ∈ after.head?, c ∉ piece') :
    piece = piece' := by
  rcases List.append_eq_append_iff.mp same with ⟨more, rfl, rfl⟩ | ⟨more, rfl, rfl⟩
  · cases more with
    | nil => rw [List.append_nil]
    | cons c more => exact absurd (by simp) (ends' c rfl)
  · cases more with
    | nil => rw [List.append_nil]
    | cons c more => exact absurd (by simp) (ends c rfl)

end Stretches

end Text

/-! ### Ranges that meet -/

theorem Position.notAfter_iff {left right : Position} :
    left.notAfter right = true ↔
      left.line < right.line ∨ left.line = right.line ∧ left.character ≤ right.character := by
  rw [notAfter, order, Ordering.isLE_then_iff_or, Nat.compare_eq_lt, Nat.compare_eq_eq,
    Nat.isLE_compare]

namespace TextRange

/-- A place is in a range, whose end does not belong to it. -/
def Covers (range : TextRange) (place : Position) : Prop :=
  range.start.notAfter place = true ∧ range.stop.notAfter place = false

/-- Some place is in both ranges. -/
def Overlaps (left right : TextRange) : Prop :=
  ∃ place, left.Covers place ∧ right.Covers place

theorem covers_onLine {line start stop : Nat} {place : Position} :
    (onLine line start stop).Covers place ↔
      place.line = Position.clamp line ∧ Position.clamp start ≤ place.character ∧
        place.character < Position.clamp stop := by
  rw [Covers, ← Bool.not_eq_true, Position.notAfter_iff, Position.notAfter_iff]
  simp only [onLine]
  omega

/-- Ranges on lines overlap only if the lines have the same number and the columns meet. -/
theorem Overlaps.columns {line line' start start' stop stop' : Nat}
    (overlaps : (onLine line start stop).Overlaps (onLine line' start' stop')) :
    Position.clamp line = Position.clamp line' ∧ start < stop' ∧ start' < stop := by
  obtain ⟨place, covers, covers'⟩ := overlaps
  obtain ⟨here, starts, stops⟩ := covers_onLine.mp covers
  obtain ⟨here', starts', stops'⟩ := covers_onLine.mp covers'
  have grows : ∀ m n, Position.clamp m < Position.clamp n → m < n := by
    intro m n
    unfold Position.clamp
    omega
  exact ⟨here.symm.trans here', grows _ _ (Nat.lt_of_le_of_lt starts stops'),
    grows _ _ (Nat.lt_of_le_of_lt starts' stops)⟩

end TextRange

end MakefileNav
