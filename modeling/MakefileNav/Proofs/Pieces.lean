/-
Module: MakefileNav.Proofs.Pieces
Purpose: The pieces of a text that is put together from several.
Main exports:
  Text.splitOn_cons_cases, Text.not_mem_of_mem_splitOn, Text.head?_eq_separator_iff,
  Text.pieces_ne_nil, Text.infix_iff_exists_piece, Text.lines_append,
  Text.dropCarriageReturn_append, Text.infix_iff_exists_line, Text.lines_of_not_mem
-/
import MakefileNav.Text.Basic

namespace MakefileNav

namespace Text

/-!
A separator between two texts separates their pieces, whatever they are.  For line feeds
this says that a document which goes on behind a line feed has the lines of both parts, and
that a carriage return at the end of the first part belongs to the line ending as it did
before.
-/

/-! ### Pieces between separators -/

/-- A character in front of a text is the separator and ends an empty first piece, or it
belongs to the first piece. -/
theorem splitOn_cons_cases (separator c : Char) (rest : Text) :
    (c = separator ∧ (c :: rest).splitOn separator = [] :: rest.splitOn separator) ∨
      (c ≠ separator ∧ ∃ first others, rest.splitOn separator = first :: others ∧
        (c :: rest).splitOn separator = (c :: first) :: others) := by
  rw [List.splitOn_cons_eq_if_modifyHead]
  by_cases same : c = separator
  · exact Or.inl ⟨same, if_pos (beq_iff_eq.mpr same)⟩
  · obtain ⟨first, others, pieces⟩ :=
      List.exists_cons_of_ne_nil (List.splitOn_ne_nil separator rest)
    refine Or.inr ⟨same, first, others, pieces, ?_⟩
    rw [if_neg (by simpa using same), pieces, List.modifyHead_cons]

/-- The separator is in none of the pieces. -/
theorem not_mem_of_mem_splitOn {separator : Char} {text piece : Text}
    (member : piece ∈ text.splitOn separator) : separator ∉ piece := by
  induction text generalizing piece with
  | nil =>
      rw [List.splitOn_nil, List.mem_singleton] at member
      simp [member]
  | cons c rest ih =>
      rcases splitOn_cons_cases separator c rest with
        ⟨-, whole⟩ | ⟨other, first, others, pieces, whole⟩
      · rw [whole, List.mem_cons] at member
        rcases member with rfl | member
        · exact List.not_mem_nil
        · exact ih member
      · rw [whole, List.mem_cons] at member
        rw [pieces] at ih
        rcases member with rfl | member
        · exact List.not_mem_cons_of_ne_of_not_mem (Ne.symm other) (ih List.mem_cons_self)
        · exact ih (List.mem_cons_of_mem _ member)

/-- A text that starts with the separator is one with an empty first piece and another
piece after it. -/
theorem head?_eq_separator_iff {separator : Char} {text first : Text} {rest : List Text}
    (pieces : text.splitOn separator = first :: rest) :
    text.head? = some separator ↔ first = [] ∧ rest ≠ [] := by
  cases text with
  | nil =>
      cases pieces
      simp
  | cons c others =>
      rcases splitOn_cons_cases separator c others with ⟨rfl, whole⟩ | ⟨other, _, _, _, whole⟩
      · cases whole.symm.trans pieces
        simp
      · cases whole.symm.trans pieces
        simp [other]

/-- A text that is not empty and has an empty first piece has another piece after it. -/
theorem pieces_ne_nil {separator : Char} {text : Text} {rest : List Text} (nonempty : text ≠ [])
    (pieces : text.splitOn separator = [] :: rest) : rest ≠ [] := by
  rintro rfl
  apply nonempty
  have whole : List.intercalate [separator] (text.splitOn separator) = text :=
    List.intercalate_splitOn separator
  rw [← whole, pieces]
  rfl

/-- A text without the separator starts a text if it starts the first piece. -/
theorem prefix_first_piece_iff {separator : Char} {inner text first : Text} {rest : List Text}
    (single : separator ∉ inner) (pieces : text.splitOn separator = first :: rest) :
    inner <+: text ↔ inner <+: first := by
  induction text generalizing inner first rest with
  | nil =>
      cases pieces
      rfl
  | cons c others ih =>
      cases inner with
      | nil => exact iff_of_true List.nil_prefix List.nil_prefix
      | cons d inner =>
          rw [List.mem_cons, not_or] at single
          rcases splitOn_cons_cases separator c others with
            ⟨rfl, whole⟩ | ⟨-, _, _, found, whole⟩
          · cases whole.symm.trans pieces
            rw [List.cons_prefix_cons, List.prefix_nil]
            exact iff_of_false (fun starts => single.1 starts.1.symm) (List.cons_ne_nil d inner)
          · cases whole.symm.trans pieces
            rw [List.cons_prefix_cons, List.cons_prefix_cons, ih single.2 found]

/-- A text without the separator stands in a text if it stands in one of the pieces. -/
theorem infix_iff_exists_piece {separator : Char} {inner : Text} (single : separator ∉ inner)
    (text : Text) :
    inner <:+: text ↔ ∃ piece ∈ text.splitOn separator, inner <:+: piece := by
  induction text with
  | nil => simp
  | cons c rest ih =>
      rw [List.infix_cons_iff, ih]
      rcases splitOn_cons_cases separator c rest with ⟨-, whole⟩ | ⟨-, _, _, pieces, whole⟩
      · rw [prefix_first_piece_iff single whole, whole]
        simp only [List.mem_cons, exists_eq_or_imp, List.prefix_nil, List.infix_nil]
      · rw [prefix_first_piece_iff single whole, whole, pieces]
        simp only [List.mem_cons, exists_eq_or_imp, List.infix_cons_iff, or_assoc]

/-! ### Lines -/

theorem lines_append (left right : Text) :
    lines (left ++ '\n' :: right) = lines left ++ lines right := by
  unfold lines
  rw [List.splitOn_append_cons_self, List.map_append]

theorem dropCarriageReturn_append (piece : Text) :
    dropCarriageReturn (piece ++ ['\r']) = piece := by
  simp [dropCarriageReturn]

theorem dropCarriageReturn_of_getLast? {piece : Text} (plain : piece.getLast? ≠ some '\r') :
    dropCarriageReturn piece = piece :=
  if_neg plain

/-- What holds no carriage return does not stand in the one that belongs to a line ending. -/
theorem infix_dropCarriageReturn_iff {inner : Text} (plain : '\r' ∉ inner) (piece : Text) :
    inner <:+: dropCarriageReturn piece ↔ inner <:+: piece := by
  rcases List.eq_nil_or_concat piece with rfl | ⟨initial, last, rfl⟩
  · rfl
  · rw [List.concat_eq_append]
    by_cases ending : last = '\r'
    · subst ending
      rw [dropCarriageReturn_append, infix_iff_exists_piece plain initial,
        infix_iff_exists_piece plain (initial ++ ['\r']), List.splitOn_append_cons_self, List.splitOn_nil]
      simp only [List.mem_append, List.mem_singleton, or_and_right, exists_or, exists_eq_left,
        List.infix_nil]
      constructor
      · exact Or.inl
      · rintro (stands | rfl)
        · exact stands
        · obtain ⟨piece, others, pieces⟩ :=
            List.exists_cons_of_ne_nil (List.splitOn_ne_nil '\r' initial)
          exact ⟨piece, pieces ▸ List.mem_cons_self, List.nil_infix⟩
    · rw [dropCarriageReturn_of_getLast? (by simpa using ending)]

/-- What holds neither a line feed nor a carriage return stands in a text if it stands in one
of the lines. -/
theorem infix_iff_exists_line {inner : Text} (single : '\n' ∉ inner) (plain : '\r' ∉ inner)
    (text : Text) : inner <:+: text ↔ ∃ line ∈ text.lines, inner <:+: line := by
  rw [infix_iff_exists_piece single text, lines]
  constructor
  · rintro ⟨piece, member, stands⟩
    exact ⟨dropCarriageReturn piece, List.mem_map_of_mem member,
      (infix_dropCarriageReturn_iff plain piece).mpr stands⟩
  · rintro ⟨line, member, stands⟩
    obtain ⟨piece, present, rfl⟩ := List.mem_map.mp member
    exact ⟨piece, present, (infix_dropCarriageReturn_iff plain piece).mp stands⟩

/-- Without line feeds a text is one line. -/
theorem lines_of_not_mem {line : Text} (single : '\n' ∉ line)
    (plain : line.getLast? ≠ some '\r') : lines line = [line] := by
  unfold lines
  rw [List.splitOn_eq_singleton single, List.map_singleton, dropCarriageReturn_of_getLast? plain]

end Text

end MakefileNav
