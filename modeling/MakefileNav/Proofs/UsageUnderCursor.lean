/-
Module: MakefileNav.Proofs.UsageUnderCursor
Purpose: What a cursor at the start of a usage is answered with.
Main exports:
  Usage.StandsAlone, Usage.exists_answer, usage_under_cursor, usages_inside_longer_names
-/
import MakefileNav.Proofs.CursorReading
import MakefileNav.Proofs.UsageSites

namespace MakefileNav

/-!
The scanner of usages ends a name where a word ends, and for it a dot, a dash or a slash
ends a word.  The reader of a cursor takes these for characters of the word, and inside a
reference it takes everything up to the parentheses.  So the reader may answer with
something longer than the name that is used.  It never answers with anything else than
such an extension, and it answers with the name itself exactly if there is nothing to
extend it with.
-/

namespace Cursor.OpenAt

variable {before after name inner rest : Text}

/-- The parentheses of a reference around a name go around the whole name. -/
theorem exists_trail (isOpen : OpenAt before (name ++ after) inner rest) (closed : ')' ∉ name) :
    ∃ trail, rest = name ++ trail := by
  obtain ⟨right, split⟩ := isOpen.closes
  rcases Text.append_cons_eq_append_iff.mp split.symm with ⟨cut, nameEq, _⟩ | ⟨trail, restEq, _⟩
  · -- The closing parenthesis would be a character of the name.
    simp [nameEq] at closed
  · exact ⟨trail, restEq⟩

/-- Between the parentheses of its own reference a name is all that is enclosed. -/
theorem of_whole (left right : Text) (closed : ')' ∉ name) :
    OpenAt (left ++ ['$', '(']) (name ++ ')' :: right) [] name :=
  ⟨⟨left, rfl⟩, by simp, by simp, ⟨right, rfl⟩, closed⟩

end Cursor.OpenAt

namespace Usage

open Cursor

/-- The name between `before` and `after` cannot be taken for a piece of something longer.
It is the whole of a reference, or no reference is open around it and no character of a
word stands next to it. -/
def StandsAlone (before name after : Text) : Prop :=
  (∃ left right, before = left ++ ['$', '('] ∧ after = ')' :: right) ∨
    ((∀ inner rest, ¬OpenAt before (name ++ after) inner rest) ∧
      (∀ c ∈ before.getLast?, isWordChar c = false) ∧
      ∀ c ∈ after.head?, isWordChar c = false)

/-- A name that is extended on neither side is itself. -/
private theorem append_append_eq_self_iff {lead name trail : Text} :
    lead ++ name ++ trail = name ↔ lead = [] ∧ trail = [] := by
  constructor
  · intro same
    have lengths := congrArg List.length same
    simp only [List.length_append] at lengths
    exact ⟨List.length_eq_zero_iff.mp (by omega), List.length_eq_zero_iff.mp (by omega)⟩
  · rintro ⟨rfl, rfl⟩
    simp

variable {before name after : Text}

/-- Inside a reference a usage is answered with all that the parentheses enclose. -/
private theorem exists_answer_of_reference {word : Token} {answer : Text} (nonempty : name ≠ [])
    (closed : ')' ∉ name)
    (touched : wordAt? (before ++ (name ++ after)) (Text.byteLength before) = some word)
    (read : referenceAt? (before ++ (name ++ after)) (Text.byteLength before) = some answer) :
    nameOnLine? (before ++ (name ++ after)) (Text.byteLength before) = some answer ∧
      name <:+: answer ∧ (answer = name ↔ StandsAlone before name after) := by
  obtain ⟨inner, rest, isOpen, answerEq, _⟩ := referenceAt?_eq_some_iff.mp read
  obtain ⟨trail, rfl⟩ := isOpen.exists_trail closed
  rw [← List.append_assoc] at answerEq
  refine ⟨nameOnLine?_of_reference touched read, ⟨inner, trail, answerEq.symm⟩, ?_⟩
  constructor
  · intro same
    rw [answerEq, append_append_eq_self_iff] at same
    obtain ⟨rfl, rfl⟩ := same
    obtain ⟨left, beforeEq⟩ := isOpen.opens
    obtain ⟨right, afterEq⟩ := isOpen.closes
    exact Or.inl ⟨left, right, beforeEq, by simpa using afterEq⟩
  · intro alone
    rcases alone with ⟨left, right, rfl, rfl⟩ | ⟨noneOpen, _⟩
    · have whole := referenceAt?_eq_some_iff.mpr
        ⟨[], name, OpenAt.of_whole left right closed, rfl, nonempty⟩
      rw [whole] at read
      exact (Option.some.inj read).symm
    · exact absurd isOpen (noneOpen inner (name ++ trail))

/-- If no reference is read around a name, none is open around it, since the name itself
would be enclosed. -/
private theorem not_openAt_of_referenceAt?_eq_none (nonempty : name ≠ []) (closed : ')' ∉ name)
    (outside : referenceAt? (before ++ (name ++ after)) (Text.byteLength before) = none)
    (inner rest : Text) : ¬OpenAt before (name ++ after) inner rest := by
  intro isOpen
  obtain ⟨trail, rfl⟩ := isOpen.exists_trail closed
  have read := referenceAt?_eq_some_iff.mpr
    ⟨inner, name ++ trail, isOpen, rfl, by simp [nonempty]⟩
  rw [outside] at read
  simp at read

/-- Outside references a usage stands behind a colon. -/
private theorem colon_mem_of_outside (closed : ')' ∉ name)
    (used : Text.byteLength before ∈ Line.usageOffsets name (before ++ (name ++ after)))
    (noneOpen : ∀ inner rest, ¬OpenAt before (name ++ after) inner rest) :
    ':' ∈ before ++ (name ++ after) := by
  rcases List.mem_append.mp used with reference | outside
  · -- A reference to the name would be open around it.
    obtain ⟨left, right, split, bytes⟩ := refersAt_of_mem_inReferences reference
    have same : before ++ (name ++ after) = (left ++ ['$', '(']) ++ (name ++ ')' :: right) := by
      simpa using split
    obtain ⟨rfl, afterEq⟩ := Text.append_inj_of_byteLength same (by simpa using bytes)
    rw [afterEq] at noneOpen
    exact absurd (OpenAt.of_whole left right closed) (noneOpen [] name)
  · obtain ⟨left, rest, place, split, _, _⟩ := exists_colon_of_mem_outsideReferences outside
    rw [split]
    simp

/-- A cursor at the start of a usage is answered with a text that contains the name, and
with the name itself exactly if the name stands alone. -/
theorem exists_answer (nonempty : name ≠ []) (accepted : ∀ c ∈ name, isWordChar c = true)
    (used : Text.byteLength before ∈ Line.usageOffsets name (before ++ (name ++ after))) :
    ∃ answer, nameOnLine? (before ++ (name ++ after)) (Text.byteLength before) = some answer ∧
      name <:+: answer ∧ (answer = name ↔ StandsAlone before name after) := by
  have closed : ')' ∉ name := Text.not_mem_of_accepted accepted rfl
  -- The cursor is at the start of the name, with no piece of it on the left.
  obtain ⟨offset, lead, trail, touched, leadEmpty, trailEmpty⟩ :=
    @exists_wordAt? [] name nonempty accepted before after
  simp only [List.append_nil, List.nil_append] at touched
  cases read : referenceAt? (before ++ (name ++ after)) (Text.byteLength before) with
  | some answer => exact ⟨answer, exists_answer_of_reference nonempty closed touched read⟩
  | none =>
      have noneOpen := not_openAt_of_referenceAt?_eq_none nonempty closed read
      have colon := colon_mem_of_outside closed used noneOpen
      refine ⟨lead ++ name ++ trail, nameOnLine?_of_word touched read (Or.inl colon),
        ⟨lead, trail, rfl⟩, ?_⟩
      rw [append_append_eq_self_iff, leadEmpty, trailEmpty]
      constructor
      · intro bare
        exact Or.inr ⟨noneOpen, bare⟩
      · intro alone
        rcases alone with ⟨left, right, rfl, rfl⟩ | ⟨_, bare⟩
        · exact absurd (OpenAt.of_whole left right closed) (noneOpen [] name)
        · exact bare

end Usage

/-- Every usage of a declared name without percent sign is found at some cut of a line.
A cursor at this cut is answered with a text that contains the name, and with the name
itself exactly if the name stands alone there.  The cut is the start of the location that
is reported, as long as this start can be reported. -/
theorem usage_under_cursor (file : Path) (text : Text) :
    ∀ symbol ∈ declarations file text, '%' ∉ symbol.name →
      ∀ location ∈ usages file text symbol.name, ∃ number before after,
        text.lines[number]? = some (before ++ (symbol.name ++ after)) ∧
        location = ⟨file, .onLine number (Text.byteLength before)
          (Text.byteLength before + Text.byteLength symbol.name)⟩ ∧
        (∃ answer, nameAt? text ⟨number, Text.byteLength before⟩ = some answer ∧
          symbol.name <:+: answer ∧
          (answer = symbol.name ↔ Usage.StandsAlone before symbol.name after)) ∧
        (location.range.start.BelowLimit →
          location.range.start = ⟨number, Text.byteLength before⟩) := by
  intro symbol declared plain location used
  have isName := isTargetName_of_mem_declarations declared
  have accepted := Cursor.isWordChar_of_isTargetChar isName.isTargetChar plain
  obtain ⟨_, _, number, line, offset, found, place, rfl⟩ := mem_usages_iff.mp used
  obtain ⟨before, after, split, rfl⟩ := Line.standsIn_of_mem_usageOffsets place
  obtain rfl : line = before ++ (symbol.name ++ after) := by simpa using split
  refine ⟨number, before, after, found, rfl, ?_, ?_⟩
  · rw [nameAt?_of_cut found]
    exact Usage.exists_answer isName.nonempty accepted place
  · intro below
    have lineEq := Position.clamp_of_clamp_lt below.1
    have startEq := Position.clamp_of_clamp_lt below.2
    simp only [TextRange.onLine, lineEq, startEq]

/-- A usage as a reference, behind one that is the beginning of a file name. -/
theorem usage_under_cursor_reference :
    let file : Path := ⟨['M']⟩
    let text : Text := ['a', ':', 'a', '.', 'o', ' ', '$', '(', 'a', ')']
    let symbol : Symbol := ⟨.target, ['a'], ⟨file, ⟨⟨0, 0⟩, ⟨0, 1⟩⟩⟩⟩
    let location : Location := ⟨file, ⟨⟨0, 8⟩, ⟨0, 9⟩⟩⟩
    symbol ∈ declarations file text ∧ '%' ∉ symbol.name ∧
      location ∈ usages file text symbol.name ∧ location.range.start.BelowLimit ∧
      ∃ before after answer,
        text.lines[0]? = some (before ++ (symbol.name ++ after)) ∧
        nameAt? text location.range.start = some answer ∧ symbol.name <:+: answer ∧
        (answer = symbol.name ↔ Usage.StandsAlone before symbol.name after) := by
  intro file text symbol location
  have declared : symbol ∈ declarations file text := by decide
  have plain : '%' ∉ symbol.name := by decide
  have used : location ∈ usages file text symbol.name := by decide
  have below : location.range.start.BelowLimit := ⟨by decide, by decide⟩
  obtain ⟨number, before, after, found, _, ⟨answer, answered, contained, alone⟩, place⟩ :=
    usage_under_cursor file text symbol declared plain location used
  obtain rfl : 0 = number := congrArg Position.line (place below)
  rw [← place below] at answered
  exact ⟨declared, plain, used, below, before, after, answer, found, answered, contained, alone⟩

/-- Usages of a declared name that a cursor is not answered with: one that a dot connects
with the rest of a file name, and one among other things in parentheses. -/
theorem usages_inside_longer_names :
    let file : Path := ⟨['M']⟩
    let text : Text := ['a', ':', 'a', '.', 'o', ' ', '$', '(', 'f', ' ', 'a', ' ', ')']
    let symbol : Symbol := ⟨.target, ['a'], ⟨file, ⟨⟨0, 0⟩, ⟨0, 1⟩⟩⟩⟩
    let inFileName : Location := ⟨file, ⟨⟨0, 2⟩, ⟨0, 3⟩⟩⟩
    let inCall : Location := ⟨file, ⟨⟨0, 10⟩, ⟨0, 11⟩⟩⟩
    symbol ∈ declarations file text ∧ '%' ∉ symbol.name ∧
      (inFileName ∈ usages file text symbol.name ∧
        nameAt? text inFileName.range.start = some ['a', '.', 'o']) ∧
      (inCall ∈ usages file text symbol.name ∧
        nameAt? text inCall.range.start = some ['f', ' ', 'a', ' ']) ∧
      ¬∀ location ∈ usages file text symbol.name,
        nameAt? text location.range.start = some symbol.name := by
  decide

end MakefileNav
