/-
Module: MakefileNav.Proofs.DeclarationsApart
Purpose: No usage of a name is a declaration, so that asking for the declaration adds one
  location and removes none.
Main exports:
  Line.ReadsAsAssignment.isAssignment, Line.usageOffsets_pos, start_ne_of_mem_usages,
  usagesWithDeclaration_eq, usages_apart_from_declarations
-/
import MakefileNav.Proofs.UsageSites

namespace MakefileNav

/-!
A declared name starts its line.  A usage never does: a reference has two characters in
front of the name, and every other usage has a colon.  Reporting a column cuts off large
numbers but makes no number zero, so this separates the two whatever the size of the
document.  On the line of an assignment only references are left, because the scanner
asks for an assignment after trimming and the white space at the end of a line belongs to
neither the name nor the operator.
-/

namespace Line

/-! ### Assignments with and without white space around them -/

/-- An assignment is still one after trimming.  It has no white space in front, and what is
trimmed at its end begins after the equals sign of the operator. -/
theorem ReadsAsAssignment.trim {name line : Text} (read : ReadsAsAssignment name line) :
    ReadsAsAssignment name line.trim := by
  obtain ⟨c, first, identifier⟩ := read.exists_head
  have flush := isWhitespace_of_isTargetChar (isTargetChar_of_isIdentifierChar identifier)
  obtain ⟨isName, blank, operator, rest, isBlank, member, lineEq⟩ := read
  obtain ⟨mark, _, rfl⟩ := exists_mark_of_mem_assignmentOperators member
  obtain rfl : line = name ++ blank ++ mark ++ '=' :: rest := by simp [lineEq]
  obtain ⟨kept, trimmed⟩ := Text.exists_trim_of_solid first flush (by decide)
  exact ⟨isName, blank, mark ++ ['='], kept, isBlank, member, by rw [trimmed]; simp⟩

theorem ReadsAsAssignment.isAssignment {name line : Text} (read : ReadsAsAssignment name line) :
    isAssignment line = true :=
  (isAssignment_iff line).mpr ⟨name, read.trim⟩

/-! ### Columns of usages -/

/-- No usage starts a line. -/
theorem usageOffsets_pos {name line : Text} {offset : Nat}
    (used : offset ∈ usageOffsets name line) : 0 < offset := by
  rcases List.mem_append.mp used with reference | outside
  · obtain ⟨before, after, _, rfl⟩ := Usage.refersAt_of_mem_inReferences reference
    exact Nat.succ_pos _
  · obtain ⟨left, rest, place, _, rfl, _⟩ :=
      Usage.exists_colon_of_mem_outsideReferences outside
    omega

/-- On the line of an assignment there are only references. -/
theorem refersAt_of_mem_usageOffsets {assigned name line : Text} {offset : Nat}
    (assignment : ReadsAsAssignment assigned line) (used : offset ∈ usageOffsets name line) :
    RefersAt line name offset := by
  rcases List.mem_append.mp used with reference | outside
  · exact Usage.refersAt_of_mem_inReferences reference
  · simp [Usage.outsideReferences, assignment.isAssignment] at outside

end Line

/-! ### Usages and declarations of a document -/

theorem start_of_mem_declarations {file : Path} {text : Text} {symbol : Symbol}
    (declared : symbol ∈ declarations file text) :
    symbol.location.range.start.character = 0 := by
  obtain ⟨number, line, _, member⟩ := mem_scanLines.mp declared
  obtain ⟨⟨kind, name⟩, _, rfl⟩ := List.mem_map.mp member
  rfl

theorem start_of_mem_usages {file : Path} {text name : Text} {location : Location}
    (used : location ∈ usages file text name) : location.range.start.character ≠ 0 := by
  obtain ⟨_, _, number, line, offset, _, place, rfl⟩ := mem_usages_iff.mp used
  have positive := Line.usageOffsets_pos place
  simp only [TextRange.onLine, Position.clamp, Position.limit]
  omega

/-- A usage and a declaration do not start at the same place, in whatever files they are. -/
theorem start_ne_of_mem_usages {file : Path} {text name : Text} {location : Location}
    {symbol : Symbol} (used : location ∈ usages file text name)
    (declared : symbol ∈ declarations file text) :
    location.range.start ≠ symbol.location.range.start := by
  intro same
  apply start_of_mem_usages used
  rw [same]
  exact start_of_mem_declarations declared

/-- The declaration that is asked for comes in front of all usages. -/
theorem usagesWithDeclaration_eq (file : Path) (text name : Text) :
    usagesWithDeclaration file text name true =
      ((firstDeclaration? (declarations file text) name).map Symbol.location).toList ++
        usages file text name := by
  unfold usagesWithDeclaration
  rw [if_pos rfl]
  cases first : firstDeclaration? (declarations file text) name with
  | none => rfl
  | some symbol =>
      have declared : symbol ∈ declarations file text := List.mem_of_find?_eq_some first
      have kept : (usages file text name).filter (· ≠ symbol.location) = usages file text name := by
        apply List.filter_eq_self.mpr
        intro location used
        apply decide_eq_true
        rintro rfl
        exact start_ne_of_mem_usages used declared rfl
      simp only [kept, Option.map_some, Option.toList_some, List.singleton_append]

/-- Usages and declarations are apart.  No usage is at the place of a declaration, not even
if only the starts are compared, and on a line that declares a variable every usage is a
reference.  So the usages with the declaration are the first declaration, if there is one,
and then all usages; and without it they are the usages. -/
theorem usages_apart_from_declarations (file : Path) (text name : Text) :
    (∀ location ∈ usages file text name, ∀ symbol ∈ declarations file text,
        location ≠ symbol.location ∧
          location.range.start ≠ symbol.location.range.start) ∧
      (∀ number line, text.lines[number]? = some line →
        (∃ symbol ∈ declaredOnLine file text number, symbol.kind = .variable) →
        ∀ location ∈ Line.usages file name number line,
          ∃ offset, Line.RefersAt line name offset ∧
            location = ⟨file, .onLine number offset (offset + Text.byteLength name)⟩) ∧
      usagesWithDeclaration file text name true =
        ((firstDeclaration? (declarations file text) name).map Symbol.location).toList ++
          usages file text name ∧
      usagesWithDeclaration file text name false = usages file text name := by
  refine ⟨?_, ?_, usagesWithDeclaration_eq file text name, rfl⟩
  · intro location used symbol declared
    have apart := start_ne_of_mem_usages used declared
    refine ⟨?_, apart⟩
    rintro rfl
    exact apart rfl
  · intro number line found declares location used
    rcases declares with ⟨symbol, declared, kind⟩
    have assignment : Line.ReadsAsAssignment symbol.name line := by
      rw [declaredOnLine_of_getElem? found] at declared
      exact ((Line.classified_declarations file number line).assigned symbol.name).mp
        ⟨symbol, declared, kind, rfl⟩
    obtain ⟨offset, place, rfl⟩ := List.mem_map.mp used
    exact ⟨offset, Line.refersAt_of_mem_usageOffsets assignment place, rfl⟩

/-- A line that is read twice and refers to its own name, and a rule that depends on its
own target. -/
theorem usages_apart_from_declarations_recursive :
    let file : Path := ⟨['M']⟩
    let text : Text :=
      ['C', ':', '=', '$', '(', 'C', ')', ' ', 'C', '\n', 'C', ':', ' ', 'C']
    let line : Text := ['C', ':', '=', '$', '(', 'C', ')', ' ', 'C']
    let symbol : Symbol := ⟨.variable, ['C'], ⟨file, ⟨⟨0, 0⟩, ⟨0, 1⟩⟩⟩⟩
    let inside : Location := ⟨file, ⟨⟨0, 5⟩, ⟨0, 6⟩⟩⟩
    let below : Location := ⟨file, ⟨⟨1, 3⟩, ⟨1, 4⟩⟩⟩
    below ∈ usages file text ['C'] ∧ symbol ∈ declarations file text ∧
      below.range.start ≠ symbol.location.range.start ∧
      text.lines[0]? = some line ∧ symbol ∈ declaredOnLine file text 0 ∧
      inside ∈ Line.usages file ['C'] 0 line ∧
      (∃ offset, Line.RefersAt line ['C'] offset ∧
        inside = ⟨file, .onLine 0 offset (offset + Text.byteLength ['C'])⟩) ∧
      usagesWithDeclaration file text ['C'] true =
        ((firstDeclaration? (declarations file text) ['C']).map Symbol.location).toList ++
          usages file text ['C'] := by
  intro file text line symbol inside below
  have used : below ∈ usages file text ['C'] := by decide
  have declared : symbol ∈ declarations file text := by decide
  have found : text.lines[0]? = some line := by decide
  have declaredHere : symbol ∈ declaredOnLine file text 0 := by decide
  have usedHere : inside ∈ Line.usages file ['C'] 0 line := by decide
  obtain ⟨apart, references, withDeclaration, _⟩ := usages_apart_from_declarations file text ['C']
  exact ⟨used, declared, (apart below used symbol declared).2, found, declaredHere, usedHere,
    references 0 line found ⟨symbol, declaredHere, rfl⟩ inside usedHere, withDeclaration⟩

end MakefileNav
