/-
Module: MakefileNav.Proofs.UsageSpecification
Purpose: For the name of a variable the scanner of usages finds all places that the
  naive description of a usage gives, and no others.
Main exports:
  Usage.referenceAt, Usage.entryAt, Usage.isolatedAt, Usage.everyOffset,
  usages_eq_everyOffset
-/
import MakefileNav.Proofs.UsageSites

namespace MakefileNav

/-!
The naive description tries every cut of a line.  It does not search, so nothing can be
lost behind an earlier match, and it looks at the line as it is, not at a piece cut out
of it.  For the name of a variable the search agrees with it: a reference that begins
inside another one would have to close before its own name ends, and a word that begins
inside an occurrence of the name would have a word character directly before it.
-/

namespace Usage

/-! ### The naive description -/

/-- A reference to the name stands at the cut. -/
def referenceAt (name _before after : Text) : Bool :=
  (['$', '('] ++ name ++ [')']).isPrefixOf after

/-- The name stands at the cut, somewhere after a colon, and neither of the characters
next to it is a word character. -/
def isolatedAt (name before after : Text) : Bool :=
  before.contains ':' && name.isPrefixOf after && !before.getLast?.any isWordCharacter &&
    !(after.drop name.length).head?.any isWordCharacter

/-- The name stands at the cut with white space on both sides of it.  The ends of the
text count as white space. -/
def separatedAt (name before after : Text) : Bool :=
  name.isPrefixOf after && before.getLast?.all isWhitespace &&
    (after.drop name.length).head?.all isWhitespace

/-- The name stands at the cut as an entry of the list after the first colon. -/
def entryAt (name before after : Text) : Bool :=
  match before.cut? ':' with
  | none => false
  | some (_, passed) => separatedAt name passed after

/-- Byte offsets of all places at which a line uses a name. -/
def everyOffset (name line : Text) : List Nat :=
  (line.offsetsWhere (referenceAt name)).map (· + 2) ++
    if ∃ assigned, Line.ReadsAsAssignment assigned line.trim then []
    else if Line.ReadsAsPhonyList line.trim then line.offsetsWhere (entryAt name)
    else line.offsetsWhere (isolatedAt name)

/-! ### References -/

private theorem startsWithReference_eq (name before after : Text) :
    startsWithReference name after = referenceAt name before after := by
  rw [Bool.eq_iff_iff, startsWithReference_iff, referenceAt, List.isPrefixOf_iff_prefix]
  constructor
  · intro reference
    rcases reference with ⟨rest, rfl⟩
    exact ⟨rest, by simp⟩
  · intro begins
    rcases begins with ⟨rest, rfl⟩
    exact ⟨rest, by simp⟩

/-- A character that stands inside a beginning of a text belongs to that beginning. -/
private theorem mem_of_append_cons_eq {left rest piece others : Text} {c : Char}
    (same : left ++ c :: rest = piece ++ others) (inside : left.length < piece.length) :
    c ∈ piece := by
  rcases Text.append_cons_eq_append_iff.mp same with ⟨middle, pieceEq, _⟩ | ⟨middle, leftEq, _⟩
  · simp [pieceEq]
  · rw [leftEq, List.length_append] at inside
    omega

/-- References to a name without parentheses do not overlap, so all of them are found. -/
theorem inReferences_eq {name : Text} (closed : ')' ∉ name) (line : Text) :
    inReferences name line = (line.offsetsWhere (referenceAt name)).map (· + 2) := by
  unfold inReferences
  rw [Text.scan_eq_offsetsWhere]
  · congr 2
    funext before after
    rw [startsWithReference_eq name before after]
    cases referenceAt name before after <;> rfl
  · intro before
    rfl
  · intro before middle after width nonempty matched next
    obtain ⟨first, widthEq⟩ := Option.ite_none_right_eq_some.mp matched
    rw [Option.some.injEq] at widthEq
    obtain ⟨rest, split⟩ := startsWithReference_iff.mp first
    obtain ⟨rest', rfl⟩ := startsWithReference_iff.mp (Option.isSome_ite.mp next)
    by_contra overlap
    -- The first reference would be closed inside the second one, before the name ends.
    have opened : ')' ∉ '$' :: '(' :: name := by simp [closed]
    have same : '$' :: '(' :: name ++ ')' :: rest =
        middle ++ '$' :: '(' :: (name ++ ')' :: rest') := by
      rw [split]
      simp
    rcases List.append_eq_append_iff.mp same with ⟨inner, middleEq, _⟩ | ⟨inner, nameEq, restEq⟩
    · cases inner with
      | nil =>
          rw [List.append_nil] at middleEq
          simp [middleEq] at same
      | cons c inner =>
          have longer := congrArg List.length middleEq
          simp only [List.length_append, List.length_cons] at longer
          omega
    · apply opened
      have closedInside : inner ++ ')' :: rest = '$' :: '(' :: name ++ ')' :: rest' := by
        rw [← restEq]
        simp
      have short := congrArg List.length nameEq
      have positive := List.length_pos_of_ne_nil nonempty
      rw [List.length_append] at short
      exact mem_of_append_cons_eq closedInside (by omega)

theorem mem_inReferences_iff {name line : Text} {offset : Nat} (closed : ')' ∉ name) :
    offset ∈ inReferences name line ↔ Line.RefersAt line name offset := by
  constructor
  · exact refersAt_of_mem_inReferences
  · intro refers
    rcases refers with ⟨before, after, rfl, rfl⟩
    rw [inReferences_eq closed]
    apply List.mem_map_of_mem
    apply Text.mem_offsetsWhere.mpr
    refine ⟨before, _, rfl, rfl, ?_⟩
    rw [← startsWithReference_eq name before]
    exact startsWithReference_iff.mpr ⟨after, rfl⟩

/-! ### Whole words -/

/-- At either end of a variable's name stands a word character. -/
private theorem any_isWordCharacter_of_isVariableName {name : Text}
    (isName : Line.IsVariableName name) :
    name.head?.any isWordCharacter = true ∧ name.getLast?.any isWordCharacter = true := by
  have word : ∀ c ∈ name, isWordCharacter c = true := by
    intro c member
    exact isWordCharacter_of_isIdentifierChar (isName.isIdentifierChar c member)
  constructor
  · rw [List.head?_eq_some_head isName.nonempty]
    exact word _ (List.head_mem isName.nonempty)
  · rw [List.getLast?_eq_some_getLast isName.nonempty]
    exact word _ (List.getLast_mem isName.nonempty)

/-- For the name of a variable a boundary is where no word character is next to it. -/
private theorem wholeWordAt_eq {name : Text} (isName : Line.IsVariableName name)
    (before : Option Char) (after : Text) :
    Text.wholeWordAt name before after =
      (name.isPrefixOf after && !before.any isWordCharacter &&
        !(after.drop name.length).head?.any isWordCharacter) := by
  obtain ⟨first, last⟩ := any_isWordCharacter_of_isVariableName isName
  unfold Text.wholeWordAt
  cases leads : name.isPrefixOf after with
  | false => simp
  | true =>
      obtain ⟨rest, rfl⟩ := List.isPrefixOf_iff_prefix.mp leads
      have head : (name ++ rest).head?.any isWordCharacter = true := by
        rw [List.head?_append, List.head?_eq_some_head isName.nonempty]
        rw [List.head?_eq_some_head isName.nonempty] at first
        exact first
      simp only [wordBoundary, head, last]
      cases before.any isWordCharacter <;> simp

/-- Whole words do not overlap, so all of them are found. -/
private theorem wholeWordOccurrences_eq {name : Text} (isName : Line.IsVariableName name)
    (text : Text) :
    Text.wholeWordOccurrences name text =
      text.offsetsWhere fun before after => Text.wholeWordAt name before.getLast? after := by
  unfold Text.wholeWordOccurrences
  rw [Text.scan_eq_offsetsWhere]
  · congr 1
    funext before after
    cases Text.wholeWordAt name before.getLast? after <;> rfl
  · intro before
    have outside : Text.wholeWordAt name before [] = false := by
      rw [wholeWordAt_eq isName]
      obtain ⟨c, rest, rfl⟩ := List.exists_cons_of_ne_nil isName.nonempty
      rfl
    rw [outside]
    rfl
  · intro before middle after width nonempty matched next
    obtain ⟨first, widthEq⟩ := Option.ite_none_right_eq_some.mp matched
    rw [Option.some.injEq] at widthEq
    have second := Option.isSome_ite.mp next
    obtain ⟨rest, split, _, _⟩ := Text.wholeWordAt_iff.mp first
    by_contra overlap
    -- The character before the second word would be one of the first.
    rw [wholeWordAt_eq isName, List.getLast?_eq_some_getLast nonempty] at second
    have inside : middle.getLast nonempty ∈ name := by
      rw [← List.dropLast_append_getLast nonempty, List.append_assoc] at split
      apply mem_of_append_cons_eq split
      rw [List.length_dropLast]
      have positive := List.length_pos_of_ne_nil nonempty
      omega
    have word := isWordCharacter_of_isIdentifierChar (isName.isIdentifierChar _ inside)
    simp [word] at second

/-! ### Entries -/

/-- The entries of a list that are equal to a name are the places where the name stands
between white space. -/
private theorem inEntries_words_eq {name : Text} (nonempty : name ≠ [])
    (solid : ∀ c ∈ name, isWhitespace c = false) (text : Text) :
    inEntries name text.words = text.offsetsWhere (separatedAt name) := by
  have ordered : (inEntries name text.words).Pairwise (· < ·) := by
    unfold inEntries
    rw [List.pairwise_map]
    apply List.Pairwise.filter
    apply (Text.runs_pairwise _ text).imp
    intro left right apart
    rw [Token.stop] at apart
    omega
  apply ordered.eq_of_mem_iff (Text.offsetsWhere_pairwise _ text)
  intro offset
  rw [Text.mem_offsetsWhere]
  constructor
  · intro found
    obtain ⟨token, kept, rfl⟩ := List.mem_map.mp found
    obtain ⟨member, same⟩ := List.mem_filter.mp kept
    obtain ⟨before, after, split, bytes, run⟩ := Text.mem_runs_iff.mp member
    rw [decide_eq_true_eq] at same
    subst same
    refine ⟨before, token.text ++ after, by rw [split]; simp, bytes, ?_⟩
    simp only [separatedAt, List.isPrefixOf_iff_prefix, List.drop_left, Bool.and_eq_true,
      List.prefix_append, true_and, Option.all_eq_true]
    refine ⟨?_, ?_⟩
    · intro c last
      simpa using run.begins c last
    · intro c first
      simpa using run.ends c first
  · intro cut
    rcases cut with ⟨before, after, rfl, rfl, holds⟩
    simp only [separatedAt, Bool.and_eq_true, List.isPrefixOf_iff_prefix] at holds
    obtain ⟨⟨⟨rest, rfl⟩, begins⟩, ends⟩ := holds
    rw [List.drop_left] at ends
    refine List.mem_map.mpr ⟨⟨Text.byteLength before, name⟩, List.mem_filter.mpr ⟨?_, by simp⟩, rfl⟩
    rw [Text.words, Text.mem_runs_iff]
    refine ⟨before, rest, by simp, rfl, nonempty, ?_, ?_, ?_⟩
    · intro c member
      simp [solid c member]
    · intro c last
      simpa using Option.all_eq_true _ _ |>.mp begins c last
    · intro c first
      simpa using Option.all_eq_true _ _ |>.mp ends c first

/-! ### Places after the first colon -/

/-- Places that need a colon before them can be looked for in what follows the first
colon. -/
private theorem offsetsWhere_append_colon {holds behind : Text → Text → Bool} {left : Text}
    (absent : ':' ∉ left) (right : Text)
    (early : ∀ before after, ':' ∉ before → holds before after = false)
    (late : ∀ passed after, holds (left ++ ':' :: passed) after = behind passed after) :
    (left ++ ':' :: right).offsetsWhere holds =
      (right.offsetsWhere behind).map (Text.byteLength left + 1 + ·) := by
  have ordered : ((right.offsetsWhere behind).map (Text.byteLength left + 1 + ·)).Pairwise
      (· < ·) := by
    rw [List.pairwise_map]
    apply (Text.offsetsWhere_pairwise behind right).imp
    intro a b less
    omega
  apply (Text.offsetsWhere_pairwise holds _).eq_of_mem_iff ordered
  intro offset
  rw [List.mem_map, Text.mem_offsetsWhere]
  constructor
  · intro cut
    rcases cut with ⟨before, after, split, rfl, found⟩
    have colon : ':' ∈ before := by
      by_contra none
      rw [early before after none] at found
      simp at found
    rcases Text.append_cons_eq_append_iff.mp split with ⟨passed, rfl, rfl⟩ | ⟨middle, rfl, _⟩
    · have behindHere : behind passed after = true := by
        rw [← late]
        exact found
      exact ⟨Text.byteLength passed,
        Text.mem_offsetsWhere.mpr ⟨passed, after, rfl, rfl, behindHere⟩,
        (Text.byteLength_append_colon left passed).symm⟩
    · exact absurd (List.mem_append_left _ colon) absent
  · intro shifted
    rcases shifted with ⟨place, found, rfl⟩
    obtain ⟨passed, after, rfl, rfl, holdsBehind⟩ := Text.mem_offsetsWhere.mp found
    refine ⟨left ++ ':' :: passed, after, by simp, Text.byteLength_append_colon left passed, ?_⟩
    rw [late]
    exact holdsBehind

private theorem offsetsWhere_eq_nil {holds : Text → Text → Bool} {line : Text}
    (absent : ':' ∉ line)
    (early : ∀ before after, ':' ∉ before → holds before after = false) :
    line.offsetsWhere holds = [] := by
  rw [List.eq_nil_iff_forall_not_mem]
  intro offset found
  obtain ⟨before, after, rfl, _, held⟩ := Text.mem_offsetsWhere.mp found
  rw [early before after fun member => absent (List.mem_append_left _ member)] at held
  simp at held

private theorem entryAt_early (name before after : Text) (absent : ':' ∉ before) :
    entryAt name before after = false := by
  unfold entryAt
  rw [Text.cut?_eq_none_iff.mpr absent]

private theorem entryAt_late {left : Text} (absent : ':' ∉ left) (name passed after : Text) :
    entryAt name (left ++ ':' :: passed) after = separatedAt name passed after := by
  have cut : Text.cut? ':' (left ++ ':' :: passed) = some (left, passed) :=
    Text.cut?_eq_some_iff.mpr ⟨rfl, absent⟩
  simp only [entryAt, cut]

private theorem isolatedAt_early (name before after : Text) (absent : ':' ∉ before) :
    isolatedAt name before after = false := by
  simp [isolatedAt, absent]

/-- At the start of the part after the colon it is the colon that comes before the name,
and the colon is no word character. -/
private theorem isolatedAt_late {name : Text} (isName : Line.IsVariableName name)
    (left passed after : Text) :
    isolatedAt name (left ++ ':' :: passed) after =
      Text.wholeWordAt name passed.getLast? after := by
  have before : (left ++ ':' :: passed).getLast?.any isWordCharacter =
      passed.getLast?.any isWordCharacter := by
    have colon : isWordCharacter ':' = false := by decide
    rw [List.getLast?_append, List.getLast?_cons]
    cases passed.getLast? with
    | none => simp [colon]
    | some c => simp
  rw [wholeWordAt_eq isName, isolatedAt, before]
  simp

/-- The search after the first colon as a look at every cut of the line. -/
private theorem outsideReferences_eq_offsetsWhere {holds behind : Text → Text → Bool}
    {name line : Text} (other : Line.isAssignment line = false)
    (early : ∀ before after, ':' ∉ before → holds before after = false)
    (late : ∀ left, ':' ∉ left → ∀ passed after,
      holds (left ++ ':' :: passed) after = behind passed after)
    (search : ∀ text : Text, (if (Line.phonyList? line.trim).isSome then inEntries name text.words
      else Text.wholeWordOccurrences name text) = text.offsetsWhere behind) :
    outsideReferences name line = line.offsetsWhere holds := by
  rw [outsideReferences_eq, if_neg (by simp [other])]
  cases read : Line.afterColon? line with
  | none => rw [offsetsWhere_eq_nil (Line.afterColon?_eq_none_iff.mp read) early]
  | some rest =>
      obtain ⟨left, absent, split, offset⟩ := Line.afterColon?_eq_some_iff.mp read
      simp only
      rw [search, split, offsetsWhere_append_colon absent rest.text early (late left absent),
        offset]

/-- Outside references a `.PHONY` line uses a name at all its equal entries. -/
theorem outsideReferences_of_phony {name line : Text} (nonempty : name ≠ [])
    (solid : ∀ c ∈ name, isWhitespace c = false) (other : Line.isAssignment line = false)
    (phony : Line.ReadsAsPhonyList line.trim) :
    outsideReferences name line = line.offsetsWhere (entryAt name) := by
  apply outsideReferences_eq_offsetsWhere other (entryAt_early name)
  · intro left absent
    exact entryAt_late absent name
  · intro text
    rw [if_pos ((Line.isSome_phonyList?_trim_iff line).mpr phony)]
    exact inEntries_words_eq nonempty solid text

/-- Outside references any other line uses the name of a variable at all its isolated
occurrences after the first colon. -/
private theorem outsideReferences_of_not_phony {name line : Text}
    (isName : Line.IsVariableName name) (other : Line.isAssignment line = false)
    (notPhony : ¬Line.ReadsAsPhonyList line.trim) :
    outsideReferences name line = line.offsetsWhere (isolatedAt name) := by
  apply outsideReferences_eq_offsetsWhere other (isolatedAt_early name)
  · intro left _
    exact isolatedAt_late isName left
  · intro text
    rw [if_neg fun found => notPhony ((Line.isSome_phonyList?_trim_iff line).mp found)]
    exact wholeWordOccurrences_eq isName text

/-- A line uses the name of a variable at all the places of the naive description. -/
theorem usageOffsets_eq_everyOffset {name : Text} (isName : Line.IsVariableName name)
    (line : Text) : Line.usageOffsets name line = everyOffset name line := by
  have solid : ∀ c ∈ name, isWhitespace c = false := by
    intro c member
    exact Line.isWhitespace_of_isTargetChar
      (Line.isTargetChar_of_isIdentifierChar (isName.isIdentifierChar c member))
  unfold Line.usageOffsets everyOffset
  rw [inReferences_eq (Text.not_mem_of_accepted isName.isIdentifierChar rfl)]
  congr 1
  by_cases assignment : Line.isAssignment line = true
  · rw [if_pos ((Line.isAssignment_iff line).mp assignment), outsideReferences_eq,
      if_pos assignment]
  · have other : Line.isAssignment line = false := by simpa using assignment
    rw [if_neg fun read => assignment ((Line.isAssignment_iff line).mpr read)]
    by_cases phony : Line.ReadsAsPhonyList line.trim
    · rw [if_pos phony, outsideReferences_of_phony isName.nonempty solid other phony]
    · rw [if_neg phony, outsideReferences_of_not_phony isName other phony]

end Usage

/-- The usages of a variable's name in a document are, line by line and in this order, all
its references, and then, unless the line is an assignment, all equal entries of a `.PHONY`
list or all places after the first colon without a word character next to them. -/
theorem usages_eq_everyOffset (file : Path) (text : Text) {name : Text}
    (isName : Line.IsVariableName name) (short : Usage.isTooLong name = false) :
    usages file text name =
      text.lines.zipIdx.flatMap fun (line, number) =>
        (Usage.everyOffset name line).map fun offset =>
          ⟨file, .onLine number offset (offset + name.byteLength)⟩ := by
  have filled : name.isEmpty = false := by simpa using isName.nonempty
  unfold usages usagesOnLines scanLines Line.usages
  rw [filled, short]
  simp only [Bool.or_self, Bool.false_eq_true, if_false]
  congr 1
  funext ⟨line, number⟩
  rw [Usage.usageOffsets_eq_everyOffset isName]

/-- A line on which a reference begins inside another one that is not closed. -/
theorem usages_eq_everyOffset_nested :
    let file : Path := ⟨['M']⟩
    let text : Text := ['b', ':', 'a', '$', '(', '$', '(', 'a', ')', ' ', 'a', 'a']
    Line.IsVariableName ['a'] ∧ Usage.isTooLong ['a'] = false ∧
      usages file text ['a'] =
        text.lines.zipIdx.flatMap fun (line, number) =>
          (Usage.everyOffset ['a'] line).map fun offset =>
            ⟨file, .onLine number offset (offset + Text.byteLength ['a'])⟩ := by
  intro file text
  have isName : Line.IsVariableName ['a'] := ⟨Or.inl (Or.inl ⟨by decide, by decide⟩), by simp⟩
  have short : Usage.isTooLong ['a'] = false := by decide
  exact ⟨isName, short, usages_eq_everyOffset file text isName short⟩

end MakefileNav
