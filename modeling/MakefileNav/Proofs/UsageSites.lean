/-
Module: MakefileNav.Proofs.UsageSites
Purpose: What stands at the places where a line is said to use a name.
Main exports:
  Usage.startsWithReference_iff, Text.wholeWordAt_iff, Usage.outsideReferences_eq,
  Usage.refersAt_of_mem_inReferences, Usage.not_mem_inReferences,
  Usage.exists_colon_of_mem_outsideReferences,
  Line.standsIn_of_mem_usageOffsets, usages_eq_scanLines, mem_usages_iff
-/
import MakefileNav.Proofs.LineParts
import MakefileNav.Proofs.SearchCompleteness
import MakefileNav.Usage

namespace MakefileNav

/-!
Three searches look for the usages of a name, and each has its own test for a place.
The tests are restated here as divisions of the text, without any pattern.  That the
name stands at every place that is reported follows for all three at once, whatever
characters the name has.
-/

/-! ### Tests for a place -/

/-- A text starts with a reference to a name exactly if it starts with the name in
parentheses after a dollar sign. -/
theorem Usage.startsWithReference_iff {name text : Text} :
    startsWithReference name text = true ↔
      ∃ rest, text = '$' :: '(' :: (name ++ ')' :: rest) := by
  constructor
  · intro starts
    unfold startsWithReference at starts
    split at starts
    · split at starts
      · rename_i dropped
        exact ⟨_, by rw [List.isPrefixOf?_eq_some_iff_append_eq.mp dropped]⟩
      · simp at starts
    · simp at starts
  · intro reference
    rcases reference with ⟨rest, rfl⟩
    have dropped : name.isPrefixOf? (name ++ ')' :: rest) = some (')' :: rest) :=
      List.isPrefixOf?_eq_some_iff_append_eq.mpr rfl
    simp only [startsWithReference, dropped]

/-- A whole word is the word itself with a boundary at either end. -/
theorem Text.wholeWordAt_iff {word suffix : Text} {before : Option Char} :
    wholeWordAt word before suffix = true ↔
      ∃ rest, suffix = word ++ rest ∧ wordBoundary before suffix.head? = true ∧
        wordBoundary word.getLast? rest.head? = true := by
  simp only [wholeWordAt, Bool.and_eq_true, List.isPrefixOf_iff_prefix]
  constructor
  · intro whole
    rcases whole with ⟨⟨begins, rest, rfl⟩, ends⟩
    rw [List.drop_left] at ends
    exact ⟨rest, rfl, begins, ends⟩
  · intro division
    rcases division with ⟨rest, rfl, begins, ends⟩
    rw [List.drop_left]
    exact ⟨⟨begins, rest, rfl⟩, ends⟩

namespace Usage

/-! ### Places outside references -/

/-- Outside references a line uses a name after its first colon only, as an entry if the
line is a `.PHONY` list and as a whole word if it is not. -/
theorem outsideReferences_eq (name line : Text) :
    outsideReferences name line =
      if Line.isAssignment line then []
      else
        match Line.afterColon? line with
        | none => []
        | some rest =>
            (if (Line.phonyList? line.trim).isSome then inEntries name rest.text.words
              else Text.wholeWordOccurrences name rest.text).map (rest.offset + ·) := by
  unfold outsideReferences
  rw [Line.phonyEntries?_eq]
  split
  · rfl
  · unfold inDependencies
    by_cases phony : (Line.phonyList? line.trim).isSome = true
    · cases Line.afterColon? line with
      | none => simp [phony]
      | some rest =>
          simp only [phony, if_true, Option.map_some, inEntries, List.filter_map, List.map_map]
          rfl
    · simp only [phony]
      rfl

/-! ### The name stands where it is reported -/

/-- The search for references reports references only, whatever characters the name has. -/
theorem refersAt_of_mem_inReferences {name line : Text} {offset : Nat}
    (found : offset ∈ inReferences name line) : Line.RefersAt line name offset := by
  obtain ⟨place, matched, rfl⟩ := List.mem_map.mp found
  obtain ⟨before, after, rfl, rfl, starts⟩ := Text.exists_match_of_mem_scan matched
  obtain ⟨rest, rfl⟩ := startsWithReference_iff.mp (Option.isSome_ite.mp starts)
  exact ⟨before, rest, rfl, rfl⟩

/-- A name without an opening parenthesis directly before it is in no reference. -/
theorem not_mem_inReferences {before name after : Text} (unopened : before.getLast? ≠ some '(') :
    Text.byteLength before ∉ inReferences name (before ++ (name ++ after)) := by
  intro found
  obtain ⟨opening, rest, split, offset⟩ := refersAt_of_mem_inReferences found
  have same : before ++ (name ++ after) = (opening ++ ['$', '(']) ++ (name ++ ')' :: rest) := by
    rw [split]
    simp
  have bytes : Text.byteLength before = Text.byteLength (opening ++ ['$', '(']) := by
    rw [offset]
    simp
  obtain ⟨beforeEq, _⟩ := Text.append_inj_of_byteLength same bytes
  rw [beforeEq] at unopened
  simp at unopened

theorem standsIn_of_mem_wholeWordOccurrences {word text : Text} {offset : Nat}
    (found : offset ∈ Text.wholeWordOccurrences word text) :
    Token.StandsIn ⟨offset, word⟩ text := by
  obtain ⟨before, after, rfl, rfl, starts⟩ := Text.exists_match_of_mem_scan found
  obtain ⟨rest, rfl, _, _⟩ := Text.wholeWordAt_iff.mp (Option.isSome_ite.mp starts)
  exact ⟨before, rest, by simp, rfl⟩

theorem standsIn_of_mem_inEntries {name text : Text} {offset : Nat}
    (found : offset ∈ inEntries name text.words) : Token.StandsIn ⟨offset, name⟩ text := by
  obtain ⟨token, kept, rfl⟩ := List.mem_map.mp found
  obtain ⟨member, same⟩ := List.mem_filter.mp kept
  have stands := Text.standsIn_of_mem_runs member
  rw [decide_eq_true_eq] at same
  rw [← same]
  exact stands

/-- Outside references a name is found behind the first colon of a line. -/
theorem exists_colon_of_mem_outsideReferences {name line : Text} {offset : Nat}
    (found : offset ∈ outsideReferences name line) :
    ∃ left rest place, line = left ++ ':' :: rest ∧
      offset = Text.byteLength left + 1 + place ∧ Token.StandsIn ⟨place, name⟩ rest := by
  rw [outsideReferences_eq] at found
  split at found
  · simp at found
  · split at found
    · simp at found
    · rename_i rest read
      obtain ⟨left, _, split, bytes⟩ := Line.afterColon?_eq_some_iff.mp read
      obtain ⟨place, inside, rfl⟩ := List.mem_map.mp found
      refine ⟨left, rest.text, place, split, by rw [bytes], ?_⟩
      split at inside
      · exact standsIn_of_mem_inEntries inside
      · exact standsIn_of_mem_wholeWordOccurrences inside

theorem standsIn_of_mem_outsideReferences {name line : Text} {offset : Nat}
    (found : offset ∈ outsideReferences name line) : Token.StandsIn ⟨offset, name⟩ line := by
  obtain ⟨left, rest, place, rfl, rfl, inner⟩ := exists_colon_of_mem_outsideReferences found
  have outer : Token.StandsIn ⟨Text.byteLength left + 1, rest⟩ (left ++ ':' :: rest) :=
    ⟨left ++ [':'], [], by simp, by simp⟩
  exact outer.shift inner

end Usage

/-- A name stands in a line at every place where the line is said to use it. -/
theorem Line.standsIn_of_mem_usageOffsets {name line : Text} {offset : Nat}
    (found : offset ∈ usageOffsets name line) : Token.StandsIn ⟨offset, name⟩ line := by
  rcases List.mem_append.mp found with reference | outside
  · exact (Usage.refersAt_of_mem_inReferences reference).standsIn
  · exact Usage.standsIn_of_mem_outsideReferences outside

/-! ### Usages of a document -/

/-- A name that is searched for is searched for on every line. -/
theorem usages_eq_scanLines {file : Path} {text name : Text} (nonempty : name ≠ [])
    (searched : Usage.isTooLong name = false) :
    usages file text name = scanLines (Line.usages file name) 0 text.lines := by
  simp [usages, usagesOnLines, nonempty, searched]

theorem usages_of_isTooLong {file : Path} {text name : Text}
    (long : Usage.isTooLong name = true) : usages file text name = [] := by
  simp [usages, usagesOnLines, long]

/-- The usages of a document are those of its lines, for names that are searched for. -/
theorem mem_usages_iff {file : Path} {text name : Text} {location : Location} :
    location ∈ usages file text name ↔
      name ≠ [] ∧ Usage.isTooLong name = false ∧ ∃ number line offset,
        text.lines[number]? = some line ∧ offset ∈ Line.usageOffsets name line ∧
        location = ⟨file, .onLine number offset (offset + name.byteLength)⟩ := by
  constructor
  · intro listed
    have nonempty : name ≠ [] := by
      rintro rfl
      cases listed
    have searched : Usage.isTooLong name = false := by
      rw [Bool.eq_false_iff]
      intro long
      rw [usages_of_isTooLong long] at listed
      cases listed
    rw [usages_eq_scanLines nonempty searched, mem_scanLines] at listed
    obtain ⟨number, line, found, member⟩ := listed
    obtain ⟨offset, used, rfl⟩ := List.mem_map.mp member
    exact ⟨nonempty, searched, number, line, offset, found, used, rfl⟩
  · rintro ⟨nonempty, searched, number, line, offset, found, used, rfl⟩
    rw [usages_eq_scanLines nonempty searched, mem_scanLines]
    exact ⟨number, line, found, List.mem_map.mpr ⟨offset, used, rfl⟩⟩

/-- In a reportable document a usage comes from the line and the column that it names. -/
theorem mem_usageOffsets_of_mem_usages {file : Path} {text name line : Text}
    {number offset : Nat} (reportable : text.Reportable)
    (found : text.lines[number]? = some line) (inside : offset ≤ Text.byteLength line)
    (used : ⟨file, .onLine number offset (offset + name.byteLength)⟩ ∈ usages file text name) :
    offset ∈ Line.usageOffsets name line := by
  obtain ⟨_, _, number', line', offset', found', used', same⟩ := mem_usages_iff.mp used
  have inside' : offset' ≤ Text.byteLength line' := by
    have stop := (Line.standsIn_of_mem_usageOffsets used').stop_le
    rw [Token.stop] at stop
    exact Nat.le_trans (Nat.le_add_right _ _) stop
  simp only [Location.mk.injEq, true_and, TextRange.onLine, TextRange.mk.injEq,
    Position.mk.injEq] at same
  obtain ⟨⟨lineSame, columnSame⟩, _⟩ := same
  rw [reportable.clamp_line found', reportable.clamp_line found] at lineSame
  rw [reportable.clamp_column found' inside', reportable.clamp_column found inside] at columnSame
  subst lineSame columnSame
  rw [found] at found'
  injection found' with lineEq
  rw [lineEq]
  exact used'

end MakefileNav
