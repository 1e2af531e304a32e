/-
Module: MakefileNav.Proofs.DependencyAgreement
Purpose: Which dependencies of a rule line the scanner of usages finds.
Main exports:
  Usage.Finds, Usage.offset_mem_usageOffsets_iff, dependency_used_iff,
  dependencies_not_used
-/
import MakefileNav.Proofs.UsageSpecification

namespace MakefileNav

/-!
The checks divide the dependency part of a line at white space.  The scanner of usages
does not know these tokens: on a `.PHONY` line it reads its own entries, which go up to
white space and not to a semicolon and start at the first colon and not at the last, and
on all other lines it wants a boundary between words at either end of the name.  Around
a dependency there are only white space, colons and semicolons, so such a boundary is
there exactly if the name itself has a word character at that end.
-/

namespace Usage

/-- The scanner of usages takes notice of a dependency: on a `.PHONY` line it is an entry
of the list, on any other line it begins and ends with a word character. -/
def Finds (line : Text) (dependency : Token) : Prop :=
  if Line.ReadsAsPhonyList line.trim then
    dependency.offset ∈ line.offsetsWhere (entryAt dependency.text)
  else
    dependency.text.head?.any isWordCharacter = true ∧
      dependency.text.getLast?.any isWordCharacter = true

end Usage

namespace Line.DependencySplit

variable {line left colons passed after : Text} {token : Token}

/-- The characters next to a dependency are not word characters. -/
theorem surrounded (split : DependencySplit line token left colons passed after) :
    (colons ++ passed).getLast?.any isWordCharacter = false ∧
      after.head?.any isWordCharacter = false := by
  constructor
  · rw [Option.any_eq_false]
    intro c last
    have whole : c ∈ (left ++ ':' :: (colons ++ passed)).getLast? := by
      rw [Option.mem_def, List.getLast?_append, List.getLast?_cons, last]
      rfl
    rcases split.last_before c whole with white | rfl
    · exact isWordCharacter_of_isWhitespace white
    · decide
  · rw [Option.any_eq_false]
    intro c first
    rcases split.ends c first with white | rfl
    · exact isWordCharacter_of_isWhitespace white
    · decide

/-- No reference begins right before a dependency. -/
theorem not_mem_inReferences (split : DependencySplit line token left colons passed after) :
    token.offset ∉ Usage.inReferences token.text line := by
  have unopened : (left ++ ':' :: (colons ++ passed)).getLast? ≠ some '(' := by
    intro opened
    rcases split.last_before '(' opened with white | colon
    · exact absurd white (by decide)
    · exact absurd colon (by decide)
  have apart := @Usage.not_mem_inReferences _ token.text after unopened
  rw [split.offset_eq, split.line_eq]
  simpa using apart

/-- A dependency is a whole word exactly if its own ends are word characters. -/
theorem wholeWordAt_iff (split : DependencySplit line token left colons passed after) :
    Text.wholeWordAt token.text (colons ++ passed).getLast? (token.text ++ after) = true ↔
      token.text.head?.any isWordCharacter = true ∧
        token.text.getLast?.any isWordCharacter = true := by
  obtain ⟨before, behind⟩ := split.surrounded
  have first : (token.text ++ after).head? = token.text.head? := by
    rw [List.head?_append, List.head?_eq_some_head split.nonempty]
    rfl
  rw [Text.wholeWordAt_iff]
  constructor
  · intro word
    rcases word with ⟨rest, same, begins, ends⟩
    rw [List.append_cancel_left same] at behind
    rw [first] at begins
    simp only [wordBoundary, before, behind, Bool.false_bne, Bool.bne_false] at begins ends
    exact ⟨begins, ends⟩
  · intro wordEnds
    rcases wordEnds with ⟨begins, ends⟩
    refine ⟨after, rfl, ?_, ?_⟩
    · rw [first]
      simp only [wordBoundary, before, begins, Bool.false_bne]
    · simp only [wordBoundary, behind, ends, Bool.bne_false]

/-- No earlier occurrence of a dependency reaches into it.  It would contain the white
space before the dependency, or begin with a colon while the dependency does not. -/
theorem free (split : DependencySplit line token left colons passed after)
    {earlier middle : Text} (before : colons ++ passed = earlier ++ middle)
    (nonempty : middle ≠ []) {rest : Text}
    (occurrence : middle ++ (token.text ++ after) = token.text ++ rest) :
    token.text.length ≤ middle.length := by
  by_contra overlap
  have inside : ∃ others, token.text = middle ++ others := by
    rcases List.append_eq_append_iff.mp occurrence with ⟨others, same, _⟩ | ⟨others, same, _⟩
    · exact ⟨others, same⟩
    · rw [same, List.length_append] at overlap
      omega
  obtain ⟨others, textEq⟩ := inside
  cases white : passed.getLast? with
  | some c =>
      have member : c ∈ middle := by
        have last := congrArg List.getLast? before
        rw [List.getLast?_append, white, List.getLast?_append,
          List.getLast?_eq_some_getLast nonempty] at last
        simp only [Option.some_or, Option.some.injEq] at last
        rw [last]
        exact List.getLast_mem nonempty
      have solid := split.solid c (by rw [textEq]; simp [member])
      rw [split.begins c white] at solid
      simp at solid
  | none =>
      obtain rfl := List.getLast?_eq_none_iff.mp white
      obtain ⟨c, middle, rfl⟩ := List.exists_cons_of_ne_nil nonempty
      apply split.listed c (by rw [textEq]; rfl)
      apply split.colons_eq c
      rw [List.append_nil] at before
      rw [before]
      simp

/-- The search after the colon finds a dependency exactly if it is a whole word. -/
theorem mem_wholeWordOccurrences_iff
    (split : DependencySplit line token left colons passed after) :
    Text.byteLength (colons ++ passed) ∈
        Text.wholeWordOccurrences token.text (colons ++ passed ++ (token.text ++ after)) ↔
      token.text.head?.any isWordCharacter = true ∧
        token.text.getLast?.any isWordCharacter = true := by
  rw [← split.wholeWordAt_iff]
  constructor
  · intro found
    obtain ⟨before, rest, same, bytes, matched⟩ := Text.exists_match_of_mem_scan found
    obtain ⟨rfl, rfl⟩ := Text.append_inj_of_byteLength same.symm bytes
    exact Option.isSome_ite.mp matched
  · intro whole
    apply Text.mem_scan_of_free
    · simp [split.nonempty]
    · exact Option.isSome_ite.mpr whole
    · intro earlier middle width before nonempty matched
      obtain ⟨earlierWord, widthEq⟩ := Option.ite_none_right_eq_some.mp matched
      rw [Option.some.injEq] at widthEq
      obtain ⟨rest, occurrence, _, _⟩ := Text.wholeWordAt_iff.mp earlierWord
      rw [← widthEq]
      exact split.free before nonempty occurrence

end Line.DependencySplit

/-- The scanner of usages reports a dependency at its own place exactly if it takes
notice of it. -/
theorem Usage.offset_mem_usageOffsets_iff {line : Text} {token : Token}
    (dependency : token ∈ Line.dependencies line) :
    token.offset ∈ Line.usageOffsets token.text line ↔ Finds line token := by
  obtain ⟨other, left, colons, passed, after, split⟩ :=
    Line.exists_split_of_mem_dependencies dependency
  have outside : token.offset ∈ Line.usageOffsets token.text line ↔
      token.offset ∈ outsideReferences token.text line := by
    unfold Line.usageOffsets
    rw [List.mem_append]
    exact or_iff_right split.not_mem_inReferences
  rw [outside, Finds]
  by_cases phony : Line.ReadsAsPhonyList line.trim
  · rw [if_pos phony, outsideReferences_of_phony split.nonempty split.solid other phony]
  · have read : Line.afterColon? line =
        some ⟨Text.byteLength left + 1, colons ++ passed ++ (token.text ++ after)⟩ := by
      rw [Line.afterColon?_eq_some_iff]
      refine ⟨left, split.first, ?_, rfl⟩
      rw [split.line_eq]
      simp
    have offset : token.offset = Text.byteLength left + 1 + Text.byteLength (colons ++ passed) := by
      rw [split.offset_eq, Text.byteLength_append_colon]
    rw [if_neg phony, ← split.mem_wholeWordOccurrences_iff, outsideReferences_eq,
      if_neg (by simp [other]), read]
    simp only
    rw [if_neg fun found => phony ((Line.isSome_phonyList?_trim_iff line).mp found), offset,
      List.mem_map]
    constructor
    · intro shifted
      rcases shifted with ⟨place, found, same⟩
      rw [← Nat.add_left_cancel same]
      exact found
    · intro found
      exact ⟨_, found, rfl⟩

/-- The usages of a dependency include the place where the checks see it if the scanner
of usages takes notice of it there, and only then as long as the document is
reportable. -/
theorem dependency_used_iff (file : Path) {text line : Text} {number : Nat} {token : Token}
    (found : text.lines[number]? = some line) (dependency : token ∈ Line.dependencies line)
    (short : Usage.isTooLong token.text = false) :
    (Usage.Finds line token →
        ⟨file, .onLine number token.offset token.stop⟩ ∈ usages file text token.text) ∧
      (text.Reportable →
        (⟨file, .onLine number token.offset token.stop⟩ ∈ usages file text token.text ↔
          Usage.Finds line token)) := by
  obtain ⟨_, left, colons, passed, after, split⟩ := Line.exists_split_of_mem_dependencies dependency
  have place := Usage.offset_mem_usageOffsets_iff dependency
  have reported : Usage.Finds line token →
      ⟨file, .onLine number token.offset token.stop⟩ ∈ usages file text token.text := by
    intro finds
    rw [mem_usages_iff]
    exact ⟨split.nonempty, short, number, line, token.offset, found, place.mpr finds, rfl⟩
  refine ⟨reported, fun reportable => ⟨fun used => place.mp ?_, reported⟩⟩
  have stop := (Line.standsIn_of_mem_dependencies dependency).stop_le
  rw [Token.stop] at stop
  exact mem_usageOffsets_of_mem_usages reportable found
    (Nat.le_trans (Nat.le_add_right _ _) stop) used

/-- A dependency after two colons and before an inline recipe. -/
theorem dependency_used_iff_double_colon :
    let file : Path := ⟨['M']⟩
    let text : Text := ['a', ':', ':', 'b', '.', 'c', ';', 'd']
    let token : Token := ⟨3, ['b', '.', 'c']⟩
    text.lines[0]? = some text ∧ token ∈ Line.dependencies text ∧
      Usage.isTooLong token.text = false ∧ text.Reportable ∧ Usage.Finds text token ∧
      ⟨file, .onLine 0 token.offset token.stop⟩ ∈ usages file text token.text := by
  intro file text token
  have found : text.lines[0]? = some text := by decide
  have dependency : token ∈ Line.dependencies text := by decide
  have short : Usage.isTooLong token.text = false := by decide
  have reportable : text.Reportable := ⟨by decide, by decide⟩
  have used : ⟨file, .onLine 0 token.offset token.stop⟩ ∈ usages file text token.text := by decide
  obtain ⟨reported, decided⟩ := dependency_used_iff file found dependency short
  have finds := (decided reportable).mp used
  exact ⟨found, dependency, short, reportable, finds, reported finds⟩

/-- Dependencies that are no usages of their names: one that begins with a dot, because
there is no boundary between words before the dot, and one after two colons on a `.PHONY`
line, because the entry there includes the second colon. -/
theorem dependencies_not_used :
    let file : Path := ⟨['M']⟩
    let dotted : Text := ['a', ':', ' ', '.', '/', 'b']
    let script : Token := ⟨3, ['.', '/', 'b']⟩
    let phony : Text := ['.', 'P', 'H', 'O', 'N', 'Y', ':', ':', 'a']
    let entry : Token := ⟨8, ['a']⟩
    (dotted.lines[0]? = some dotted ∧ script ∈ Line.dependencies dotted ∧
        Usage.isTooLong script.text = false ∧
        ⟨file, .onLine 0 script.offset script.stop⟩ ∉ usages file dotted script.text) ∧
      (phony.lines[0]? = some phony ∧ entry ∈ Line.dependencies phony ∧
        Usage.isTooLong entry.text = false ∧
        ⟨file, .onLine 0 entry.offset entry.stop⟩ ∉ usages file phony entry.text) := by
  decide

end MakefileNav
