/-
Module: MakefileNav.Proofs.PhonyLines
Purpose: What a `.PHONY` line declares, with and without a list.
Main exports:
  Line.ReadsAsPhonyLine, Line.readsAsRule_phonyTarget_iff,
  Line.LacksPhonyList, Line.phonyTarget_mem_declaredNames_iff, Line.phonySymbol,
  phony_declared_iff_list_lacks, phony_offered_without_list
-/
import MakefileNav.Proofs.CompletionContexts
import MakefileNav.Proofs.LintFindings

namespace MakefileNav

/-!
A `.PHONY` list is looked for in the trimmed line, and it has to have a character at least.
The target of a rule is looked for in the line as it is, and `.PHONY` is a name that a rule can
have.  So a `.PHONY` line is skipped as long as there is a list, and one without a list is
skipped only if it is indented.  At the start of its line it is taken for a rule.
-/

namespace Line

/-! ### Lines with and without a list -/

/-- The line, without the white space around it, is `.PHONY`, white space and a colon, and
`list` is what stands behind the colon.  There may be nothing. -/
def ReadsAsPhonyLine (list trimmed : Text) : Prop :=
  ∃ blank, Text.Blank blank ∧ trimmed = phonyTarget ++ blank ++ ':' :: list

variable {line list list' trimmed : Text}

theorem ReadsAsPhonyLine.unique (read : ReadsAsPhonyLine list trimmed)
    (read' : ReadsAsPhonyLine list' trimmed) : list = list' := by
  -- The colon of the line is its first one.
  have cut {other : Text} (reading : ReadsAsPhonyLine other trimmed) :
      ∃ left, Text.cut? ':' trimmed = some (left, other) := by
    obtain ⟨blank, isBlank, split⟩ := reading
    refine ⟨phonyTarget ++ blank, Text.cut?_eq_some_iff.mpr ⟨split, ?_⟩⟩
    rw [List.mem_append, not_or]
    exact ⟨by decide, Text.not_mem_of_accepted isBlank rfl⟩
  obtain ⟨left, atColon⟩ := cut read
  obtain ⟨left', atColon'⟩ := cut read'
  rw [atColon, Option.some.injEq, Prod.mk.injEq] at atColon'
  exact atColon'.2

/-- A `.PHONY` list is a `.PHONY` line that does not end with its colon. -/
theorem readsAsPhonyList_iff :
    ReadsAsPhonyList trimmed ↔ ∃ list, list ≠ [] ∧ ReadsAsPhonyLine list trimmed := by
  constructor
  · rintro ⟨blank, blank', list, isBlank, _, nonempty, split⟩
    exact ⟨blank' ++ list, by simp [nonempty], blank, isBlank, split⟩
  · rintro ⟨list, nonempty, blank, isBlank, split⟩
    exact ⟨blank, [], list, isBlank, List.forall_mem_nil _, nonempty, split⟩

/-- Something stands behind the colon, or the line is no `.PHONY` list. -/
theorem ReadsAsPhonyLine.readsAsPhonyList_iff (read : ReadsAsPhonyLine list trimmed) :
    ReadsAsPhonyList trimmed ↔ list ≠ [] := by
  rw [Line.readsAsPhonyList_iff]
  constructor
  · rintro ⟨list', nonempty, read'⟩
    rwa [read.unique read']
  · intro nonempty
    exact ⟨list, nonempty, read⟩

/-- A rule for `.PHONY` is a `.PHONY` line that is not indented. -/
theorem readsAsRule_phonyTarget_iff :
    ReadsAsRule phonyTarget line ↔
      line.head? = some '.' ∧ ∃ list, ReadsAsPhonyLine list line.trim := by
  constructor
  · intro read
    obtain ⟨_, blank, list, isBlank, trimmed⟩ := read.trim
    obtain ⟨_, _, _, _, rfl⟩ := read
    exact ⟨rfl, list, blank, isBlank, trimmed⟩
  · rintro ⟨first, list, blank, isBlank, trimmed⟩
    obtain ⟨trailing, _, split⟩ := Text.exists_trim_of_head first (by decide)
    refine ⟨by decide, blank, list ++ trailing, isBlank, ?_⟩
    rw [split, trimmed]
    simp

/-- The line starts with `.PHONY` and its colon has no list behind it. -/
def LacksPhonyList (line : Text) : Prop :=
  line.head? = some '.' ∧ ReadsAsPhonyLine [] line.trim

/-! ### What the lines declare -/

/-- `.PHONY` is declared by the lines that start with it and have no list. -/
theorem phonyTarget_mem_declaredNames_iff :
    (SymbolKind.target, phonyTarget) ∈ declaredNames line ↔ LacksPhonyList line := by
  rw [target_mem_declaredNames, readsAsRule_phonyTarget_iff]
  constructor
  · rintro ⟨⟨first, list, read⟩, noList⟩
    rw [read.readsAsPhonyList_iff, not_not] at noList
    exact ⟨first, noList ▸ read⟩
  · rintro ⟨first, read⟩
    refine ⟨⟨first, [], read⟩, ?_⟩
    rw [read.readsAsPhonyList_iff, not_not]

/-- Whatever a `.PHONY` line declares, it is the target `.PHONY`. -/
theorem ReadsAsPhonyLine.eq_of_mem_declaredNames {kind : SymbolKind} {name : Text}
    (read : ReadsAsPhonyLine list line.trim) (declared : (kind, name) ∈ declaredNames line) :
    kind = .target ∧ name = phonyTarget := by
  obtain ⟨blank, isBlank, trimmed⟩ := read
  cases kind with
  | target =>
      have rule := (target_mem_declaredNames.mp declared).1
      exact ⟨rfl, rule.trim.unique ⟨by decide, blank, list, isBlank, trimmed⟩⟩
  | «variable» =>
      -- The name of a variable does not start with a dot.
      obtain ⟨c, first, identifier⟩ := (variable_mem_declaredNames.mp declared).exists_head
      have solid := isWhitespace_of_isTargetChar (isTargetChar_of_isIdentifierChar identifier)
      have dot := Text.head?_trim_of_solid first solid
      rw [trimmed] at dot
      obtain rfl : '.' = c := by simpa [phonyTarget] using dot
      exact absurd identifier (by decide)

/-- The target `.PHONY` at the start of a line. -/
def phonySymbol (file : Path) (number : Nat) : Symbol where
  kind := .target
  name := phonyTarget
  location := ⟨file, .onLine number 0 phonyTarget.byteLength⟩

/-- A `.PHONY` line declares nothing, unless it starts with `.PHONY` and has no list. -/
theorem ReadsAsPhonyLine.declarations_eq (read : ReadsAsPhonyLine list line.trim) (file : Path)
    (number : Nat) :
    declarations file number line =
      if list = [] ∧ line.head? = some '.' then [phonySymbol file number] else [] := by
  have same : ∀ symbol ∈ declarations file number line, symbol = phonySymbol file number := by
    intro symbol member
    obtain ⟨⟨kind, name⟩, declared, rfl⟩ := List.mem_map.mp member
    obtain ⟨rfl, rfl⟩ := read.eq_of_mem_declaredNames declared
    rfl
  split_ifs with unlisted
  · obtain ⟨rfl, first⟩ := unlisted
    have declared := phonyTarget_mem_declaredNames_iff.mpr ⟨first, read⟩
    have member : phonySymbol file number ∈ declarations file number line :=
      List.mem_map.mpr ⟨_, declared, rfl⟩
    have once := declarations_once file number line .target
    rw [List.filter_eq_self.mpr fun symbol member => by rw [same symbol member]; rfl] at once
    have single := Nat.le_antisymm once (List.length_pos_of_mem member)
    rw [List.eq_replicate_of_mem same, single]
    rfl
  · apply List.eq_nil_iff_forall_not_mem.mpr
    intro symbol member
    obtain ⟨⟨kind, name⟩, declared, -⟩ := List.mem_map.mp member
    obtain ⟨rfl, rfl⟩ := read.eq_of_mem_declaredNames declared
    obtain ⟨first, read'⟩ := phonyTarget_mem_declaredNames_iff.mp declared
    exact unlisted ⟨read.unique read', first⟩

end Line

/-! ### Documents -/

/-- `.PHONY` is a target of the document if some line starts with it and has no list. -/
theorem phonyTarget_mem_namesOf_iff {file : Path} {text : Text} :
    Line.phonyTarget ∈ Lint.namesOf .target (declarations file text) ↔
      ∃ line ∈ text.lines, Line.LacksPhonyList line := by
  simp only [Lint.mem_namesOf_declarations_iff, Line.phonyTarget_mem_declaredNames_iff]

/-- `.PHONY` is not the name of a variable. -/
theorem kind_of_name_eq_phonyTarget {file : Path} {text : Text} {symbol : Symbol}
    (declared : symbol ∈ declarations file text) (named : symbol.name = Line.phonyTarget) :
    symbol.kind = .target := by
  cases kind : symbol.kind with
  | target => rfl
  | «variable» =>
      have member := Lint.mem_namesOf_iff.mpr ⟨symbol, declared, kind, named⟩
      obtain ⟨line, _, onLine⟩ := Lint.mem_namesOf_declarations_iff.mp member
      have isName := (Line.variable_mem_declaredNames.mp onLine).1
      exact absurd (isName.isIdentifierChar '.' (by decide)) (by decide)

/-- A `.PHONY` line declares nothing if it has a list or is indented.  Otherwise it declares the
target `.PHONY`.  So a document declares the name `.PHONY`, and offers it as a dependency, if and
only if one of its lines starts with `.PHONY` and has no list. -/
theorem phony_declared_iff_list_lacks (file : Path) (text : Text) :
    (∀ number line list, text.lines[number]? = some line →
      Line.ReadsAsPhonyLine list line.trim →
        declaredOnLine file text number =
          if list = [] ∧ line.head? = some '.' then [Line.phonySymbol file number] else []) ∧
      ((∃ symbol ∈ declarations file text, symbol.name = Line.phonyTarget) ↔
        ∃ line ∈ text.lines, Line.LacksPhonyList line) ∧
      ∀ place, Completion.contextOf
          ((text.lines[place.line]?.getD []).splitBytes place.character).1 = .dependency →
        ((∃ item ∈ completions file text place, item.label = Line.phonyTarget) ↔
          ∃ line ∈ text.lines, Line.LacksPhonyList line) := by
  refine ⟨?_, ?_, ?_⟩
  · intro number line list found read
    rw [declaredOnLine_of_getElem? found]
    exact read.declarations_eq file number
  · rw [← phonyTarget_mem_namesOf_iff, Lint.mem_namesOf_iff]
    constructor
    · rintro ⟨symbol, declared, named⟩
      exact ⟨symbol, declared, kind_of_name_eq_phonyTarget declared named, named⟩
    · rintro ⟨symbol, declared, _, named⟩
      exact ⟨symbol, declared, named⟩
  · intro place asked
    rw [Completion.completions_of_dependency file asked, ← phonyTarget_mem_namesOf_iff,
      ← Completion.label_targetCompletions, List.mem_map]

/-- A `.PHONY` line with a list, an indented one without a list, and one that declares. -/
theorem phony_declared_iff_list_lacks_lines :
    let file : Path := ⟨['M']⟩
    let listed : Text := Line.phonyTarget ++ [' ', ':', ':', ' ', 'a', ' ']
    let indented : Text := ' ' :: (Line.phonyTarget ++ [':', ' '])
    let unlisted : Text := Line.phonyTarget ++ [' ', ':', ' ']
    let text : Text := listed ++ '\n' :: (indented ++ '\n' :: unlisted)
    let place : Position := ⟨0, 10⟩
    text.lines[0]? = some listed ∧ text.lines[1]? = some indented ∧
      text.lines[2]? = some unlisted ∧
      Line.ReadsAsPhonyLine [':', ' ', 'a'] listed.trim ∧ Line.ReadsAsPhonyLine [] indented.trim ∧
      Line.ReadsAsPhonyLine [] unlisted.trim ∧ declaredOnLine file text 0 = [] ∧
      declaredOnLine file text 1 = [] ∧ declaredOnLine file text 2 = [Line.phonySymbol file 2] ∧
      Completion.contextOf
        ((text.lines[place.line]?.getD []).splitBytes place.character).1 = .dependency ∧
      ∃ item ∈ completions file text place, item.label = Line.phonyTarget := by
  intro file listed indented unlisted text place
  have found : text.lines[0]? = some listed := by decide
  have found' : text.lines[1]? = some indented := by decide
  have found'' : text.lines[2]? = some unlisted := by decide
  have read : Line.ReadsAsPhonyLine [':', ' ', 'a'] listed.trim :=
    ⟨[' '], List.forall_mem_singleton.mpr (by decide), by decide⟩
  have read' : Line.ReadsAsPhonyLine [] indented.trim := ⟨[], List.forall_mem_nil _, by decide⟩
  have read'' : Line.ReadsAsPhonyLine [] unlisted.trim :=
    ⟨[' '], List.forall_mem_singleton.mpr (by decide), by decide⟩
  have asked : Completion.contextOf
      ((text.lines[place.line]?.getD []).splitBytes place.character).1 = .dependency := by decide
  obtain ⟨onLine, _, offered⟩ := phony_declared_iff_list_lacks file text
  refine ⟨found, found', found'', read, read', read'', onLine 0 _ _ found read,
    onLine 1 _ _ found' read', onLine 2 _ _ found'' read'', asked, ?_⟩
  exact (offered place asked).mpr ⟨unlisted, List.mem_of_getElem? found'', rfl, read''⟩

/-- Below an empty `.PHONY` line, `.PHONY` is offered as a dependency. -/
theorem phony_offered_without_list :
    let file : Path := ⟨['M']⟩
    let line : Text := Line.phonyTarget ++ [':']
    let text : Text := line ++ ['\n', 'a', ':', ' ']
    let place : Position := ⟨1, 3⟩
    text.lines[0]? = some line ∧ Line.ReadsAsPhonyLine [] line.trim ∧
      Line.phonySymbol file 0 ∈ declaredOnLine file text 0 ∧
      (∃ symbol ∈ declarations file text, symbol.name = Line.phonyTarget) ∧
      Completion.contextOf
        ((text.lines[place.line]?.getD []).splitBytes place.character).1 = .dependency ∧
      ∃ item ∈ completions file text place, item.label = Line.phonyTarget := by
  intro file line text place
  exact ⟨by decide, ⟨[], List.forall_mem_nil _, by decide⟩, by decide, by decide, by decide,
    by decide⟩

end MakefileNav
