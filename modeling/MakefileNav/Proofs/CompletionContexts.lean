/-
Module: MakefileNav.Proofs.CompletionContexts
Purpose: What the text before a cursor asks for, and what is offered in an unfinished reference.
Main exports:
  Completion.endsInReference_iff, Completion.contextOf_eq, Completion.contextOf_partial,
  completions_in_partial_reference, digit_ends_partial_reference
-/
import MakefileNav.Completion
import MakefileNav.Lint.Checks
import MakefileNav.Proofs.Insertions
import MakefileNav.Proofs.LineGrammar

namespace MakefileNav

/-!
The contexts are tried in an order: an unfinished reference, then a dependency, then anything.
What counts as unfinished is smaller than what can be finished.  The name of a variable may have
digits, but behind a digit no reference is seen, and the colon of the line decides.
-/

namespace Completion

/-! ### The context of a text -/

/-- A text ends in a reference if it ends with `$(` and letters or low lines. -/
theorem endsInReference_iff {before : Text} :
    endsInReference before = true ↔
      ∃ opening name, before = opening ++ '$' :: '(' :: name ∧
        ∀ c ∈ name, Line.isIdentifierStart c = true := by
  change ['(', '$'].isPrefixOf (before.reverse.dropWhile Line.isIdentifierStart) = true ↔ _
  rw [List.isPrefixOf_iff_prefix]
  constructor
  · rintro ⟨rest, ends⟩
    refine ⟨rest.reverse, (before.reverse.takeWhile Line.isIdentifierStart).reverse, ?_, ?_⟩
    · calc before
          = (before.reverse.takeWhile Line.isIdentifierStart ++
              before.reverse.dropWhile Line.isIdentifierStart).reverse := by
            rw [List.takeWhile_append_dropWhile, List.reverse_reverse]
        _ = rest.reverse ++ '$' :: '(' ::
              (before.reverse.takeWhile Line.isIdentifierStart).reverse := by
            rw [← ends, List.reverse_append, List.reverse_append]
            simp
    · intro c member
      exact List.mem_takeWhile_imp (List.mem_reverse.mp member)
  · rintro ⟨opening, name, rfl, accepted⟩
    have whole : (opening ++ '$' :: '(' :: name).reverse =
        name.reverse ++ '(' :: '$' :: opening.reverse := by simp
    rw [whole, List.dropWhile_append_of_pos (by simpa using accepted)]
    exact ⟨opening.reverse, rfl⟩

/-- The context by the order in which the forms are tried. -/
theorem contextOf_eq (before : Text) :
    contextOf before =
      if endsInReference before = true then .variableReference
      else if ':' ∈ before.dropLast then .dependency
      else .general := by
  unfold contextOf
  by_cases ends : endsInReference before = true
  · rw [if_pos ends, if_pos ends]
  · rw [if_neg ends, if_neg ends]
    cases cut : before.cut? ':' with
    | none =>
        have flat : ':' ∉ before.dropLast :=
          fun colon => Text.cut?_eq_none_iff.mp cut (List.dropLast_subset _ colon)
        rw [if_neg flat]
    | some parts =>
        obtain ⟨left, right⟩ := parts
        obtain ⟨rfl, flat⟩ := Text.cut?_eq_some_iff.mp cut
        cases right with
        | nil => rw [List.dropLast_concat, if_neg flat]
        | cons c right => rw [List.dropLast_append_cons, if_pos (by simp)]

/-- The context of a text that ends with `$(` and characters of names. -/
theorem contextOf_partial (opening : Text) {name : Text}
    (identifier : ∀ c ∈ name, Line.isIdentifierChar c = true) :
    contextOf (opening ++ '$' :: '(' :: name) =
      if name.all Line.isIdentifierStart then .variableReference
      else if ':' ∈ opening then .dependency
      else .general := by
  have plain : '(' ∉ name := Text.not_mem_of_accepted identifier rfl
  have reference : endsInReference (opening ++ '$' :: '(' :: name) = true ↔
      name.all Line.isIdentifierStart = true := by
    rw [endsInReference_iff, List.all_eq_true]
    constructor
    · rintro ⟨opening', name', split, accepted⟩
      -- Neither name has a parenthesis, so both begin behind the last one of the text.
      have turned : name.reverse ++ '(' :: '$' :: opening.reverse =
          name'.reverse ++ '(' :: '$' :: opening'.reverse := by
        simpa using congrArg List.reverse split
      have plain' : '(' ∉ name' := Text.not_mem_of_accepted accepted rfl
      have same := Text.piece_eq_of_ends turned (by simpa using plain) (by simpa using plain')
      rw [List.reverse_inj.mp same]
      exact accepted
    · intro accepted
      exact ⟨opening, name, rfl, accepted⟩
  have colon : ':' ∈ (opening ++ '$' :: '(' :: name).dropLast ↔ ':' ∈ opening := by
    have flat : ':' ∉ '$' :: '(' :: name := by
      simpa using Text.not_mem_of_accepted identifier rfl
    rw [List.dropLast_append_of_ne_nil (by simp), List.mem_append]
    exact or_iff_left fun member => flat (List.dropLast_subset _ member)
  rw [contextOf_eq]
  simp only [reference, colon]

/-- Behind `$(` the name of a variable is asked for. -/
theorem contextOf_reference (opening : Text) :
    contextOf (opening ++ ['$', '(']) = .variableReference := by
  have nothing : ∀ c ∈ ([] : Text), Line.isIdentifierChar c = true := List.forall_mem_nil _
  rw [contextOf_partial opening nothing, if_pos List.all_nil]

/-- A dependency is asked for behind a colon. -/
theorem colon_mem_of_contextOf {before : Text} (asked : contextOf before = .dependency) :
    ':' ∈ before := by
  rw [contextOf_eq] at asked
  split at asked
  · cases asked
  · split at asked
    · rename_i colon
      exact List.dropLast_subset _ colon
    · cases asked

/-! ### What is offered in a context -/

section Offered

variable {text : Text} {place : Position}

theorem completions_of_reference (file : Path)
    (asked : contextOf ((text.lines[place.line]?.getD []).splitBytes place.character).1 =
      .variableReference) :
    completions file text place = variableCompletions (declarations file text) := by
  simp only [completions, asked]

theorem completions_of_dependency (file : Path)
    (asked : contextOf ((text.lines[place.line]?.getD []).splitBytes place.character).1 =
      .dependency) :
    completions file text place = targetCompletions (declarations file text) := by
  simp only [completions, asked]

theorem completions_of_general (file : Path)
    (asked : contextOf ((text.lines[place.line]?.getD []).splitBytes place.character).1 =
      .general) :
    completions file text place = generalCompletions := by
  simp only [completions, asked]

end Offered

theorem label_variableCompletions (symbols : List Symbol) :
    (variableCompletions symbols).map Completion.label =
      Lint.namesOf .variable symbols ++ predefinedVariables.map (fun entry => entry.1.toList) := by
  rw [variableCompletions, List.map_append, List.map_map, List.map_map, Lint.namesOf]
  rfl

theorem label_ofTarget (name : Text) : (ofTarget name).label = name := by
  unfold ofTarget
  split <;> rfl

theorem label_targetCompletions (symbols : List Symbol) :
    (targetCompletions symbols).map Completion.label = Lint.namesOf .target symbols := by
  rw [targetCompletions, List.map_map, Lint.namesOf]
  exact List.map_congr_left fun symbol _ => label_ofTarget symbol.name

theorem kind_of_mem_variableCompletions {symbols : List Symbol} {item : Completion}
    (offered : item ∈ variableCompletions symbols) : item.kind = .variable := by
  rw [variableCompletions, List.mem_append] at offered
  rcases offered with declared | predefined
  · obtain ⟨symbol, _, rfl⟩ := List.mem_map.mp declared
    rfl
  · obtain ⟨entry, _, rfl⟩ := List.mem_map.mp predefined
    rfl

theorem kind_of_mem_targetCompletions {symbols : List Symbol} {item : Completion}
    (offered : item ∈ targetCompletions symbols) : item.kind = .function := by
  obtain ⟨symbol, _, rfl⟩ := List.mem_map.mp offered
  unfold ofTarget
  split <;> rfl

theorem kind_of_mem_generalCompletions {item : Completion}
    (offered : item ∈ generalCompletions) : item.kind = .keyword ∨ item.kind = .function := by
  rw [generalCompletions, List.mem_append] at offered
  rcases offered with special | function
  · obtain ⟨entry, _, rfl⟩ := List.mem_map.mp special
    exact Or.inl rfl
  · obtain ⟨entry, _, rfl⟩ := List.mem_map.mp function
    exact Or.inr rfl

end Completion

/-! ### Unfinished references -/

/-- Behind `$(` and the beginning of a name without digits the variables of the document are
offered in the order of their declarations, then those that make sets, and nothing else.  Behind
a name with a digit no variable is offered: the colon in front of the reference decides between
the targets and what can start a line. -/
theorem completions_in_partial_reference (file : Path) (text : Text) (place : Position)
    {opening name : Text}
    (behind : ((text.lines[place.line]?.getD []).splitBytes place.character).1 =
      opening ++ '$' :: '(' :: name)
    (begun : name = [] ∨ Line.IsVariableName name) :
    ((∀ c ∈ name, ¬Line.IsDigit c) →
      completions file text place = Completion.variableCompletions (declarations file text) ∧
        (completions file text place).map Completion.label =
          Lint.namesOf .variable (declarations file text) ++
            Completion.predefinedVariables.map (fun entry => entry.1.toList) ∧
        ∀ item ∈ completions file text place, item.kind = .variable) ∧
      ((∃ c ∈ name, Line.IsDigit c) →
        (completions file text place =
            if ':' ∈ opening then Completion.targetCompletions (declarations file text)
            else Completion.generalCompletions) ∧
          ∀ item ∈ completions file text place, item.kind ≠ .variable) := by
  have identifier : ∀ c ∈ name, Line.isIdentifierChar c = true := by
    rcases begun with rfl | isName
    · exact List.forall_mem_nil _
    · exact isName.isIdentifierChar
  have asked := Completion.contextOf_partial opening identifier
  rw [← behind] at asked
  constructor
  · intro plain
    have accepted : name.all Line.isIdentifierStart = true := by
      rw [List.all_eq_true]
      intro c member
      exact (Line.isIdentifierStart_iff_not_isDigit (identifier c member)).mpr (plain c member)
    rw [if_pos accepted] at asked
    rw [Completion.completions_of_reference file asked]
    exact ⟨rfl, Completion.label_variableCompletions _,
      fun item => Completion.kind_of_mem_variableCompletions⟩
  · rintro ⟨c, member, digit⟩
    have rejected : ¬name.all Line.isIdentifierStart = true := by
      rw [List.all_eq_true]
      intro accepted
      exact (Line.isIdentifierStart_iff_not_isDigit (identifier c member)).mp
        (accepted c member) digit
    rw [if_neg rejected] at asked
    by_cases colon : ':' ∈ opening
    · rw [if_pos colon] at asked ⊢
      rw [Completion.completions_of_dependency file asked]
      refine ⟨rfl, ?_⟩
      intro item offered
      rw [Completion.kind_of_mem_targetCompletions offered]
      decide
    · rw [if_neg colon] at asked ⊢
      rw [Completion.completions_of_general file asked]
      refine ⟨rfl, ?_⟩
      intro item offered
      rcases Completion.kind_of_mem_generalCompletions offered with keyword | function
      · rw [keyword]
        decide
      · rw [function]
        decide

/-- A reference behind a colon, and one with a digit. -/
theorem completions_in_partial_reference_behind_colon :
    let text : Text := "B1=\nA =x\nb:c $(A_\nd $(B1"
    (completions ⟨['M']⟩ text ⟨2, 8⟩).map Completion.label =
        [("B1" : Text), ("A" : Text)] ++
          Completion.predefinedVariables.map (fun entry => entry.1.toList) ∧
      completions ⟨['M']⟩ text ⟨3, 6⟩ = Completion.generalCompletions := by
  intro text
  have isName : Line.IsVariableName ("A_" : Text) := by decide
  have isName' : Line.IsVariableName ("B1" : Text) := by decide
  have behind : Text.splitBytes 8 (text.lines[2]?.getD []) =
      (("b:c " : Text) ++ '$' :: '(' :: ("A_" : Text), []) := by decide
  have behind' : Text.splitBytes 6 (text.lines[3]?.getD []) =
      (("d " : Text) ++ '$' :: '(' :: ("B1" : Text), []) := by decide
  have letters : ∀ c ∈ ("A_" : Text), Line.isIdentifierStart c = true :=
    List.all_eq_true.mp (by decide)
  have plain : ∀ c ∈ ("A_" : Text), ¬Line.IsDigit c := by
    intro c member
    exact (Line.isIdentifierStart_iff_not_isDigit (isName.isIdentifierChar c member)).mp
      (letters c member)
  constructor
  · obtain ⟨-, labels, -⟩ :=
      (completions_in_partial_reference ⟨['M']⟩ text ⟨2, 8⟩
        (congrArg Prod.fst behind) (.inr isName)).1 plain
    rw [labels]
    decide
  · exact ((completions_in_partial_reference ⟨['M']⟩ text ⟨3, 6⟩
      (congrArg Prod.fst behind') (.inr isName')).2
      ⟨'1', by decide, ⟨by decide, by decide⟩⟩).1

/-- Behind a declared name with a digit the targets are offered. -/
theorem digit_ends_partial_reference :
    let text : Text := "LIB2 = x\na: $(LIB2"
    Text.splitBytes 9 (text.lines[1]?.getD []) =
        (("a: " : Text) ++ '$' :: '(' :: ("LIB2" : Text), []) ∧
      Line.IsVariableName ("LIB2" : Text) ∧
      ("LIB2" : Text) ∈ Lint.namesOf .variable (declarations ⟨['M']⟩ text) ∧
      completions ⟨['M']⟩ text ⟨1, 9⟩ = [Completion.ofTarget ['a']] ∧
      completions ⟨['M']⟩ text ⟨1, 9⟩ ≠
        Completion.variableCompletions (declarations ⟨['M']⟩ text) := by
  intro text
  have targets : completions ⟨['M']⟩ text ⟨1, 9⟩ = [Completion.ofTarget ['a']] := by decide
  refine ⟨by decide, by decide, by decide, targets, ?_⟩
  rw [targets]
  decide

end MakefileNav
