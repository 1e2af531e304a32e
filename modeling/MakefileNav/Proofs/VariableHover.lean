/-
Module: MakefileNav.Proofs.VariableHover
Purpose: What is said about a variable under a cursor, for every assignment operator.
Main exports:
  FirstDeclaring, FirstDeclaring.firstDeclaration?_eq, Hover.ofVariable,
  Hover.valueOf_assignment, Hover.describe_variable, hover_on_assigned_variable,
  colon_assignment_described_as_target
-/
import MakefileNav.Hover
import MakefileNav.Proofs.LineGrammar
import MakefileNav.Proofs.LineLocality

namespace MakefileNav

/-!
The text under a cursor is about the first symbol of the name.  This symbol comes from the first
line that declares the name, and for an assignment it is the variable, unless the operator begins
with a colon: such a line is a rule as well, and its target comes first.  The value is cut off at
the first equals sign of the line, which is the one in the operator, because no name and no white
space has one.
-/

/-! ### The first declaration of a name -/

/-- The line is the first one of a document that declares the name. -/
structure FirstDeclaring (text name : Text) (number : Nat) (line : Text) : Prop where
  found : text.lines[number]? = some line
  declares : ∃ kind, (kind, name) ∈ Line.declaredNames line
  first : ∀ earlier ∈ text.lines.take number, ∀ kind, (kind, name) ∉ Line.declaredNames earlier

/-- The first symbol of a name is the first one of the line that declares it first. -/
theorem FirstDeclaring.firstDeclaration?_eq {text name line : Text} {number : Nat}
    (declaring : FirstDeclaring text name number line) {file : Path} {symbol : Symbol}
    (here : firstDeclaration? (Line.declarations file number line) name = some symbol) :
    firstDeclaration? (declarations file text) name = some symbol := by
  have nothing : (scanLines (Line.declarations file) 0 (text.lines.take number)).find?
      (·.name = name) = none := by
    rw [List.find?_eq_none]
    intro other declared same
    obtain ⟨_, earlier, found', onLine⟩ := mem_scanLines.mp declared
    obtain ⟨⟨kind, name'⟩, named, rfl⟩ := List.mem_map.mp onLine
    rw [decide_eq_true_eq] at same
    exact declaring.first earlier (List.mem_of_getElem? found') kind (same ▸ named)
  -- The search passes the earlier lines by and finds in the declaring line what it has first.
  unfold firstDeclaration? at here ⊢
  rw [declarations, scanLines_split declaring.found, List.find?_append, List.find?_append,
    nothing, here]
  rfl

namespace Hover

/-! ### The description of a variable -/

/-- The title of a description: the name and its kind in a fenced block. -/
def title (name kind : Text) : Text :=
  ("```makefile\n" : Text) ++ name ++ (" (" : Text) ++ kind ++ (")\n```\n" : Text)

/-- The description of a variable with a value and a number of usages, declared on a line that is
counted from one.  A value that is empty is left out. -/
def ofVariable (name value : Text) (usageCount line : Nat) : Text :=
  title name "Variable" ++
    ((if value = [] then [] else ("\n**Value:** `" : Text) ++ value ++ ("`" : Text)) ++
      ("\n\n**References:** " : Text) ++ Text.ofNat usageCount ++ (" usage(s) found" : Text)) ++
    (("\n\n**Location:** Line " : Text) ++ Text.ofNat line)

/-- The value of an assignment is what follows its operator, without the white space around it. -/
theorem valueOf_assignment {name blank operator : Text} (isName : Line.IsVariableName name)
    (isBlank : Text.Blank blank) (isOperator : operator ∈ Line.assignmentOperators)
    (value : Text) : valueOf (name ++ blank ++ operator ++ value) = value.trim := by
  obtain ⟨mark, unequal, rfl⟩ := Line.exists_mark_of_mem_assignmentOperators isOperator
  have cut : Text.cut? '=' (name ++ blank ++ (mark ++ ['=']) ++ value) =
      some (name ++ blank ++ mark, value) := by
    rw [Text.cut?_eq_some_iff]
    constructor
    · simp
    · rw [List.mem_append, List.mem_append, not_or, not_or]
      exact ⟨⟨Text.not_mem_of_accepted isName.isIdentifierChar rfl,
        Text.not_mem_of_accepted isBlank rfl⟩, unequal⟩
  rw [valueOf, cut]

theorem variableDetails_eq (usageCount : Nat) (line : Text) :
    variableDetails usageCount line =
      (if valueOf line = [] then [] else
          ("\n**Value:** `" : Text) ++ valueOf line ++ ("`" : Text)) ++
        ("\n\n**References:** " : Text) ++ Text.ofNat usageCount ++ (" usage(s) found" : Text) := by
  unfold variableDetails
  cases valueOf line with
  | nil => rfl
  | cons c rest => rfl

/-- A variable is described with the value on the line that its range names. -/
theorem describe_variable (file : Path) (text name : Text) (number stop : Nat) :
    describe file text ⟨.variable, name, ⟨file, .onLine number 0 stop⟩⟩ =
      ofVariable name (valueOf (text.lines[Position.clamp number]?.getD []))
        (usages file text name).length (Position.clamp (number + 1)) := by
  have next : Position.clamp (Position.clamp number + 1) = Position.clamp (number + 1) := by
    unfold Position.clamp
    omega
  unfold ofVariable
  rw [← variableDetails_eq, ← next]
  rfl

/-- Every description begins with its title. -/
theorem title_prefix_describe (file : Path) (text : Text) (symbol : Symbol) :
    title symbol.name symbol.kind.label <+: describe file text symbol := by
  unfold describe
  rw [List.append_assoc]
  exact List.prefix_append _ _

end Hover

/-! ### Hovering over an assigned variable -/

/-- The first symbol of the name on a line that assigns to it. -/
theorem firstDeclaration?_assignment {name blank operator : Text}
    (isName : Line.IsVariableName name) (isBlank : Text.Blank blank)
    (isOperator : operator ∈ Line.assignmentOperators) (value : Text) (file : Path)
    (number : Nat) :
    firstDeclaration? (Line.declarations file number (name ++ blank ++ operator ++ value)) name =
      some ⟨if operator = [':', '='] then .target else .variable, name,
        ⟨file, .onLine number 0 name.byteLength⟩⟩ := by
  rw [Line.declarations, Line.declaredNames_assignment isName isBlank isOperator]
  by_cases colon : operator = [':', '=']
  · simp [firstDeclaration?, colon]
  · simp [firstDeclaration?, colon]

/-- A name that is first declared by an assignment is described as a variable, with the value
that is assigned and the number of its usages, unless the operator begins with a colon.  Then it
is described as a target.  The value is that of the line with the reported number, which is the
line of the assignment as long as its number can be reported. -/
theorem hover_on_assigned_variable (file : Path) (text : Text) (place : Position)
    {name blank operator value : Text} {number : Nat}
    (touched : nameAt? text place = some name)
    (isName : Line.IsVariableName name) (isBlank : Text.Blank blank)
    (isOperator : operator ∈ Line.assignmentOperators)
    (declaring : FirstDeclaring text name number (name ++ blank ++ operator ++ value)) :
    ∃ contents, hover? file text place = some ⟨contents, .onLine number 0 name.byteLength⟩ ∧
      (operator ≠ [':', '='] → ∃ shown,
        contents = Hover.ofVariable name shown (usages file text name).length
          (Position.clamp (number + 1)) ∧
        (number ≤ Position.limit → shown = value.trim)) ∧
      (operator = [':', '='] → Hover.title name "Target" <+: contents) := by
  have found := declaring.firstDeclaration?_eq
    (firstDeclaration?_assignment isName isBlank isOperator value file number)
  refine ⟨_, by rw [hover?, touched]; simp only [found, Option.map_some]; rfl, ?_, ?_⟩
  · intro plain
    rw [if_neg plain, Hover.describe_variable]
    refine ⟨_, rfl, ?_⟩
    intro reportable
    have same : Position.clamp number = number := Nat.min_eq_left reportable
    rw [same, declaring.found, Option.getD_some, Hover.valueOf_assignment isName isBlank isOperator]
  · intro colon
    rw [if_pos colon]
    exact Hover.title_prefix_describe file text
      ⟨.target, name, ⟨file, .onLine number 0 name.byteLength⟩⟩

/-- A conditional assignment under a rule that uses the name twice.  The value keeps its equals
sign and loses the white space around it. -/
theorem hover_on_assigned_variable_conditional :
    hover? ⟨['M']⟩ ("x:$(V)\nV ?= \t é=b \n" : Text) ⟨0, 4⟩ =
      some ⟨Hover.ofVariable ['V'] ("é=b" : Text) 2 2, .onLine 1 0 1⟩ := by
  have isName : Line.IsVariableName ['V'] := by decide
  have declaring : FirstDeclaring ("x:$(V)\nV ?= \t é=b \n" : Text) ['V'] 1
      (['V'] ++ [' '] ++ ['?', '='] ++ (" \t é=b " : Text)) := by
    refine ⟨by decide, ⟨.variable, by decide⟩, ?_⟩
    intro earlier before kind
    rw [show List.take 1 (Text.lines "x:$(V)\nV ?= \t é=b \n") = [("x:$(V)" : Text)] by decide,
      List.mem_singleton] at before
    subst before
    cases kind <;> decide
  obtain ⟨contents, described, plain, -⟩ := hover_on_assigned_variable ⟨['M']⟩ _ ⟨0, 4⟩
    (show nameAt? _ _ = some ['V'] by decide) isName (List.forall_mem_singleton.mpr rfl)
    (by decide) declaring
  obtain ⟨shown, rfl, exact⟩ := plain (by decide)
  have value : shown = ("é=b" : Text) := (exact (by decide)).trans (by decide)
  have counted : (usages ⟨['M']⟩ ("x:$(V)\nV ?= \t é=b \n" : Text) ['V']).length = 2 := by decide
  rw [described, value, counted]
  rfl

/-- An assignment with a colon is a rule as well, and its name is described as a target. -/
theorem colon_assignment_described_as_target :
    Line.assignedName? ("CC := gcc" : Text) = some ("CC" : Text) ∧
      FirstDeclaring ("CC := gcc" : Text) ("CC" : Text) 0 ("CC := gcc" : Text) ∧
      nameAt? ("CC := gcc" : Text) ⟨0, 0⟩ = some ("CC" : Text) ∧
      ∃ contents range, hover? ⟨['M']⟩ ("CC := gcc" : Text) ⟨0, 0⟩ = some ⟨contents, range⟩ ∧
        ¬ Hover.title "CC" "Variable" <+: contents := by
  refine ⟨by decide, ⟨by decide, ⟨.target, by decide⟩, by simp⟩, by decide, _, _, rfl, ?_⟩
  decide

end MakefileNav
