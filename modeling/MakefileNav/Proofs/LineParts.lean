/-
Module: MakefileNav.Proofs.LineParts
Purpose: Where the parts of a line stand that the scanners report.
Main exports:
  Line.standsIn_of_mem_declaredNames, Line.afterColon?_eq_some_iff, Line.phonyEntries?_eq,
  Line.RefersAt, Line.mem_variableUses_iff, Line.standsIn_of_mem_variableUses,
  Line.DependencySplit, Line.DependencySplit.last_before, Line.exists_split_of_mem_dependencies,
  Line.standsIn_of_mem_dependencies
-/
import Mathlib.Data.List.Basic
import MakefileNav.Proofs.LineGrammar
import MakefileNav.Proofs.MaximalRuns

namespace MakefileNav

namespace Line

/-!
Each scanner reads its own part of a line and counts columns in its own way: from the
start of the line, from the colon, or from the white space that trimming removed.  Here
every part is described by a division of the untrimmed line, from which its column can
be read off as the number of bytes in front.
-/

/-! ### Declared names -/

/-- A declared name starts its line. -/
theorem standsIn_of_mem_declaredNames {line name : Text} {kind : SymbolKind}
    (declared : (kind, name) ∈ declaredNames line) :
    name ≠ [] ∧ Token.StandsIn ⟨0, name⟩ line := by
  cases kind with
  | target =>
      obtain ⟨⟨isName, blank, rest, _, split⟩, _⟩ := target_mem_declaredNames.mp declared
      exact ⟨isName.nonempty, [], blank ++ ':' :: rest, by simp [split], rfl⟩
  | «variable» =>
      obtain ⟨isName, blank, operator, rest, _, _, split⟩ :=
        variable_mem_declaredNames.mp declared
      exact ⟨isName.nonempty, [], blank ++ operator ++ rest, by simp [split], rfl⟩

/-! ### After the first colon -/

theorem afterColon?_eq_some_iff {line : Text} {rest : Token} :
    afterColon? line = some rest ↔
      ∃ left, ':' ∉ left ∧ line = left ++ ':' :: rest.text ∧
        rest.offset = Text.byteLength left + 1 := by
  unfold afterColon?
  rw [Option.map_eq_some_iff]
  constructor
  · intro cutHere
    rcases cutHere with ⟨⟨left, right⟩, cut, rfl⟩
    obtain ⟨split, absent⟩ := Text.cut?_eq_some_iff.mp cut
    exact ⟨left, absent, split, rfl⟩
  · intro division
    rcases division with ⟨left, absent, split, offset⟩
    refine ⟨(left, rest.text), Text.cut?_eq_some_iff.mpr ⟨split, absent⟩, ?_⟩
    simp only
    rw [← offset]

theorem afterColon?_eq_none_iff {line : Text} : afterColon? line = none ↔ ':' ∉ line := by
  unfold afterColon?
  rw [Option.map_eq_none_iff]
  exact Text.cut?_eq_none_iff

/-! ### Entries of a `.PHONY` list -/

private theorem colon_not_mem_of_blank {blank : Text} (isBlank : Text.Blank blank) :
    ':' ∉ blank := by
  intro member
  have white := isBlank ':' member
  exact absurd white (by decide)

/-- The entries of a `.PHONY` line are the words after its first colon.  Neither the
indentation of the line nor the white space around the list matters. -/
theorem phonyEntries?_eq (line : Text) :
    phonyEntries? line =
      if (phonyList? line.trim).isSome then
        (afterColon? line).map fun rest => rest.text.words.map (Token.shift rest.offset)
      else none := by
  unfold phonyEntries?
  cases read : phonyList? line.trim with
  | none => rfl
  | some list =>
      obtain ⟨blank, blank', isBlank, isBlank', _, _, whole, offset⟩ :=
        phonyList?_eq_some_iff.mp read
      obtain ⟨trailing, isTrailing, split⟩ := Text.exists_trim line
      have isIndent := Text.blank_takeWhile line
      have absent : ':' ∉ line.takeWhile isWhitespace ++ (phonyTarget ++ blank) := by
        simp only [List.mem_append, not_or]
        exact ⟨colon_not_mem_of_blank isIndent, by decide, colon_not_mem_of_blank isBlank⟩
      have after : afterColon? line = some
          ⟨Text.byteLength (line.takeWhile isWhitespace ++ (phonyTarget ++ blank)) + 1,
            blank' ++ list.text ++ trailing⟩ := by
        rw [afterColon?_eq_some_iff]
        refine ⟨_, absent, split.trans ?_, rfl⟩
        rw [whole]
        simp
      simp only [Option.isSome_some, if_true, Option.map_some, after]
      rw [Text.words_append_blank isTrailing, Text.words_blank_append isBlank', List.map_map]
      congr 2
      funext token
      rw [Function.comp_apply, Token.shift_shift, offset, Text.indent]
      congr 1
      simp only [Text.byteLength_append, Text.byteLength_cons, Text.utf8Size_colon]
      omega

/-! ### References to variables -/

/-- A text refers to a variable exactly if it begins with the name in parentheses. -/
theorem variableUseAt?_eq_some_iff {text name : Text} :
    variableUseAt? text = some name ↔
      IsVariableName name ∧ ∃ rest, text = '$' :: '(' :: (name ++ ')' :: rest) := by
  constructor
  · intro read
    unfold variableUseAt? at read
    split at read
    · split at read
      · rename_i taken
        injection read with same
        subst same
        obtain ⟨isName, split, _⟩ := takeIdentifier?_eq_some_iff.mp taken
        exact ⟨isName, _, by rw [split]⟩
      · simp at read
    · simp at read
  · intro reference
    rcases reference with ⟨isName, rest, rfl⟩
    have taken : takeIdentifier? (name ++ ')' :: rest) = some (name, ')' :: rest) := by
      rw [takeIdentifier?_eq_some_iff]
      refine ⟨isName, rfl, ?_⟩
      have closing : isIdentifierChar ')' = false := by decide
      simp [closing]
    simp only [variableUseAt?, taken]

/-- The line refers to a name, which starts at the given byte offset. -/
def RefersAt (line name : Text) (offset : Nat) : Prop :=
  ∃ before after, line = before ++ '$' :: '(' :: (name ++ ')' :: after) ∧
    offset = Text.byteLength before + 2

/-- In a reference the name stands after the dollar sign and the parenthesis. -/
theorem RefersAt.standsIn {line name : Text} {offset : Nat} (refers : RefersAt line name offset) :
    Token.StandsIn ⟨offset, name⟩ line := by
  obtain ⟨before, after, rfl, rfl⟩ := refers
  refine ⟨before ++ ['$', '('], ')' :: after, by simp, ?_⟩
  simp

/-- The variables that a line refers to, each at the place of its name. -/
theorem mem_variableUses_iff {line : Text} {token : Token} :
    token ∈ variableUses line ↔
      IsVariableName token.text ∧ RefersAt line token.text token.offset := by
  induction line generalizing token with
  | nil => simp [RefersAt]
  | cons c line ih =>
      rw [variableUses_cons, List.mem_append, List.mem_map, Option.mem_toList,
        Option.map_eq_some_iff]
      constructor
      · intro reading
        rcases reading with ⟨name, read, rfl⟩ | ⟨token', found, rfl⟩
        · obtain ⟨isName, rest, split⟩ := variableUseAt?_eq_some_iff.mp read
          exact ⟨isName, [], rest, split, rfl⟩
        · obtain ⟨isName, before, after, rfl, offset⟩ := ih.mp found
          refine ⟨isName, c :: before, after, rfl, ?_⟩
          rw [Token.shift_offset, offset, Text.byteLength_cons]
          omega
      · intro reference
        rcases reference with ⟨isName, before, after, split, offset⟩
        cases before with
        | nil =>
            refine Or.inl ⟨token.text, variableUseAt?_eq_some_iff.mpr ⟨isName, after, split⟩, ?_⟩
            rw [Text.byteLength_nil, Nat.zero_add] at offset
            rw [← offset]
        | cons d before =>
            rw [List.cons_append] at split
            injection split with same rest
            subst same
            refine Or.inr ⟨⟨Text.byteLength before + 2, token.text⟩,
              ih.mpr ⟨isName, before, after, rest, rfl⟩, ?_⟩
            rw [Text.byteLength_cons, Nat.add_assoc] at offset
            rw [Token.shift, ← offset]

theorem standsIn_of_mem_variableUses {line : Text} {token : Token}
    (found : token ∈ variableUses line) : token.StandsIn line :=
  (mem_variableUses_iff.mp found).2.standsIn

/-! ### Dependencies -/

/-- How a line divides at one of its dependencies: the part before the first colon, the
colons directly after it, the dependencies already passed, the token, and the rest. -/
structure DependencySplit (line : Text) (token : Token) (left colons passed after : Text) :
    Prop where
  line_eq : line = left ++ ':' :: (colons ++ passed ++ token.text ++ after)
  offset_eq : token.offset = Text.byteLength (left ++ ':' :: (colons ++ passed))
  first : ':' ∉ left
  colons_eq : ∀ c ∈ colons, c = ':'
  listed : ∀ c ∈ (passed ++ token.text).head?, c ≠ ':'
  nonempty : token.text ≠ []
  solid : ∀ c ∈ token.text, isWhitespace c = false
  begins : ∀ c ∈ passed.getLast?, isWhitespace c = true
  ends : ∀ c ∈ after.head?, isWhitespace c = true ∨ c = ';'

/-- Before a dependency stand the colons of the rule, or white space behind another one. -/
theorem DependencySplit.last_before {line left colons passed after : Text} {token : Token}
    (split : DependencySplit line token left colons passed after) :
    ∀ c ∈ (left ++ ':' :: (colons ++ passed)).getLast?, isWhitespace c = true ∨ c = ':' := by
  intro c last
  rcases List.eq_nil_or_concat passed with rfl | ⟨initial, final, rfl⟩
  · rw [List.append_nil, Option.mem_def] at last
    have member : c ∈ ':' :: colons := by
      rw [List.getLast?_append_of_ne_nil _ (by simp)] at last
      exact List.mem_of_getLast? last
    rcases List.mem_cons.mp member with rfl | member
    · exact Or.inr rfl
    · exact Or.inr (split.colons_eq c member)
  · apply Or.inl
    apply split.begins
    rw [Option.mem_def] at last ⊢
    rw [← List.cons_append, ← List.append_assoc, List.getLast?_append_of_ne_nil _ (by simp)] at last
    exact last

/-- The dependency part of a line, divided from the rest. -/
theorem exists_of_dependencyPart?_eq_some {line : Text} {list : Token}
    (read : dependencyPart? line = some list) :
    isAssignment line = false ∧ ∃ left colons after, ':' ∉ left ∧ (∀ c ∈ colons, c = ':') ∧
      (∀ c ∈ (list.text ++ after).head?, c ≠ ':') ∧ (∀ c ∈ after.head?, c = ';') ∧
      line = left ++ ':' :: (colons ++ list.text ++ after) ∧
      list.offset = Text.byteLength (left ++ ':' :: colons) := by
  unfold dependencyPart? at read
  split at read
  · simp at read
  · rename_i accepted
    split at read
    · simp at read
    · rename_i left right cut
      simp only at read
      split at read
      · simp at read
      · injection read with same
        subst same
        obtain ⟨split, absent⟩ := Text.cut?_eq_some_iff.mp cut
        have assignment : isAssignment line = false := by
          simp only [Bool.or_eq_true, not_or, Bool.not_eq_true] at accepted
          exact accepted.2
        refine ⟨assignment, left, right.takeWhile (· == ':'),
          (right.dropWhile (· == ':')).dropWhile (· != ';'), absent, ?_, ?_, ?_, ?_, ?_⟩
        · intro c member
          simpa using List.mem_takeWhile_imp member
        · intro c first
          rw [List.takeWhile_append_dropWhile] at first
          simpa using Text.dropWhile_head (· == ':') right c first
        · intro c first
          simpa using Text.dropWhile_head (· != ';') _ c first
        · rw [List.append_assoc, List.takeWhile_append_dropWhile, List.takeWhile_append_dropWhile]
          exact split
        · exact (Text.byteLength_append_colon _ _).symm

/-- Every dependency of a line divides it. -/
theorem exists_split_of_mem_dependencies {line : Text} {token : Token}
    (found : token ∈ dependencies line) :
    isAssignment line = false ∧
      ∃ left colons passed after, DependencySplit line token left colons passed after := by
  unfold dependencies at found
  split at found
  · simp at found
  · rename_i list read
    obtain ⟨assignment, left, colons, after, first, colonsEq, listed, ends, split, offset⟩ :=
      exists_of_dependencyPart?_eq_some read
    obtain ⟨word, member, rfl⟩ := List.mem_map.mp found
    obtain ⟨passed, next, textEq, bytes, run⟩ := Text.mem_runs_iff.mp member
    refine ⟨assignment, left, colons, passed, next ++ after, ?_, ?_, first, colonsEq, ?_,
      run.nonempty, ?_, ?_, ?_⟩
    · rw [split, textEq]
      simp
    · rw [Token.shift_offset, offset, ← bytes]
      simp only [Text.byteLength_append, Text.byteLength_cons]
      omega
    · intro c head
      apply listed c
      have leads : List.head? (passed ++ word.text) = some c := head
      rw [Option.mem_def, textEq, List.append_assoc, List.head?_append, leads]
      rfl
    · intro c member'
      simpa using run.accepted c member'
    · intro c last
      simpa using run.begins c last
    · intro c head
      cases next with
      | nil => exact Or.inr (ends c head)
      | cons d next => exact Or.inl (by simpa using run.ends c (by simpa using head))

theorem standsIn_of_mem_dependencies {line : Text} {token : Token}
    (found : token ∈ dependencies line) : token.StandsIn line := by
  obtain ⟨_, left, colons, passed, after, split⟩ := exists_split_of_mem_dependencies found
  refine ⟨left ++ ':' :: (colons ++ passed), after, ?_, split.offset_eq.symm⟩
  rw [split.line_eq]
  simp

end Line

end MakefileNav
