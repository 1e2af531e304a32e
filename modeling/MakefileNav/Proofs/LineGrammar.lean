/-
Module: MakefileNav.Proofs.LineGrammar
Purpose: The recognizers of a line accept exactly the lines of a small grammar, and
  each line is read in one way only.
Main exports:
  Line.ReadsAsRule, Line.ReadsAsAssignment, Line.ReadsAsPhonyList,
  Line.isTargetName_iff, Line.isIdentifier_iff,
  Line.ruleTarget?_eq_some_iff, Line.assignedName?_eq_some_iff,
  Line.phonyList?_eq_some_iff, Line.isSome_phonyList?_trim_iff,
  Line.declaredNames_assignment, declarations_classify_lines
-/
import MakefileNav.Proofs.CharacterClasses
import MakefileNav.Proofs.Slices

namespace MakefileNav

namespace Line

/-!
A recognizer takes the longest name it can and then looks at what follows.  The grammar
below says nothing of longest names: a line reads as a rule if it can be divided into a
name, white space, a colon and anything else.  That the two agree, in both directions,
is because nothing that may follow a name can also belong to it, so that a division of
the line is already the one with the longest name.
-/

/-! ### The grammar -/

/-- A letter from `a` to `z` or from `A` to `Z`. -/
def IsLetter (c : Char) : Prop :=
  ('a' ≤ c ∧ c ≤ 'z') ∨ ('A' ≤ c ∧ c ≤ 'Z')

/-- A digit from `0` to `9`. -/
def IsDigit (c : Char) : Prop :=
  '0' ≤ c ∧ c ≤ '9'

/-- A name that a rule can have on its left side. -/
structure IsTargetName (name : Text) : Prop where
  nonempty : name ≠ []
  characters : ∀ c ∈ name, IsLetter c ∨ IsDigit c ∨ c ∈ ['_', '.', '-', '/', '%']

/-- A name that an assignment can have on its left side. -/
def IsVariableName : Text → Prop
  | [] => False
  | c :: rest =>
      (IsLetter c ∨ c = '_') ∧ ∀ d ∈ rest, IsLetter d ∨ IsDigit d ∨ d = '_'

/-- The operators of an assignment. -/
def assignmentOperators : List Text :=
  [['='], [':', '='], ['+', '='], ['?', '=']]

/-- The line is a rule for `name`: the name, white space, a colon, anything. -/
def ReadsAsRule (name line : Text) : Prop :=
  IsTargetName name ∧
    ∃ blank rest, Text.Blank blank ∧ line = name ++ blank ++ ':' :: rest

/-- The line assigns to `name`: the name, white space, an operator, anything. -/
def ReadsAsAssignment (name line : Text) : Prop :=
  IsVariableName name ∧
    ∃ blank operator rest, Text.Blank blank ∧ operator ∈ assignmentOperators ∧
      line = name ++ blank ++ operator ++ rest

/-- The line, without the white space around it, is a `.PHONY` list: the name of the
special target, a colon with white space on both sides of it, at least one character. -/
def ReadsAsPhonyList (trimmed : Text) : Prop :=
  ∃ blank blank' list, Text.Blank blank ∧ Text.Blank blank' ∧ list ≠ [] ∧
    trimmed = phonyTarget ++ blank ++ ':' :: (blank' ++ list)

/-! ### Names -/

private theorem isAlpha_iff (c : Char) : c.isAlpha = true ↔ IsLetter c := by
  rw [isAlpha_iff_toNat, or_comm]
  rfl

private theorem isDigit_iff (c : Char) : c.isDigit = true ↔ IsDigit c :=
  isDigit_iff_toNat c

theorem isTargetChar_iff (c : Char) :
    isTargetChar c = true ↔ IsLetter c ∨ IsDigit c ∨ c ∈ ['_', '.', '-', '/', '%'] := by
  simp only [isTargetChar, Char.isAlphanum, Bool.or_eq_true, isAlpha_iff, isDigit_iff,
    beq_iff_eq, List.mem_cons, List.not_mem_nil, or_false, or_assoc]

theorem IsTargetName.isTargetChar {name : Text} (isName : IsTargetName name) :
    ∀ c ∈ name, isTargetChar c = true := by
  intro c member
  exact (isTargetChar_iff c).mpr (isName.characters c member)

theorem isIdentifierStart_iff (c : Char) :
    isIdentifierStart c = true ↔ IsLetter c ∨ c = '_' := by
  simp only [isIdentifierStart, Bool.or_eq_true, isAlpha_iff, beq_iff_eq]

theorem isIdentifierChar_iff (c : Char) :
    isIdentifierChar c = true ↔ IsLetter c ∨ IsDigit c ∨ c = '_' := by
  simp only [isIdentifierChar, Char.isAlphanum, Bool.or_eq_true, isAlpha_iff, isDigit_iff,
    beq_iff_eq, or_assoc]

/-- A character of a name can start a name unless it is a digit. -/
theorem isIdentifierStart_iff_not_isDigit {c : Char} (identifier : isIdentifierChar c = true) :
    isIdentifierStart c = true ↔ ¬IsDigit c := by
  rw [isIdentifierStart_iff]
  constructor
  · rintro (letter | rfl) digit
    · rw [← isAlpha_iff, isAlpha_iff_toNat] at letter
      rw [← isDigit_iff, isDigit_iff_toNat] at digit
      omega
    · exact absurd ((isDigit_iff '_').mpr digit) (by decide)
  · intro plain
    rcases (isIdentifierChar_iff c).mp identifier with letter | digit | underscore
    · exact Or.inl letter
    · exact absurd digit plain
    · exact Or.inr underscore

theorem IsVariableName.isIdentifierChar {name : Text} (isName : IsVariableName name) :
    ∀ c ∈ name, isIdentifierChar c = true := by
  cases name with
  | nil => simp
  | cons first rest =>
      intro c member
      rcases List.mem_cons.mp member with rfl | member
      · exact isIdentifierChar_of_isIdentifierStart ((isIdentifierStart_iff c).mpr isName.1)
      · exact (isIdentifierChar_iff c).mpr (isName.2 c member)

theorem IsVariableName.nonempty {name : Text} (isName : IsVariableName name) : name ≠ [] := by
  rintro rfl
  exact isName

theorem IsVariableName.isTargetName {name : Text} (isName : IsVariableName name) :
    IsTargetName name := by
  refine ⟨isName.nonempty, ?_⟩
  intro c member
  rw [← isTargetChar_iff]
  exact isTargetChar_of_isIdentifierChar (isName.isIdentifierChar c member)

/-- Cutting after a name takes the one name that nothing continues. -/
theorem takeIdentifier?_eq_some_iff {text name rest : Text} :
    takeIdentifier? text = some (name, rest) ↔
      IsVariableName name ∧ text = name ++ rest ∧
        ∀ c ∈ rest.head?, isIdentifierChar c = false := by
  constructor
  · intro taken
    cases text with
    | nil => simp [takeIdentifier?] at taken
    | cons c text =>
        rw [takeIdentifier?] at taken
        split at taken
        · rename_i start
          injection taken with pair
          injection pair with nameEq restEq
          subst nameEq restEq
          refine ⟨⟨(isIdentifierStart_iff c).mp start, ?_⟩, ?_, Text.dropWhile_head _ _⟩
          · intro d member
            exact (isIdentifierChar_iff d).mp (List.mem_takeWhile_imp member)
          · rw [List.cons_append, List.takeWhile_append_dropWhile]
        · simp at taken
  · intro division
    rcases division with ⟨isName, rfl, stops⟩
    cases name with
    | nil => exact isName.elim
    | cons c name =>
        have accepted : ∀ d ∈ name, isIdentifierChar d = true := by
          intro d member
          exact (isIdentifierChar_iff d).mpr (isName.2 d member)
        rw [List.cons_append, takeIdentifier?, if_pos ((isIdentifierStart_iff c).mpr isName.1),
          Text.takeWhile_append_of_head accepted stops,
          Text.dropWhile_append_of_head accepted stops]

theorem isTargetName_iff {name : Text} :
    IsTargetName name ↔ name ≠ [] ∧ name.all isTargetChar = true := by
  rw [List.all_eq_true]
  constructor
  · intro isName
    exact ⟨isName.nonempty, isName.isTargetChar⟩
  · rintro ⟨nonempty, accepted⟩
    exact ⟨nonempty, fun c member => (isTargetChar_iff c).mp (accepted c member)⟩

theorem isIdentifier_iff {name : Text} : isIdentifier name = true ↔ IsVariableName name := by
  rw [isIdentifier, beq_iff_eq, takeIdentifier?_eq_some_iff, List.append_nil]
  exact ⟨fun taken => taken.1, fun isName => ⟨isName, rfl, by simp⟩⟩

instance decidableIsTargetName (name : Text) : Decidable (IsTargetName name) :=
  decidable_of_iff _ isTargetName_iff.symm

instance decidableIsVariableName (name : Text) : Decidable (IsVariableName name) :=
  decidable_of_iff _ isIdentifier_iff

/-! ### Rules and assignments -/

/-- What a line that begins with a name and white space is a rule for depends on the
character that follows. -/
theorem ruleTarget?_append {name blank : Text} {c : Char} {rest : Text}
    (isName : IsTargetName name) (isBlank : Text.Blank blank) (ends : isTargetChar c = false)
    (solid : isWhitespace c = false) :
    ruleTarget? (name ++ blank ++ c :: rest) = if c = ':' then some name else none := by
  have accepted : ∀ d ∈ name, isTargetChar d = true := isName.isTargetChar
  have stops : ∀ d ∈ (blank ++ c :: rest).head?, isTargetChar d = false := by
    apply isBlank.head_append
    · intro d
      exact isTargetChar_of_isWhitespace
    · simp [ends]
  have trimmed : Text.trimStart (blank ++ c :: rest) = c :: rest := by
    rw [Text.trimStart_append _ isBlank]
    apply Text.trimStart_of_head
    simp [solid]
  simp only [ruleTarget?, List.append_assoc]
  rw [Text.takeWhile_append_of_head accepted stops, Text.dropWhile_append_of_head accepted stops,
    trimmed]
  simp [isName.nonempty]

theorem ruleTarget?_eq_some_iff {line name : Text} :
    ruleTarget? line = some name ↔ ReadsAsRule name line := by
  constructor
  · intro read
    simp only [ruleTarget?] at read
    split at read
    · rename_i found
      injection read with nameEq
      subst nameEq
      obtain ⟨nonempty, colon⟩ := found
      obtain ⟨blank, isBlank, split, _⟩ := Text.exists_trimStart (line.dropWhile isTargetChar)
      obtain ⟨rest, restEq⟩ := List.head?_eq_some_iff.mp colon
      refine ⟨⟨nonempty, ?_⟩, blank, rest, isBlank, ?_⟩
      · intro c member
        exact (isTargetChar_iff c).mp (List.mem_takeWhile_imp member)
      · rw [List.append_assoc, ← restEq, ← split, List.takeWhile_append_dropWhile]
    · simp at read
  · intro rule
    rcases rule with ⟨isName, blank, rest, isBlank, rfl⟩
    rw [ruleTarget?_append isName isBlank (by decide) (by decide), if_pos rfl]

theorem startsWithAssignment_iff {text : Text} :
    startsWithAssignment text = true ↔
      ∃ operator ∈ assignmentOperators, ∃ rest, text = operator ++ rest := by
  constructor
  · intro starts
    unfold startsWithAssignment at starts
    split at starts
    · exact ⟨['='], by simp [assignmentOperators], _, rfl⟩
    · exact ⟨[':', '='], by simp [assignmentOperators], _, rfl⟩
    · exact ⟨['+', '='], by simp [assignmentOperators], _, rfl⟩
    · exact ⟨['?', '='], by simp [assignmentOperators], _, rfl⟩
    · simp at starts
  · intro begins
    rcases begins with ⟨operator, member, rest, rfl⟩
    simp only [assignmentOperators, List.mem_cons, List.not_mem_nil, or_false] at member
    rcases member with rfl | rfl | rfl | rfl <;> rfl

/-- No operator starts with a character of a name or with white space. -/
theorem head_of_mem_assignmentOperators {operator : Text}
    (member : operator ∈ assignmentOperators) (rest : Text) :
    ∀ c ∈ (operator ++ rest).head?, isTargetChar c = false ∧ isWhitespace c = false := by
  simp only [assignmentOperators, List.mem_cons, List.not_mem_nil, or_false] at member
  intro c first
  rcases member with rfl | rfl | rfl | rfl <;>
    simp only [List.cons_append, List.head?_cons, Option.mem_some_iff] at first <;>
    subst first <;> decide

/-- Every operator ends with its only equals sign. -/
theorem exists_mark_of_mem_assignmentOperators {operator : Text}
    (member : operator ∈ assignmentOperators) : ∃ mark, '=' ∉ mark ∧ operator = mark ++ ['='] := by
  simp only [assignmentOperators, List.mem_cons, List.not_mem_nil, or_false] at member
  rcases member with rfl | rfl | rfl | rfl
  · exact ⟨[], by decide, rfl⟩
  · exact ⟨[':'], by decide, rfl⟩
  · exact ⟨['+'], by decide, rfl⟩
  · exact ⟨['?'], by decide, rfl⟩

private theorem isIdentifierChar_of_not_isTargetChar {c : Char} (other : isTargetChar c = false) :
    isIdentifierChar c = false := by
  rw [Bool.eq_false_iff] at other ⊢
  intro identifier
  exact other (isTargetChar_of_isIdentifierChar identifier)

/-- The assigned name of a line is the name of the assignment that the line reads as. -/
theorem assignedName?_eq_some_iff {line name : Text} :
    assignedName? line = some name ↔ ReadsAsAssignment name line := by
  constructor
  · intro read
    unfold assignedName? at read
    split at read
    · simp at read
    · rename_i name' rest taken
      split at read
      · rename_i starts
        injection read with nameEq
        subst nameEq
        obtain ⟨isName, lineEq, _⟩ := takeIdentifier?_eq_some_iff.mp taken
        obtain ⟨blank, isBlank, split, _⟩ := Text.exists_trimStart rest
        obtain ⟨operator, member, value, valueEq⟩ := startsWithAssignment_iff.mp starts
        refine ⟨isName, blank, operator, value, isBlank, member, ?_⟩
        rw [lineEq, List.append_assoc, List.append_assoc, ← valueEq, ← split]
      · simp at read
  · intro assignment
    rcases assignment with ⟨isName, blank, operator, value, isBlank, member, rfl⟩
    have ends := head_of_mem_assignmentOperators member value
    have taken : takeIdentifier? (name ++ (blank ++ (operator ++ value))) =
        some (name, blank ++ (operator ++ value)) := by
      rw [takeIdentifier?_eq_some_iff]
      refine ⟨isName, rfl, isBlank.head_append ?_ ?_⟩
      · intro c white
        exact isIdentifierChar_of_not_isTargetChar (isTargetChar_of_isWhitespace white)
      · intro c first
        exact isIdentifierChar_of_not_isTargetChar (ends c first).1
    have trimmed : Text.trimStart (blank ++ (operator ++ value)) = operator ++ value := by
      rw [Text.trimStart_append _ isBlank]
      apply Text.trimStart_of_head
      intro c first
      exact (ends c first).2
    have starts : startsWithAssignment (operator ++ value) = true :=
      startsWithAssignment_iff.mpr ⟨operator, member, value, rfl⟩
    rw [List.append_assoc, List.append_assoc, assignedName?, taken]
    simp only
    rw [trimmed, if_pos starts]

theorem ReadsAsRule.unique {line name name' : Text} (read : ReadsAsRule name line)
    (read' : ReadsAsRule name' line) : name = name' := by
  have found := ruleTarget?_eq_some_iff.mpr read
  rw [ruleTarget?_eq_some_iff.mpr read'] at found
  exact (Option.some.inj found).symm

theorem ReadsAsAssignment.unique {line name name' : Text} (read : ReadsAsAssignment name line)
    (read' : ReadsAsAssignment name' line) : name = name' := by
  have found := assignedName?_eq_some_iff.mpr read
  rw [assignedName?_eq_some_iff.mpr read'] at found
  exact (Option.some.inj found).symm

/-! ### `.PHONY` lists -/

/-- The list of a `.PHONY` line is what follows the colon and the white space after it. -/
theorem phonyList?_eq_some_iff {trimmed : Text} {list : Token} :
    phonyList? trimmed = some list ↔
      ∃ blank blank', Text.Blank blank ∧ Text.Blank blank' ∧ list.text ≠ [] ∧
        (∀ c ∈ list.text.head?, isWhitespace c = false) ∧
        trimmed = phonyTarget ++ blank ++ ':' :: (blank' ++ list.text) ∧
        list.offset = Text.byteLength (phonyTarget ++ blank ++ ':' :: blank') := by
  constructor
  · intro read
    unfold phonyList? at read
    split at read
    · simp at read
    · rename_i afterName dropped
      split at read
      · rename_i afterColon trimmedName
        simp only at read
        split at read
        · simp at read
        · rename_i nonempty
          injection read with listEq
          subst listEq
          have trimmedEq := List.isPrefixOf?_eq_some_iff_append_eq.mp dropped
          obtain ⟨blank, isBlank, split, _⟩ := Text.exists_trimStart afterName
          obtain ⟨blank', isBlank', split', solid⟩ := Text.exists_trimStart afterColon
          have whole : trimmed =
              phonyTarget ++ blank ++ ':' :: (blank' ++ Text.trimStart afterColon) := by
            rw [← trimmedEq, ← split', ← trimmedName, List.append_assoc, ← split]
          refine ⟨blank, blank', isBlank, isBlank', by simpa using nonempty, solid, whole, ?_⟩
          simp only
          rw [whole]
          simp only [Text.byteLength_append, Text.byteLength_cons]
          omega
      · simp at read
  · intro division
    rcases division with ⟨blank, blank', isBlank, isBlank', nonempty, solid, rfl, offset⟩
    have dropped : phonyTarget.isPrefixOf?
        (phonyTarget ++ blank ++ ':' :: (blank' ++ list.text)) =
          some (blank ++ ':' :: (blank' ++ list.text)) := by
      rw [List.isPrefixOf?_eq_some_iff_append_eq, List.append_assoc]
    have trimmedName : Text.trimStart (blank ++ ':' :: (blank' ++ list.text)) =
        ':' :: (blank' ++ list.text) := by
      have colon : isWhitespace ':' = false := by decide
      rw [Text.trimStart_append _ isBlank]
      apply Text.trimStart_of_head
      simp [colon]
    have trimmedList : Text.trimStart (blank' ++ list.text) = list.text := by
      rw [Text.trimStart_append _ isBlank']
      exact Text.trimStart_of_head solid
    have filled : list.text.isEmpty = false := by
      simpa using nonempty
    rw [phonyList?, dropped]
    simp only
    rw [trimmedName]
    simp only
    rw [trimmedList, filled]
    simp only [Bool.false_eq_true, if_false, Option.some.injEq]
    obtain ⟨place, text⟩ := list
    simp only [Token.mk.injEq, and_true] at offset ⊢
    rw [offset]
    simp only [Text.byteLength_append, Text.byteLength_cons]
    omega

/-- A text that ends with something else than white space is not blank after its
beginning is trimmed. -/
private theorem trimStart_ne_nil {text : Text} (nonempty : text ≠ [])
    (solid : ∀ c ∈ text.getLast?, isWhitespace c = false) : text.trimStart ≠ [] := by
  intro empty
  obtain ⟨blank, isBlank, split, _⟩ := Text.exists_trimStart text
  rw [empty, List.append_nil] at split
  have last : text.getLast? = some (text.getLast nonempty) := List.getLast?_eq_some_getLast nonempty
  have white := isBlank (text.getLast nonempty) (split ▸ List.getLast_mem nonempty)
  rw [solid _ last] at white
  simp at white

/-- A line is taken for a `.PHONY` list exactly if it reads as one. -/
theorem isSome_phonyList?_trim_iff (line : Text) :
    (phonyList? line.trim).isSome = true ↔ ReadsAsPhonyList line.trim := by
  constructor
  · intro found
    obtain ⟨list, read⟩ := Option.isSome_iff_exists.mp found
    obtain ⟨blank, blank', isBlank, isBlank', nonempty, _, whole, _⟩ :=
      phonyList?_eq_some_iff.mp read
    exact ⟨blank, blank', list.text, isBlank, isBlank', nonempty, whole⟩
  · intro reading
    rcases reading with ⟨blank, blank', list, isBlank, isBlank', nonempty, whole⟩
    have solid : ∀ c ∈ list.getLast?, isWhitespace c = false := by
      intro c last
      apply Text.trim_last line c
      rw [Option.mem_def] at last ⊢
      rw [whole, List.getLast?_append, List.getLast?_cons, List.getLast?_append, last]
      rfl
    obtain ⟨blank'', isBlank'', split, head⟩ := Text.exists_trimStart list
    have isBlank''' : Text.Blank (blank' ++ blank'') := by
      intro c member
      rcases List.mem_append.mp member with member | member
      · exact isBlank' c member
      · exact isBlank'' c member
    rw [Option.isSome_iff_exists]
    refine ⟨⟨_, Text.trimStart list⟩, phonyList?_eq_some_iff.mpr ⟨blank, blank' ++ blank'', isBlank,
      isBlank''', trimStart_ne_nil nonempty solid, head, ?_, rfl⟩⟩
    rw [List.append_assoc blank', ← split]
    exact whole

theorem ReadsAsPhonyList.head?_eq {trimmed : Text} (phony : ReadsAsPhonyList trimmed) :
    trimmed.head? = some '.' := by
  obtain ⟨_, _, _, _, _, _, rfl⟩ := phony
  rfl

/-! ### Readings can be decided -/

theorem isAssignment_iff (line : Text) :
    isAssignment line = true ↔ ∃ name, ReadsAsAssignment name line.trim := by
  unfold isAssignment
  rw [Option.isSome_iff_exists]
  constructor
  · intro assigned
    rcases assigned with ⟨name, read⟩
    exact ⟨name, assignedName?_eq_some_iff.mp read⟩
  · intro reading
    rcases reading with ⟨name, read⟩
    exact ⟨name, assignedName?_eq_some_iff.mpr read⟩

instance (line : Text) : Decidable (∃ name, ReadsAsAssignment name line.trim) :=
  decidable_of_iff _ (isAssignment_iff line)

instance (line : Text) : Decidable (ReadsAsPhonyList line.trim) :=
  decidable_of_iff _ (isSome_phonyList?_trim_iff line)

/-! ### Declared names -/

private theorem head?_trim_of_isTargetChar {line : Text} {c : Char} (first : line.head? = some c)
    (target : isTargetChar c = true) : line.trim.head? = some c :=
  Text.head?_trim_of_solid first (isWhitespace_of_isTargetChar target)

/-- A line that begins with a name is neither blank nor a comment. -/
private theorem isBlankOrComment_of_head {line : Text} {c : Char} (first : line.head? = some c)
    (target : isTargetChar c = true) : isBlankOrComment line.trim = false := by
  have speaks : c ≠ '#' := by
    rintro rfl
    exact absurd target (by decide)
  obtain ⟨rest, trimmed⟩ := List.head?_eq_some_iff.mp (head?_trim_of_isTargetChar first target)
  simp [isBlankOrComment, trimmed, speaks]

theorem ReadsAsRule.exists_head {name line : Text} (read : ReadsAsRule name line) :
    ∃ c, line.head? = some c ∧ isTargetChar c = true := by
  obtain ⟨isName, blank, rest, _, rfl⟩ := read
  obtain ⟨c, others, rfl⟩ := List.exists_cons_of_ne_nil isName.nonempty
  exact ⟨c, rfl, isName.isTargetChar c (by simp)⟩

/-- A rule is still one after trimming. -/
theorem ReadsAsRule.trim {name line : Text} (read : ReadsAsRule name line) :
    ReadsAsRule name line.trim := by
  obtain ⟨c, first, isTarget⟩ := read.exists_head
  obtain ⟨isName, blank, rest, isBlank, rfl⟩ := read
  have flush := isWhitespace_of_isTargetChar isTarget
  obtain ⟨kept, trimmed⟩ := Text.exists_trim_of_solid first flush (by decide)
  exact ⟨isName, blank, kept, isBlank, trimmed⟩

theorem ReadsAsAssignment.exists_head {name line : Text}
    (read : ReadsAsAssignment name line) :
    ∃ c, line.head? = some c ∧ isIdentifierChar c = true := by
  obtain ⟨isName, blank, operator, rest, _, _, rfl⟩ := read
  obtain ⟨c, others, rfl⟩ := List.exists_cons_of_ne_nil isName.nonempty
  exact ⟨c, rfl, isName.isIdentifierChar c (by simp)⟩

theorem ReadsAsAssignment.not_readsAsPhonyList {name line : Text}
    (read : ReadsAsAssignment name line) : ¬ReadsAsPhonyList line.trim := by
  intro phony
  obtain ⟨c, first, identifier⟩ := read.exists_head
  have dot := head?_trim_of_isTargetChar first (isTargetChar_of_isIdentifierChar identifier)
  obtain rfl : '.' = c := Option.some.inj (phony.head?_eq.symm.trans dot)
  exact absurd identifier (by decide)

/-- A `.PHONY` list is no assignment itself, since it starts with a dot. -/
theorem ReadsAsPhonyList.not_readsAsAssignment {trimmed : Text} (phony : ReadsAsPhonyList trimmed) :
    ¬∃ name, ReadsAsAssignment name trimmed := by
  rintro ⟨name, read⟩
  obtain ⟨c, first, identifier⟩ := read.exists_head
  obtain rfl : '.' = c := Option.some.inj (phony.head?_eq.symm.trans first)
  exact absurd identifier (by decide)

/-- A line declares what one of its two readers finds, as long as it is read at all. -/
private theorem mem_declaredNames_iff {kind : SymbolKind} {name line : Text} :
    (kind, name) ∈ declaredNames line ↔
      isBlankOrComment line.trim = false ∧ ¬ReadsAsPhonyList line.trim ∧
        (kind = .target ∧ ReadsAsRule name line ∨
          kind = .variable ∧ ReadsAsAssignment name line) := by
  rw [← isSome_phonyList?_trim_iff, ← ruleTarget?_eq_some_iff, ← assignedName?_eq_some_iff]
  unfold declaredNames
  split
  · rename_i unread
    simp only [List.not_mem_nil, false_iff]
    intro reading
    rcases reading with ⟨speaks, notPhony, _⟩
    simp [speaks, notPhony] at unread
  · rename_i read
    simp only [Bool.or_eq_true, not_or, Bool.not_eq_true] at read
    cases kind <;> simp [read]

/-- A line declares the targets of the rule that it reads as, unless it is a `.PHONY`
list. -/
theorem target_mem_declaredNames {name line : Text} :
    (SymbolKind.target, name) ∈ declaredNames line ↔
      ReadsAsRule name line ∧ ¬ReadsAsPhonyList line.trim := by
  rw [mem_declaredNames_iff]
  constructor
  · intro declared
    rcases declared with ⟨_, notPhony, ⟨_, rule⟩ | ⟨other, _⟩⟩
    · exact ⟨rule, notPhony⟩
    · simp at other
  · intro reading
    rcases reading with ⟨rule, notPhony⟩
    obtain ⟨c, first, target⟩ := rule.exists_head
    exact ⟨isBlankOrComment_of_head first target, notPhony, Or.inl ⟨rfl, rule⟩⟩

/-- A line declares the variable of the assignment that it reads as. -/
theorem variable_mem_declaredNames {name line : Text} :
    (SymbolKind.variable, name) ∈ declaredNames line ↔ ReadsAsAssignment name line := by
  rw [mem_declaredNames_iff]
  constructor
  · intro declared
    rcases declared with ⟨_, _, ⟨other, _⟩ | ⟨_, assignment⟩⟩
    · simp at other
    · exact assignment
  · intro assignment
    obtain ⟨c, first, identifier⟩ := assignment.exists_head
    have speaks := isBlankOrComment_of_head first (isTargetChar_of_isIdentifierChar identifier)
    exact ⟨speaks, assignment.not_readsAsPhonyList, Or.inr ⟨rfl, assignment⟩⟩

theorem isTargetName_of_mem_declaredNames {kind : SymbolKind} {name line : Text}
    (declared : (kind, name) ∈ declaredNames line) : IsTargetName name := by
  cases kind with
  | target =>
      have rule := (target_mem_declaredNames.mp declared).1
      exact rule.1
  | «variable» =>
      have assignment := variable_mem_declaredNames.mp declared
      exact assignment.1.isTargetName

/-! ### Lines that are read twice -/

/-- The line assigns to `name` with the operator that begins with a colon. -/
def ReadsAsColonAssignment (name line : Text) : Prop :=
  IsVariableName name ∧
    ∃ blank rest, Text.Blank blank ∧ line = name ++ blank ++ ':' :: '=' :: rest

/-- Whether an assignment is also a rule depends on its operator alone. -/
theorem ruleTarget?_assignment {name blank operator : Text} (isName : IsVariableName name)
    (isBlank : Text.Blank blank) (member : operator ∈ assignmentOperators) (rest : Text) :
    ruleTarget? (name ++ blank ++ operator ++ rest) =
      if operator = [':', '='] then some name else none := by
  -- The name of the variable is the longest beginning, so the operator has to bring the colon.
  have byFirst {c : Char} {others : Text} (first : operator = c :: others) :
      ruleTarget? (name ++ blank ++ operator ++ rest) = if c = ':' then some name else none := by
    have ends := head_of_mem_assignmentOperators member rest c (by rw [first]; rfl)
    rw [first, List.append_assoc, List.cons_append]
    exact ruleTarget?_append isName.isTargetName isBlank ends.1 ends.2
  simp only [assignmentOperators, List.mem_cons, List.not_mem_nil, or_false] at member
  rcases member with rfl | rfl | rfl | rfl
  · exact byFirst rfl
  · exact byFirst rfl
  · exact byFirst rfl
  · exact byFirst rfl

/-- An assignment is also a rule only because of its operator. -/
theorem ReadsAsAssignment.readsAsColonAssignment {name target line : Text}
    (assignment : ReadsAsAssignment name line) (rule : ReadsAsRule target line) :
    ReadsAsColonAssignment name line := by
  obtain ⟨isName, blank, operator, rest, isBlank, member, rfl⟩ := assignment
  have found := ruleTarget?_eq_some_iff.mpr rule
  rw [ruleTarget?_assignment isName isBlank member] at found
  by_cases colon : operator = [':', '=']
  · exact ⟨isName, blank, rest, isBlank, by simp [colon]⟩
  · rw [if_neg colon] at found
    cases found

/-- What an assignment declares: its variable, and before it a target of the same name if the
operator begins with a colon. -/
theorem declaredNames_assignment {name blank operator : Text} (isName : IsVariableName name)
    (isBlank : Text.Blank blank) (member : operator ∈ assignmentOperators) (rest : Text) :
    declaredNames (name ++ blank ++ operator ++ rest) =
      (if operator = [':', '='] then [(.target, name)] else []) ++ [(.variable, name)] := by
  have read : ReadsAsAssignment name (name ++ blank ++ operator ++ rest) :=
    ⟨isName, blank, operator, rest, isBlank, member, rfl⟩
  have notPhony := read.not_readsAsPhonyList
  rw [← isSome_phonyList?_trim_iff] at notPhony
  obtain ⟨c, first, identifier⟩ := read.exists_head
  have speaks := isBlankOrComment_of_head first (isTargetChar_of_isIdentifierChar identifier)
  rw [declaredNames, if_neg (by rw [speaks, Bool.false_or]; exact notPhony),
    ruleTarget?_assignment isName isBlank member, assignedName?_eq_some_iff.mpr read]
  split
  · rfl
  · rfl

/-- What a line that is read twice declares: the target and then the variable. -/
theorem ReadsAsColonAssignment.declaredNames {name line : Text}
    (read : ReadsAsColonAssignment name line) :
    declaredNames line = [(.target, name), (.variable, name)] := by
  obtain ⟨isName, blank, rest, isBlank, rfl⟩ := read
  have colon : [':', '='] ∈ assignmentOperators := by simp [assignmentOperators]
  have declared := declaredNames_assignment isName isBlank colon rest
  rwa [List.append_assoc] at declared

/-! ### The symbols of a line -/

/-- The symbols of a line are those that its readings call for. -/
structure Classified (line : Text) (symbols : List Symbol) : Prop where
  /-- A rule declares its target, unless the line is a `.PHONY` list. -/
  target : ∀ name, (∃ symbol ∈ symbols, symbol.kind = .target ∧ symbol.name = name) ↔
    ReadsAsRule name line ∧ ¬ReadsAsPhonyList line.trim
  /-- An assignment declares its variable. -/
  assigned : ∀ name, (∃ symbol ∈ symbols, symbol.kind = .variable ∧ symbol.name = name) ↔
    ReadsAsAssignment name line
  /-- The line is a rule for one name at most. -/
  oneTarget : ∀ name name', ReadsAsRule name line → ReadsAsRule name' line → name = name'
  /-- The line assigns to one name at most. -/
  oneAssigned : ∀ name name', ReadsAsAssignment name line → ReadsAsAssignment name' line →
    name = name'
  /-- Each kind is declared once at most. -/
  once : ∀ kind, (symbols.filter (·.kind = kind)).length ≤ 1
  /-- Both kinds are declared exactly if the operator begins with a colon. -/
  both : (∃ symbol ∈ symbols, symbol.kind = .target) ∧
      (∃ symbol ∈ symbols, symbol.kind = .variable) ↔
    ∃ name, ReadsAsColonAssignment name line
  /-- The target then comes directly before the variable, with its name and its place. -/
  paired : ∀ name, ReadsAsColonAssignment name line →
    ∃ place, symbols = [⟨.target, name, place⟩, ⟨.variable, name, place⟩]

private theorem mem_declarations {file : Path} {number : Nat} {line : Text} {kind : SymbolKind}
    {name : Text} :
    (∃ symbol ∈ declarations file number line, symbol.kind = kind ∧ symbol.name = name) ↔
      (kind, name) ∈ declaredNames line := by
  unfold declarations
  constructor
  · intro listed
    rcases listed with ⟨symbol, declared, rfl, rfl⟩
    obtain ⟨⟨kind, name⟩, member, rfl⟩ := List.mem_map.mp declared
    exact member
  · intro member
    exact ⟨_, List.mem_map.mpr ⟨(kind, name), member, rfl⟩, rfl, rfl⟩

private theorem declares_both_iff {file : Path} {number : Nat} {line : Text} :
    (∃ symbol ∈ declarations file number line, symbol.kind = .target) ∧
        (∃ symbol ∈ declarations file number line, symbol.kind = .variable) ↔
      ∃ name, ReadsAsColonAssignment name line := by
  constructor
  · intro kinds
    rcases kinds with ⟨⟨target, targetMember, targetKind⟩, ⟨assigned, assignedMember, assignedKind⟩⟩
    have rule := target_mem_declaredNames.mp
      (mem_declarations.mp ⟨target, targetMember, targetKind, rfl⟩)
    have assignment := variable_mem_declaredNames.mp
      (mem_declarations.mp ⟨assigned, assignedMember, assignedKind, rfl⟩)
    exact ⟨assigned.name, assignment.readsAsColonAssignment rule.1⟩
  · intro reading
    rcases reading with ⟨name, read⟩
    have names := read.declaredNames
    have targetNamed : (SymbolKind.target, name) ∈ declaredNames line := by simp [names]
    have assignedNamed : (SymbolKind.variable, name) ∈ declaredNames line := by simp [names]
    obtain ⟨target, targetMember, targetKind, _⟩ := mem_declarations.mpr targetNamed
    obtain ⟨assigned, assignedMember, assignedKind, _⟩ := mem_declarations.mpr assignedNamed
    exact ⟨⟨target, targetMember, targetKind⟩, ⟨assigned, assignedMember, assignedKind⟩⟩

theorem declarations_once (file : Path) (number : Nat) (line : Text) (kind : SymbolKind) :
    ((declarations file number line).filter (·.kind = kind)).length ≤ 1 := by
  unfold declarations declaredNames
  split
  · simp
  · cases ruleTarget? line <;> cases assignedName? line <;> cases kind <;> simp

/-- Every line is classified by its symbols. -/
theorem classified_declarations (file : Path) (number : Nat) (line : Text) :
    Classified line (declarations file number line) where
  target name := by
    rw [mem_declarations]
    exact target_mem_declaredNames
  assigned name := by
    rw [mem_declarations]
    exact variable_mem_declaredNames
  oneTarget _ _ := ReadsAsRule.unique
  oneAssigned _ _ := ReadsAsAssignment.unique
  once := declarations_once file number line
  both := declares_both_iff
  paired name read := by
    unfold declarations
    rw [read.declaredNames]
    exact ⟨_, rfl⟩

end Line

/-! ### The symbols of a document -/

/-- Every name that a document declares could be the name of a target. -/
theorem isTargetName_of_mem_declarations {file : Path} {text : Text} {symbol : Symbol}
    (declared : symbol ∈ declarations file text) : Line.IsTargetName symbol.name := by
  obtain ⟨number, line, _, member⟩ := mem_scanLines.mp declared
  obtain ⟨⟨kind, name⟩, named, rfl⟩ := List.mem_map.mp member
  exact Line.isTargetName_of_mem_declaredNames named

/-- The symbols that the line with a given number contributes to a document. -/
def declaredOnLine (file : Path) (text : Text) (number : Nat) : List Symbol :=
  match text.lines[number]? with
  | some line => Line.declarations file number line
  | none => []

theorem declaredOnLine_of_getElem? {file : Path} {text line : Text} {number : Nat}
    (found : text.lines[number]? = some line) :
    declaredOnLine file text number = Line.declarations file number line := by
  unfold declaredOnLine
  rw [found]

/-- A scan of all lines goes through their numbers in order. -/
theorem declarations_eq_flatMap_range (file : Path) (text : Text) :
    declarations file text =
      (List.range text.lines.length).flatMap (declaredOnLine file text) := by
  unfold declarations scanLines
  rw [List.flatMap_def, List.flatMap_def]
  congr 1
  apply List.ext_getElem
  · simp
  · intro number inside _
    have found : number < text.lines.length := by simpa using inside
    simp [declaredOnLine, List.getElem?_eq_getElem found]

/-- In a document with few enough lines, a symbol comes from the line that it names. -/
theorem mem_declaredOnLine_iff {file : Path} {text : Text} {number : Nat} {symbol : Symbol}
    (few : text.lines.length ≤ 2 ^ 32) :
    symbol ∈ declaredOnLine file text number ↔
      symbol ∈ declarations file text ∧ symbol.range.start.line = number := by
  have placed : ∀ i line, text.lines[i]? = some line →
      symbol ∈ Line.declarations file i line → symbol.range.start.line = i := by
    intro i line found declared
    obtain ⟨inside, _⟩ := List.getElem?_eq_some_iff.mp found
    obtain ⟨⟨kind, name⟩, _, rfl⟩ := List.mem_map.mp declared
    exact Position.clamp_of_lt (Nat.lt_of_lt_of_le inside few)
  unfold declarations
  rw [mem_scanLines]
  constructor
  · intro declared
    cases found : text.lines[number]? with
    | none => simp [declaredOnLine, found] at declared
    | some line =>
        rw [declaredOnLine_of_getElem? found] at declared
        exact ⟨⟨number, line, found, declared⟩, placed number line found declared⟩
  · intro reported
    rcases reported with ⟨⟨i, line, found, declared⟩, same⟩
    obtain rfl : i = number := by
      rw [← placed i line found declared]
      exact same
    rw [declaredOnLine_of_getElem? found]
    exact declared

/-- The symbols of a document are those of its lines, in line order, and each line has
the symbols that the grammar of lines gives it.  As long as the numbers of the lines can
be reported, the symbols of a line are those that are reported on it. -/
theorem declarations_classify_lines (file : Path) (text : Text) :
    declarations file text =
        (List.range text.lines.length).flatMap (declaredOnLine file text) ∧
      (∀ number line, text.lines[number]? = some line →
        Line.Classified line (declaredOnLine file text number)) ∧
      (text.lines.length ≤ 2 ^ 32 → ∀ number symbol,
        (symbol ∈ declaredOnLine file text number ↔
          symbol ∈ declarations file text ∧ symbol.range.start.line = number)) := by
  refine ⟨declarations_eq_flatMap_range file text, ?_, ?_⟩
  · intro number line found
    rw [declaredOnLine_of_getElem? found]
    exact Line.classified_declarations file number line
  · intro few number symbol
    exact mem_declaredOnLine_iff few

/-- A document whose first line is read twice. -/
theorem declarations_classify_lines_colon :
    let file : Path := ⟨['M']⟩
    let text : Text := ['C', ' ', ':', '=', '\n', '.', 'P', ':', 'é']
    let symbol : Symbol := ⟨.target, ['.', 'P'], ⟨file, ⟨⟨1, 0⟩, ⟨1, 2⟩⟩⟩⟩
    text.lines[0]? = some ['C', ' ', ':', '='] ∧
      Line.Classified ['C', ' ', ':', '='] (declaredOnLine file text 0) ∧
      text.lines.length ≤ 2 ^ 32 ∧
      (symbol ∈ declaredOnLine file text 1 ↔
        symbol ∈ declarations file text ∧ symbol.range.start.line = 1) := by
  intro file text symbol
  have found : text.lines[0]? = some ['C', ' ', ':', '='] := by decide
  have few : text.lines.length ≤ 2 ^ 32 := by decide
  obtain ⟨_, classified, placed⟩ := declarations_classify_lines file text
  exact ⟨found, classified 0 _ found, few, placed few 1 symbol⟩

end MakefileNav
