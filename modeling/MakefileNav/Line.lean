/-
Module: MakefileNav.Line
Purpose: What a single line of a Makefile says.
Main exports:
  Line.isBlankOrComment, Line.ruleTarget?, Line.assignedName?, Line.phonyList?,
  Line.phonyEntries?, Line.afterColon?, Line.dependencyPart?, Line.dependencies,
  Line.variableUses
-/
import MakefileNav.Text.Token

namespace MakefileNav

/-!
A Makefile is read one physical line at a time, without any memory of the lines
before.  The recognizers below are independent of one another: a line such as
`CC := gcc` is both a rule for `CC` and an assignment to it.  Each recognizer
takes the longest name it can, and since no character of a name may also follow
the name, there is never more than one way to read a line.

Some recognizers are meant for a line without the white space around it; their
parameter is then called `trimmed`.
-/

namespace Line

/-! ### Names -/

/-- Characters of a target in a rule.  The percent sign makes it a pattern. -/
def isTargetChar (c : Char) : Bool :=
  c.isAlphanum || c == '_' || c == '.' || c == '-' || c == '/' || c == '%'

/-- Characters that can start the name of a variable. -/
def isIdentifierStart (c : Char) : Bool :=
  c.isAlpha || c == '_'

/-- Characters that can continue the name of a variable. -/
def isIdentifierChar (c : Char) : Bool :=
  c.isAlphanum || c == '_'

/-- Cut a text after the name of a variable, if it starts with one. -/
def takeIdentifier? : Text → Option (Text × Text)
  | [] => none
  | c :: rest =>
      if isIdentifierStart c then
        some (c :: rest.takeWhile isIdentifierChar, rest.dropWhile isIdentifierChar)
      else none

/-- Whether a whole text is the name of a variable. -/
def isIdentifier (name : Text) : Bool :=
  takeIdentifier? name == some (name, [])

/-! ### Kinds of lines -/

/-- Whether a line says nothing: it is blank or a comment. -/
def isBlankOrComment (trimmed : Text) : Bool :=
  trimmed.isEmpty || trimmed.head? == some '#'

/-- Target of a rule: a name at the start of the line, white space, a colon. -/
def ruleTarget? (line : Text) : Option Text :=
  let name := line.takeWhile isTargetChar
  let rest := Text.trimStart (line.dropWhile isTargetChar)
  if name ≠ [] ∧ rest.head? = some ':' then some name else none

/-- Whether a text starts with `=`, `:=`, `+=` or `?=`. -/
def startsWithAssignment : Text → Bool
  | '=' :: _ => true
  | ':' :: '=' :: _ => true
  | '+' :: '=' :: _ => true
  | '?' :: '=' :: _ => true
  | _ => false

/-- Name of the variable a line assigns to: a name at the start of the line, white
space, an assignment operator. -/
def assignedName? (line : Text) : Option Text :=
  match takeIdentifier? line with
  | none => none
  | some (name, rest) =>
      if startsWithAssignment (Text.trimStart rest) then some name else none

/-- Whether a line assigns to a variable, whatever its indentation. -/
def isAssignment (line : Text) : Bool :=
  (assignedName? line.trim).isSome

/-- The special target whose prerequisites are phony. -/
def phonyTarget : Text := ['.', 'P', 'H', 'O', 'N', 'Y']

/-- The list of a `.PHONY` line and its byte offset.  A line without any list is
not such a line. -/
def phonyList? (trimmed : Text) : Option Token :=
  match phonyTarget.isPrefixOf? trimmed with
  | none => none
  | some afterName =>
      match Text.trimStart afterName with
      | ':' :: afterColon =>
          let list := Text.trimStart afterColon
          if list.isEmpty then none
          else some ⟨trimmed.byteLength - list.byteLength, list⟩
      | _ => none

/-- The names on a `.PHONY` line, each at its place in the line. -/
def phonyEntries? (line : Text) : Option (List Token) :=
  (phonyList? line.trim).map fun list =>
    list.text.words.map (Token.shift (line.indent + list.offset))

/-! ### Dependencies -/

/-- What follows the first colon of a line, with its place. -/
def afterColon? (line : Text) : Option Token :=
  (line.cut? ':').map fun (left, right) => ⟨left.byteLength + 1, right⟩

/-- The dependency list of a rule line, with its place: what follows the first
colon and the colons directly after it, up to an inline recipe.  Blank lines,
comments, recipe lines and assignments have none, nor have assignments to a
variable of one target. -/
def dependencyPart? (line : Text) : Option Token :=
  if isBlankOrComment line.trim || line.head? == some '\t' || isAssignment line then none
  else
    match line.cut? ':' with
    | none => none
    | some (left, right) =>
        let colons : Text := right.takeWhile (· == ':')
        let list := (right.dropWhile (· == ':')).takeWhile (· != ';')
        if list.contains '=' then none
        else some ⟨left.byteLength + 1 + colons.byteLength, list⟩

/-- The dependencies of a rule line, each at its place in the line. -/
def dependencies (line : Text) : List Token :=
  match dependencyPart? line with
  | none => []
  | some list => list.text.words.map (Token.shift list.offset)

/-! ### Variable references -/

/-- Name of the variable that a text refers to at its start, as in `$(CC)`. -/
def variableUseAt? : Text → Option Text
  | '$' :: '(' :: rest =>
      match takeIdentifier? rest with
      | some (name, ')' :: _) => some name
      | _ => none
  | _ => none

/-- Worker of `variableUses`; `found` has its last element first. -/
def variableUses.go : Text → Nat → List Token → List Token
  | [], _, found => found.reverse
  | c :: rest, offset, found =>
      let found :=
        match variableUseAt? (c :: rest) with
        | some name => ⟨offset + 2, name⟩ :: found
        | none => found
      variableUses.go rest (offset + c.utf8Size) found

/-- The variables that a line refers to, each at the place of its name. -/
def variableUses (line : Text) : List Token :=
  variableUses.go line 0 []

/-- References already found, and the place where reading starts, do not change how
the rest is read. -/
theorem variableUses_go (line : Text) (offset : Nat) (found : List Token) :
    variableUses.go line offset found =
      found.reverse ++ (variableUses line).map (Token.shift offset) := by
  induction line generalizing offset found with
  | nil => simp [variableUses, variableUses.go]
  | cons c rest ih =>
      simp only [variableUses, variableUses.go]
      rw [ih, ih (0 + c.utf8Size)]
      cases variableUseAt? (c :: rest) <;>
        simp [Token.shift, Function.comp_def, Nat.add_assoc]

@[simp] theorem variableUses_nil : variableUses [] = [] := rfl

/-- A line refers to what stands at its start and to what the rest refers to. -/
theorem variableUses_cons (c : Char) (rest : Text) :
    variableUses (c :: rest) =
      ((variableUseAt? (c :: rest)).map (Token.mk 2)).toList ++
        (variableUses rest).map (Token.shift c.utf8Size) := by
  simp only [variableUses, variableUses.go]
  rw [variableUses_go]
  cases variableUseAt? (c :: rest) <;> simp [variableUses]

end Line

end MakefileNav
