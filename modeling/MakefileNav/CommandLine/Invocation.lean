/-
Module: MakefileNav.CommandLine.Invocation
Purpose: The command that a command line asks for.
Main exports:
  Subcommand, Invocation, Invocation.parse
-/
import MakefileNav.Command
import MakefileNav.CommandLine.Integer
import MakefileNav.CommandLine.Refusal

namespace MakefileNav

/-!
A command line is read from left to right: options, the name of a command, then
options and arguments of that command.  The value of an option in its own argument
and the arguments of a command are only put aside when they are met.  They are
settled, that is, judged, when the next known option or argument comes or the line
ends; so an unknown option is refused before a bad value in front of it.  What
belongs to the command is judged before the options in front of its name.
-/

/-! ### Commands and their arguments -/

/-- The names of commands. -/
inductive Subcommand where
  | check
  | complete
  | definition
  | hover
  | references
  | resolve
  | symbols
  | watch
deriving Repr, DecidableEq

/-- An argument that a command takes. -/
inductive Slot where
  | file
  | files
  | line
  | column
deriving Repr, DecidableEq

/-- An argument that has been judged. -/
inductive Argument where
  | path (path : Path)
  | number (value : Nat)
deriving Repr, DecidableEq

namespace Slot

/-- The slot as it is named in messages. -/
def label : Slot → Text
  | .file => "<FILE>"
  | .files => "[FILES]..."
  | .line => "<LINE>"
  | .column => "<COLUMN>"

/-- Whether any number of arguments goes into the slot. -/
def repeats : Slot → Bool
  | .files => true
  | _ => false

/-- Judge a path, which must not be empty. -/
def judgePath (slot : Slot) (text : Text) : Except Refusal Argument :=
  if text.isEmpty then .error (.valueRequired slot.label) else .ok (.path ⟨text⟩)

/-- Judge a line or column. -/
def judgeNumber (slot : Slot) (text : Text) : Except Refusal Argument :=
  match Integer.parse text with
  | .error fault => .error (.invalidNumber text slot.label fault.message)
  | .ok value =>
      if 0 ≤ value ∧ value ≤ Position.limit then .ok (.number value.toNat)
      else
        .error (.invalidNumber text slot.label
          (Text.concat [Integer.toText value, " is not in 0..=", Text.ofNat Position.limit]))

/-- Judge an argument. -/
def judge (slot : Slot) : Text → Except Refusal Argument :=
  match slot with
  | .file => slot.judgePath
  | .files => slot.judgePath
  | .line => slot.judgeNumber
  | .column => slot.judgeNumber

end Slot

namespace Subcommand

/-- All commands with their names. -/
def table : List (Text × Subcommand) :=
  [("check", .check), ("complete", .complete), ("definition", .definition),
   ("hover", .hover), ("references", .references), ("resolve", .resolve),
   ("symbols", .symbols), ("watch", .watch)]

/-- The command with a given name. -/
def ofName? (name : Text) : Option Subcommand :=
  table.lookup name

/-- What a command takes, in order. -/
def slots : Subcommand → List Slot
  | .check => [.files]
  | .symbols => [.file]
  | .watch => []
  | _ => [.file, .line, .column]

/-- Whether a command can be asked to list a declaration too. -/
def takesDeclaration : Subcommand → Bool
  | .references => true
  | _ => false

/-- The command with its arguments, unless some are missing. -/
def toCommand? (subcommand : Subcommand) (arguments : List Argument)
    (withDeclaration : Bool) : Option Command :=
  match subcommand, arguments with
  | .check, arguments =>
      some (.check (arguments.filterMap fun
        | .path path => some path
        | .number _ => none))
  | .symbols, [.path file] => some (.symbols file)
  | .watch, [] => some .watch
  | .complete, [.path file, .number line, .number column] =>
      some (.complete ⟨file, line, column⟩)
  | .definition, [.path file, .number line, .number column] =>
      some (.definition ⟨file, line, column⟩)
  | .hover, [.path file, .number line, .number column] => some (.hover ⟨file, line, column⟩)
  | .references, [.path file, .number line, .number column] =>
      some (.references ⟨file, line, column⟩ withDeclaration)
  | .resolve, [.path file, .number line, .number column] =>
      some (.resolve ⟨file, line, column⟩)
  | _, _ => none

end Subcommand

/-! ### Shapes of arguments -/

/-- What an argument looks like. -/
inductive Shape where
  /-- Two hyphens, after which nothing is an option. -/
  | endOfOptions
  /-- An option with a long name, perhaps with a value after an equals sign. -/
  | long (name : Text) (value : Option Text)
  /-- Options with short names. -/
  | short (letters : Text)
  /-- Anything else. -/
  | plain (text : Text)
deriving Repr, DecidableEq

/-- What an argument looks like where options are allowed.  A single hyphen is not
an option. -/
def Shape.of : Text → Shape
  | ['-', '-'] => .endOfOptions
  | '-' :: '-' :: rest =>
      match Text.cut? '=' rest with
      | some (name, value) => .long name (some value)
      | none => .long rest none
  | '-' :: c :: rest => .short (c :: rest)
  | text => .plain text

/-! ### Options -/

/-- What has been put aside. -/
inductive Pending where
  /-- The format, with its value once that has been met. -/
  | format (value : Option Text)
  /-- Arguments for a slot. -/
  | slot (slot : Slot) (values : List Text)
deriving Repr, DecidableEq

/-- What has been read, either before the name of a command or after it. -/
structure Options where
  format : Option Format := none
  verbosity : Nat := 0
  withDeclaration : Bool := false
  arguments : List Argument := []
  pending : Option Pending := none
deriving Repr, DecidableEq

namespace Options

/-- The format as it is named in messages. -/
def formatLabel : Text := "--format <FORMAT>"

/-- The option for declarations as it is named in messages. -/
def declarationLabel : Text := "--include-declaration"

/-- Set the format, which can be done once. -/
def setFormat (options : Options) (value : Text) : Except Refusal Options :=
  if options.format.isSome then .error (.repeated formatLabel)
  else if value = ("json" : Text) then .ok { options with format := some .json }
  else if value = ("text" : Text) then .ok { options with format := some .text }
  else if value.isEmpty then .error (.valueRequired formatLabel)
  else .error (.invalidValue value formatLabel)

/-- Judge what has been put aside. -/
def settle (options : Options) : Except Refusal Options :=
  let settled := { options with pending := none }
  match options.pending with
  | none => .ok settled
  | some (.format none) => .error (.valueRequired formatLabel)
  | some (.format (some value)) => settled.setFormat value
  | some (.slot slot values) => do
      let arguments ← values.mapM slot.judge
      return { settled with arguments := options.arguments ++ arguments }

/-- Whether the next plain argument is the value of the format. -/
def awaitsFormat (options : Options) : Bool :=
  options.pending == some (.format none)

/-- Count one more request for messages. -/
def addVerbosity (options : Options) : Except Refusal Options := do
  let options ← options.settle
  return { options with verbosity := options.verbosity + 1 }

/-- Ask for declarations, which can be done once. -/
def addDeclaration (options : Options) : Except Refusal Options := do
  let options ← options.settle
  if options.withDeclaration then .error (.repeated declarationLabel)
  else return { options with withDeclaration := true }

/-- Take in an option with a long name. -/
def addLong (takesDeclaration : Bool) (options : Options) (name : Text)
    (value : Option Text) : Except Refusal Options :=
  if name = ("format" : Text) then do
    let options ← options.settle
    match value with
    | none => return { options with pending := some (.format none) }
    | some value => options.setFormat value
  else if name = ("verbose" : Text) then
    match value with
    | none => options.addVerbosity
    | some value => .error (.unexpectedValue value "--verbose...")
  else if name = ("include-declaration" : Text) ∧ takesDeclaration then
    match value with
    | none => options.addDeclaration
    | some value => .error (.unexpectedValue value declarationLabel)
  else if name = ("help" : Text) then
    match value with
    | none => do
        let _ ← options.settle
        .error (.help true)
    | some value => .error (.unexpectedValue value "--help")
  else .error (.unexpectedArgument ('-' :: '-' :: name))

/-- Take in options with short names. -/
def addShort (options : Options) (letters : Text) : Except Refusal Options :=
  letters.foldlM
    (fun options letter =>
      if letter = 'v' then options.addVerbosity
      else if letter = 'h' then do
        let _ ← options.settle
        .error (.help true)
      else .error (.unexpectedArgument ['-', letter]))
    options

/-- Put an argument aside for a slot.  Arguments for a slot that repeats are judged
together. -/
def addArgument (options : Options) (slot : Slot) (text : Text) : Except Refusal Options :=
  match options.pending with
  | some (.slot waiting values) =>
      if waiting = slot ∧ slot.repeats then
        .ok { options with pending := some (.slot slot (values ++ [text])) }
      else do
        let options ← options.settle
        return { options with pending := some (.slot slot [text]) }
  | _ => do
      let options ← options.settle
      return { options with pending := some (.slot slot [text]) }

end Options

/-! ### Reading -/

/-- Name of the command that explains the others. -/
def helpName : Text := "help"

/-- Answer to a request for an explanation of a command.  No command has commands of
its own. -/
def helpOn : List Text → Refusal
  | [] => .help true
  | name :: further =>
      if name = helpName ∨ (Subcommand.ofName? name).isSome then
        match further with
        | [] => .help true
        | unknown :: _ => .unknownCommand unknown
      else .unknownCommand name

/-- Read up to the name of a command.  The answer has that command and the arguments
after its name, if there is one.  `plainOnly` tells that no options are left. -/
def readOptions (options : Options) (plainOnly : Bool) :
    List Text → Except Refusal (Options × Option (Subcommand × List Text))
  | [] => .ok (options, none)
  | argument :: rest =>
      match if plainOnly then .plain argument else Shape.of argument with
      | .endOfOptions => readOptions options true rest
      | .long name value => do
          readOptions (← options.addLong false name value) plainOnly rest
      | .short letters => do readOptions (← options.addShort letters) plainOnly rest
      | .plain text =>
          if options.awaitsFormat && !plainOnly then
            readOptions { options with pending := some (.format (some text)) } plainOnly rest
          else
            match Subcommand.ofName? text with
            | none =>
                if text ≠ helpName then .error (.unknownCommand text)
                else if plainOnly then .error (.unexpectedArgument text)
                else .error (helpOn rest)
            | some subcommand =>
                if plainOnly then .error (.unexpectedArgument text)
                else .ok (options, some (subcommand, rest))

/-- Read the options and arguments of a command.  `slots` are those that can still
take an argument. -/
def readArguments (takesDeclaration : Bool) (options : Options) (slots : List Slot)
    (plainOnly : Bool) : List Text → Except Refusal Options
  | [] => options.settle
  | argument :: rest =>
      match if plainOnly then .plain argument else Shape.of argument with
      | .endOfOptions => readArguments takesDeclaration options slots true rest
      | .long name value => do
          readArguments takesDeclaration (← options.addLong takesDeclaration name value)
            slots plainOnly rest
      | .short letters => do
          readArguments takesDeclaration (← options.addShort letters) slots plainOnly rest
      | .plain text =>
          if options.awaitsFormat && !plainOnly then
            readArguments takesDeclaration
              { options with pending := some (.format (some text)) } slots plainOnly rest
          else
            match slots with
            | [] => .error (.unexpectedArgument text)
            | slot :: later => do
                readArguments takesDeclaration (← options.addArgument slot text)
                  (if slot.repeats then slots else later) plainOnly rest

/-- A command, and how its results are to be shown. -/
structure Invocation where
  command : Command
  format : Format
  verbosity : Nat
deriving Repr, DecidableEq

namespace Invocation

/-- What a command line asks for.  Options after the name of the command replace
those before it. -/
def parse (arguments : List Text) : Except Refusal Invocation := do
  match ← readOptions {} false arguments with
  | (before, none) =>
      let before ← before.settle
      if before.format.isNone ∧ before.verbosity = 0 then throw (.help false)
      throw .commandRequired
  | (before, some (subcommand, rest)) =>
      let after ← readArguments subcommand.takesDeclaration {} subcommand.slots false rest
      match subcommand.toCommand? after.arguments after.withDeclaration with
      | none => throw .missingArguments
      | some command =>
          let before ← before.settle
          return {
            command
            format := (after.format.or before.format).getD .text
            verbosity := if after.verbosity = 0 then before.verbosity else after.verbosity }

end Invocation

end MakefileNav
