/-
Module: MakefileNav.CommandLine.Refusal
Purpose: Why a command line does not lead to a command.
Main exports:
  Refusal, Refusal.message, Refusal.exitCode
-/
import MakefileNav.Text.ControlSequence

namespace MakefileNav

/-- Why a command line does not lead to a command. -/
inductive Refusal where
  /-- An explanation is shown instead, because it was asked for or because nothing
  was asked for at all. -/
  | help (asked : Bool)
  /-- There are options and no command. -/
  | commandRequired
  /-- The name of a command is expected. -/
  | unknownCommand (name : Text)
  /-- An option is not known, or an argument is one too many. -/
  | unexpectedArgument (argument : Text)
  /-- A command lacks some of its arguments. -/
  | missingArguments
  /-- A parameter has no value, or an empty one. -/
  | valueRequired (parameter : Text)
  /-- A value is none of the possible ones. -/
  | invalidValue (value parameter : Text)
  /-- A value cannot be read as a number. -/
  | invalidNumber (value parameter reason : Text)
  /-- A parameter is given more than once. -/
  | repeated (parameter : Text)
  /-- A value is given to a parameter that takes none. -/
  | unexpectedValue (value parameter : Text)
deriving Repr, DecidableEq

namespace Refusal

/-- What is shown when no command is given. -/
def explanation : Text :=
  Text.unlines
    ["Symbol navigation, references and lint checks for Makefiles",
     "",
     "Usage: makeref [OPTIONS] <COMMAND>"]

/-- The refusal in words.  What the user typed is shown without terminal controls. -/
def message : Refusal → Text
  | .help _ => explanation
  | .commandRequired =>
      "error: 'makeref' requires a subcommand but one was not provided\n"
  | .unknownCommand name => 
      Text.concat ["error: unrecognized subcommand '", name.withoutControls, "'\n"]
  | .unexpectedArgument argument =>
      Text.concat ["error: unexpected argument '", argument.withoutControls, "' found\n"]
  | .missingArguments => "error: the following required arguments were not provided:\n"
  | .valueRequired parameter =>
      Text.concat ["error: a value is required for '", parameter, "' but none was supplied\n"]
  | .invalidValue value parameter =>
      Text.concat ["error: invalid value '", value.withoutControls, "' for '", parameter, "'\n"]
  | .invalidNumber value parameter reason =>
      Text.concat ["error: invalid value '", value.withoutControls, "' for '", parameter, "': ",
        reason, "\n"]
  | .repeated parameter =>
      Text.concat ["error: the argument '", parameter, "' cannot be used multiple times\n"]
  | .unexpectedValue value parameter =>
      Text.concat ["error: unexpected value '", value.withoutControls, "' for '", parameter,
        "' found; no more were expected\n"]

/-- Whether the message belongs on the output rather than on the error channel. -/
def isAnswer : Refusal → Bool
  | .help asked => asked
  | _ => false

/-- Exit code that goes with the refusal. -/
def exitCode (refusal : Refusal) : Nat :=
  if refusal.isAnswer then 0 else 2

end Refusal

end MakefileNav
