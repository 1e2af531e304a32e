/-
Module: MakefileNav.CommandLine.Session
Purpose: A whole run of the program.
Main exports:
  Session, Session.run
-/
import MakefileNav.CommandLine.Invocation

namespace MakefileNav

/-- What a run of the program leaves behind. -/
structure Session where
  exitCode : ExitCode
  output : Text
  errors : Text
deriving Repr, DecidableEq

namespace Session

/-- The workspace that a command line is about is the working directory. -/
def root : Path := ⟨['.']⟩

/-- What a refused command line leaves behind. -/
def ofRefusal (refusal : Refusal) : Session :=
  if refusal.isAnswer then ⟨refusal.exitCode, refusal.message, []⟩
  else ⟨refusal.exitCode, [], refusal.message⟩

/-- What a command leaves behind: its output, and on the error channel its notices
followed by the reason of a failure. -/
def ofResult (verbosity : Nat) (result : Except Failure ExitCode × Transcript) : Session :=
  let notices := result.2.notices.filterMap (Notice.shownAt verbosity)
  match result.1 with
  | .ok code => ⟨code, result.2.output, Text.unlines notices⟩
  | .error failure =>
      ⟨Command.failureCode, result.2.output, Text.unlines (notices ++ failure.terminalLines)⟩

/-- Carry out an invocation. -/
def invoke (disk : Disk) (invocation : Invocation) : Session :=
  ofResult invocation.verbosity (invocation.command.run disk root invocation.format).start

/-- Run the program on a disk with the given arguments. -/
def run (disk : Disk) (arguments : List Text) : Session :=
  match Invocation.parse arguments with
  | .error refusal => ofRefusal refusal
  | .ok invocation => invoke disk invocation

end Session

end MakefileNav
