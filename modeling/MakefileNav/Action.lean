/-
Module: MakefileNav.Action
Purpose: Computations that leave a trace on the terminal and can fail.
Main exports:
  Level, Notice, Transcript, Action, Action.log, Action.announce, Action.print,
  Action.runFrom, Action.start
-/
import MakefileNav.Failure

namespace MakefileNav

/-- Importance of a log record. -/
inductive Level where
  | debug
  | info
  | warning
deriving Repr, DecidableEq

namespace Level

/-- The level as it is written in the log. -/
def label : Level → Text
  | .debug => "debug"
  | .info => "info"
  | .warning => "warning"

/-- Whether records of a level are shown at a verbosity: warnings always, the rest
at one step each. -/
def shownAt : Level → Nat → Bool
  | .warning, _ => true
  | .info, verbosity => 1 ≤ verbosity
  | .debug, verbosity => 2 ≤ verbosity

end Level

/-- Something said on the error channel. -/
inductive Notice where
  /-- A log record, which is shown or not by its level. -/
  | record (level : Level) (message : Text)
  /-- A line that is always shown. -/
  | line (text : Text)
deriving Repr, DecidableEq

/-- The line that a notice puts on the error channel at a verbosity, if any. -/
def Notice.shownAt (verbosity : Nat) : Notice → Option Text
  | .record level message =>
      if level.shownAt verbosity then some (Text.concat [level.label, ": ", message])
      else none
  | .line text => some text

/-- What a computation has said so far: notices in the order in which they were
given, and the output proper. -/
structure Transcript where
  notices : List Notice := []
  output : Text := []
deriving Repr, DecidableEq, Inhabited

/-- A computation that adds to a transcript and can fail.  What was said before a
failure stays said. -/
abbrev Action := ExceptT Failure (StateM Transcript)

namespace Action

/-- Say something on the error channel. -/
def say (notice : Notice) : Action Unit :=
  modify fun transcript => { transcript with notices := transcript.notices ++ [notice] }

/-- Add a record to the log. -/
def log (level : Level) (message : List Text) : Action Unit :=
  say (.record level (Text.concat message))

/-- Put a line on the error channel. -/
def announce (line : Text) : Action Unit :=
  say (.line line)

/-- Add to the output. -/
def print (text : Text) : Action Unit :=
  modify fun transcript => { transcript with output := transcript.output ++ text }

/-- Result of a computation that goes on from a transcript. -/
def runFrom {α : Type} (transcript : Transcript) (action : Action α) :
    Except Failure α × Transcript :=
  action.run.run transcript

/-- Result of a computation that starts with an empty transcript. -/
def start {α : Type} (action : Action α) : Except Failure α × Transcript :=
  action.runFrom {}

/-! ### Sequences -/

/-- A failure ends a sequence of steps, and what was said before stays said. -/
theorem runFrom_bind {α β : Type} (transcript : Transcript) (action : Action α)
    (next : α → Action β) :
    runFrom transcript (action >>= next) =
      match runFrom transcript action with
      | (.ok value, said) => runFrom said (next value)
      | (.error failure, said) => (.error failure, said) := by
  simp only [runFrom, ExceptT.run_bind, StateT.run_bind]
  cases h : StateT.run action.run transcript with
  | mk result said => cases result <;> simp_all <;> rfl

end Action

end MakefileNav
