/-
Module: MakefileNav.Lint.Diagnostic
Purpose: Findings, and how they are reported.
Main exports:
  Severity, Finding, Finding.code, Finding.severity, Finding.message, Diagnostic
-/
import MakefileNav.Position
import MakefileNav.Text.Basic

namespace MakefileNav

/-- How serious a finding is. -/
inductive Severity where
  /-- The file will not work as written. -/
  | error
  /-- Probably a mistake. -/
  | warning
  /-- Worth knowing, often harmless. -/
  | information
  /-- Something that could be removed. -/
  | hint
deriving Repr, DecidableEq

/-- The severity as it is written in reports. -/
def Severity.tag : Severity → Text
  | .error => "error"
  | .warning => "warning"
  | .information => "information"
  | .hint => "hint"

/-- What a check has found. -/
inductive Finding where
  /-- A line under a rule is indented with spaces. -/
  | tabRequired
  /-- A reference to a variable that nothing sets. -/
  | undefinedVariable (name : Text)
  /-- A dependency that looks like a target and is none. -/
  | undefinedTarget (name : Text)
  /-- A variable that nothing refers to. -/
  | unusedVariable (name : Text)
deriving Repr, DecidableEq

namespace Finding

/-- Name of the check that makes the finding. -/
def code : Finding → Text
  | .tabRequired => "tab-required"
  | .undefinedVariable _ => "undefined-variable"
  | .undefinedTarget _ => "undefined-target"
  | .unusedVariable _ => "unused-variable"

/-- Severity of the finding. -/
def severity : Finding → Severity
  | .tabRequired => .error
  | .undefinedVariable _ => .warning
  | .undefinedTarget _ => .information
  | .unusedVariable _ => .hint

/-- The finding in words. -/
def message : Finding → Text
  | .tabRequired => "Recipe lines must start with a tab character, not spaces"
  | .undefinedVariable name => ("Undefined variable '" : Text) ++ name ++ ("'" : Text)
  | .undefinedTarget name =>
      ("Target '" : Text) ++ name ++ ("' is not defined in this Makefile" : Text)
  | .unusedVariable name =>
      ("Variable '" : Text) ++ name ++ ("' is defined but never used" : Text)

end Finding

/-- A finding and the range it applies to. -/
structure Diagnostic where
  finding : Finding
  range : TextRange
deriving Repr, DecidableEq

namespace Diagnostic

/-- Severity of the finding. -/
def severity (diagnostic : Diagnostic) : Severity :=
  diagnostic.finding.severity

end Diagnostic

end MakefileNav
