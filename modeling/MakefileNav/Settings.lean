/-
Module: MakefileNav.Settings
Purpose: What a workspace says about itself.
Main exports:
  Settings, Settings.fileName, Settings.parse?, Settings.shouldScan
-/
import MakefileNav.Toml.StringArrays

namespace MakefileNav

/-- Settings of a workspace. -/
structure Settings where
  /-- Names of directories that are not searched. -/
  excludeDirs : List Text := [("node_modules" : Text), (".git" : Text)]
  /-- Starts of paths that are left out. -/
  excludePaths : List Text := []
  /-- Starts of paths that are kept; without any, everything is. -/
  includePaths : List Text := []
  /-- Names of variables that count as set. -/
  predefinedVariables : List Text := []
deriving Repr, DecidableEq, Inhabited

namespace Settings

/-- Name of the file that holds the settings of a workspace. -/
def fileName : Text := ".makeref.toml"

/-- Change the setting with the given key, if there is one. -/
def set? (settings : Settings) (key : Text) (values : List Text) : Option Settings :=
  if key = ("exclude" : Text) then some { settings with excludePaths := values }
  else if key = ("exclude_dirs" : Text) then some { settings with excludeDirs := values }
  else if key = ("include" : Text) then some { settings with includePaths := values }
  else if key = ("predefined_variables" : Text) then
    some { settings with predefinedVariables := values }
  else none

/-- Settings written as a TOML document.  What it does not mention has its default;
a document that is malformed or mentions anything else is refused. -/
def parse? (document : Text) : Option Settings :=
  (Toml.stringArrays? document).bind fun arrays =>
    arrays.foldlM (fun settings (key, values) => settings.set? key values) {}

/-- Whether a file is searched, given its path below the workspace. -/
def shouldScan (settings : Settings) (path : Text) : Bool :=
  (settings.includePaths.isEmpty || settings.includePaths.any (·.isPrefixOf path)) &&
    !settings.excludePaths.any (·.isPrefixOf path)

end Settings

end MakefileNav
