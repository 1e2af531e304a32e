/-
Module: MakefileNav.Proofs.ActionResults
Purpose: What a computation comes to, whatever has been said before it.
Main exports:
  Action.Gives, Action.Gives.bind, Action.gives_forM, Command.documentAt, Command.nameIn,
  Command.settingsAt, Command.workspaceAt, Command.readDocument_gives, Command.nameUnder_gives,
  Command.loadSettings_gives, Command.openWorkspace_gives, Command.logDiscovery_gives
-/
import MakefileNav.Command

namespace MakefileNav

/-!
A computation adds to a transcript, and none of the commands looks at what the transcript
already holds.  Its result is therefore a value of its own, and the result of a sequence of
steps is made of their results.
-/

namespace Action

variable {α β : Type}

/-- A computation comes to a result, whatever has been said before. -/
def Gives (action : Action α) (result : Except Failure α) : Prop :=
  ∀ transcript, (action.runFrom transcript).1 = result

theorem Gives.start {action : Action α} {result : Except Failure α}
    (gives : action.Gives result) : action.start.1 = result :=
  gives {}

theorem gives_pure (value : α) : Gives (pure value) (.ok value) :=
  fun _ => rfl

theorem gives_throw (failure : Failure) : Gives (throw failure : Action α) (.error failure) :=
  fun _ => rfl

theorem gives_log (level : Level) (message : List Text) : Gives (log level message) (.ok ()) :=
  fun _ => rfl

theorem gives_print (text : Text) : Gives (print text) (.ok ()) :=
  fun _ => rfl

/-- The result of two steps is the result of the first, handed to the second. -/
theorem Gives.bind {action : Action α} {next : α → Action β} {result : Except Failure α}
    {further : α → Except Failure β} (first : action.Gives result)
    (second : ∀ value, (next value).Gives (further value)) :
    Gives (action >>= next) (result >>= further) := by
  intro transcript
  rw [runFrom_bind, ← first transcript]
  split
  · rename_i value said ran
    rw [ran]
    exact second value said
  · rename_i failure said ran
    rw [ran]
    rfl

/-- A step that succeeds leaves the result to what comes after it. -/
theorem Gives.after {action : Action α} {next : α → Action β} {value : α}
    {result : Except Failure β} (first : action.Gives (.ok value))
    (second : (next value).Gives result) : Gives (action >>= next) result := by
  intro transcript
  have succeeded := first transcript
  rw [runFrom_bind]
  split
  · rename_i value' said ran
    rw [ran, Except.ok.injEq] at succeeded
    subst succeeded
    exact second said
  · rename_i failure said ran
    rw [ran] at succeeded
    cases succeeded

theorem gives_throw_bind (failure : Failure) (next : α → Action β) :
    Gives ((throw failure : Action α) >>= next) (.error failure) :=
  fun _ => rfl

theorem gives_forM {step : α → Action Unit} (succeeds : ∀ value, (step value).Gives (.ok ()))
    (values : List α) : Gives (values.forM step) (.ok ()) := by
  induction values with
  | nil => exact gives_pure ()
  | cons value rest ih => exact (succeeds value).after ih

end Action

namespace Command

/-- Text of a named file, which has to be readable. -/
def documentAt (disk : Disk) (file : Path) : Except Failure Text :=
  match disk.read file with
  | .ok text => .ok text
  | .error _ => .error (.fileNotFound file)

theorem readDocument_gives (disk : Disk) (file : Path) :
    (readDocument disk file).Gives (documentAt disk file) := by
  unfold readDocument documentAt
  cases disk.read file with
  | ok text => exact Action.gives_pure text
  | error fault => exact (Action.gives_log _ _).after (Action.gives_throw _)

/-- Name at a spot of a text, where there has to be one. -/
def nameIn (spot : Spot) (text : Text) : Except Failure Text :=
  match nameAt? text spot.place with
  | some name => .ok name
  | none => .error (.noSymbolAtPosition spot.file spot.place)

theorem nameUnder_gives (spot : Spot) (text : Text) :
    (nameUnder spot text).Gives (nameIn spot text) := by
  unfold nameUnder nameIn
  cases nameAt? text spot.place with
  | some name => exact Action.gives_pure name
  | none => exact Action.gives_throw _

/-- The settings of a workspace, or why they cannot be loaded. -/
def settingsAt (disk : Disk) (root : Path) : Except Failure Settings :=
  (loadSettings disk root).start.1

theorem loadSettings_gives (disk : Disk) (root : Path) :
    (loadSettings disk root).Gives (settingsAt disk root) := by
  intro transcript
  unfold settingsAt loadSettings
  split
  · rfl
  · rfl
  · split <;> rfl

/-- The workspace at a root, if its settings can be loaded. -/
def workspaceAt (disk : Disk) (root : Path) : Except Failure Workspace :=
  settingsAt disk root >>= fun settings => .ok { disk, root, settings }

theorem openWorkspace_gives (disk : Disk) (root : Path) :
    (openWorkspace disk root).Gives (workspaceAt disk root) :=
  (loadSettings_gives disk root).bind fun _ => Action.gives_pure _

/-- Settings that cannot be loaded are no missing declaration. -/
theorem settingsAt_ne_symbolNotFound {disk : Disk} {root file : Path} {declared : List Text}
    {symbol : Text} : settingsAt disk root ≠ .error (.symbolNotFound file declared symbol) := by
  unfold settingsAt loadSettings
  split
  · rintro ⟨⟩
  · rintro ⟨⟩
  · split <;> rintro ⟨⟩

theorem logDiscovery_gives (workspace : Workspace) : (logDiscovery workspace).Gives (.ok ()) := by
  refine (Action.gives_log _ _).after (Action.gives_forM ?_ _)
  rintro ⟨file, reading⟩
  cases reading with
  | ok text => exact Action.gives_pure ()
  | error fault => exact Action.gives_log _ _

theorem logSearch_gives (name : Text) : (logSearch name).Gives (.ok ()) := by
  unfold logSearch
  split
  · exact Action.gives_log _ _
  · exact Action.gives_pure ()

end Command

end MakefileNav
