import DevCluster.Action

/-!
A whole run: the settings, the action, and the report of what went wrong. Its result is the exit
code.
-/

namespace DevCluster.Application

def overrides : List String :=
  Field.all.filterMap Field.override

def readEnvironment : Routine (List (String × String)) := do
  let values ← overrides.mapM fun name => return (name, ← Routine.request (.lookUp name))
  pure (values.filterMap fun (name, value) => value.map (name, ·))

def unreadable (path reason : String) : Failure :=
  .layered (.kind (.config "failed to read config"))
    (.layered (.note s!"read config {shown path}") (.root (.system reason)))

/-- Ends the choice of the settings, over a document if one is present. -/
def settle (present : Bool) (settings : Except Failure Settings) : Routine Settings := do
  match settings with
  | .ok _ => if present then Routine.note .settingsParsed
  | .error failure =>
    match failure.refusal? with
    | some refusal => Routine.note (.settingsRefused refusal)
    | none => pure ()
  Routine.ofExcept settings

/-- Chooses the settings over a document, once that is read or found absent. -/
def choose (document : Option String) : Routine Settings := do
  let environment ← readEnvironment
  settle document.isSome (Settings.read document (environment.lookup ·))

def loadFrom (file : SettingsFile) : Routine Settings := do
  Routine.note (.settingsSought file.path (file.content ≠ .absent))
  match file.content with
  | .absent => choose none
  | .unreadable reason => Routine.fail (unreadable file.path reason)
  | .text content => do
    Routine.note (.settingsRead content.utf8ByteSize)
    choose (some content)

def loadSettings : Routine Settings := do
  loadFrom (← Routine.request .settingsFile)

/-- Notes what a failure is of which the operator has been told. -/
def classify (kind : FailureKind) (source : Option Failure) : Routine Unit := do
  match source with
  | some cause => Routine.note (.failureCaused cause.fullText)
  | none => pure ()
  Routine.note (.failureClassified kind source)

/-- Tells the operator what went wrong, and gives the exit code. -/
def report (failure : Failure) : Routine Int := do
  match failure.firstKind? with
  | some (kind, source) =>
    Routine.say (.error kind.text)
    match kind.hint with
    | some hint => Routine.say (.detail hint)
    | none => pure ()
    classify kind source
  | none => Routine.say (.error failure.fullText)
  pure failure.code

def act (action : Action) : Routine Unit := do
  action.perform (← loadSettings)

def run (action : Action) : Routine Int := do
  let code ← match ← (act action).attempt with
    | .ok _ => pure 0
    | .error failure => report failure
  Routine.note (.runFinished code)
  pure code

end DevCluster.Application
