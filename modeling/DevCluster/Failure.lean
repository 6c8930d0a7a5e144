import DevCluster.Command
import DevCluster.Settings

/-!
Failures as stacks of layers over a root cause, and what is reported of them: the texts of all
layers, and the exit code and hint of the outermost layer that is a failure of the program's own.
-/

namespace DevCluster

inductive FailureKind
  | missingTool (tool : String)
  | daemonUnavailable
  | bootstrap (detail : String)
  | usage (detail : String)
  | config (detail : String)
  | runtime (detail : String)
deriving DecidableEq, Repr

namespace FailureKind

def text : FailureKind → String
  | missingTool tool => s!"{tool} is not installed. Please install it first."
  | daemonUnavailable => "Docker daemon is not running"
  | bootstrap detail => s!"Failed to setup Kind cluster: {detail}"
  | usage detail => s!"usage error: {detail}"
  | config detail => s!"config error: {detail}"
  | runtime detail => s!"runtime error: {detail}"

def code : FailureKind → Int
  | missingTool _ | daemonUnavailable | bootstrap _ => 1
  | usage _ => 2
  | config _ => 10
  | runtime _ => 20

def hint : FailureKind → Option String
  | daemonUnavailable => some "Please start Docker Desktop and try again"
  | bootstrap _ => some "Check the output of the cluster setup script above"
  | _ => none

end FailureKind

inductive RootCause
  | kind (own : FailureKind)
  | system (reason : String)
  | message (text : String)
  | run (fault : RunFault)
  | document (refusal : Refusal)
deriving DecidableEq, Repr

/-- What is put over a failure on its way out. A label reads like a failure of the program's own,
but only a kind is one. -/
inductive Layer
  | kind (own : FailureKind)
  | label (shown : FailureKind)
  | note (text : String)
deriving DecidableEq, Repr

inductive Failure
  | root (cause : RootCause)
  | layered (layer : Layer) (below : Failure)
deriving DecidableEq, Repr

/-- The text of a root cause and, if it has one, of the system's reason for it. -/
def RootCause.chain : RootCause → List String
  | .kind own => [own.text]
  | .system reason => [reason]
  | .message text => [text]
  | .run fault => [fault.text, fault.reason]
  | .document refusal => [refusal.text]

def Layer.text : Layer → String
  | .kind own | .label own => own.text
  | .note text => text

namespace Failure

def chain : Failure → List String
  | root cause => cause.chain
  | layered layer below => layer.text :: below.chain

def text : Failure → String
  | root (.kind own) => own.text
  | root (.system reason) => reason
  | root (.message text) => text
  | root (.run fault) => fault.text
  | root (.document refusal) => refusal.text
  | layered layer _ => layer.text

def fullText (failure : Failure) : String :=
  ": ".intercalate failure.chain

/-- The outermost failure of the program's own, and what caused it. -/
def firstKind? : Failure → Option (FailureKind × Option Failure)
  | root (.kind own) => some (own, none)
  | root _ => none
  | layered (.kind own) below => some (own, some below)
  | layered _ below => below.firstKind?

/-- The exit code: that of the outermost failure of the program's own, 30 for a system failure
without one above it, 20 for all others. -/
def code : Failure → Int
  | root (.kind own) => own.code
  | root (.system _) | root (.run _) => 30
  | root (.message _) | root (.document _) => 20
  | layered (.kind own) _ => own.code
  | layered _ below => below.code

def hint (failure : Failure) : Option String :=
  failure.firstKind?.bind (·.1.hint)

/-- The refusal of a document at the root, if that is the cause. -/
def refusal? : Failure → Option Refusal
  | root (.document refusal) => some refusal
  | root _ => none
  | layered _ below => below.refusal?

/-- A failure of the program's own without a cause, or caused by a failing command. -/
def ofKind (kind : FailureKind) : Failure := root (.kind kind)

def ofRunFault (kind : FailureKind) (fault : RunFault) : Failure :=
  layered (.kind kind) (root (.run fault))

end Failure

/-- The settings of a document and an environment, where a fault of the document is a failure. -/
def Settings.read (document : Option String) (environment : Environment) :
    Except Failure Settings :=
  (Settings.ofSources document environment).mapError fun refusal =>
    .layered (.kind (.config "failed to parse config")) (.root (.document refusal))

end DevCluster
