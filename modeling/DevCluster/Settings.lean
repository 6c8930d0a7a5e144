import DevCluster.Decimal.Shortest
import DevCluster.Document.Text
import DevCluster.Environment
import DevCluster.Text.Quoted

/-!
The settings of the environment: what a document chooses, what environment variables choose over it,
and the defaults of all that is left open.
-/

namespace DevCluster

inductive Field
  | clusterName
  | kubeContext
  | bootstrapScript
  | bootstrapShell
  | orchestratorUrl
  | databaseHint
deriving DecidableEq, Repr

structure Settings where
  clusterName : String
  kubeContext : String
  bootstrapScript : String
  bootstrapShell : String
  orchestratorUrl : String
  databaseHint : String
deriving DecidableEq, Repr

namespace Field

def all : List Field :=
  [clusterName, kubeContext, bootstrapScript, bootstrapShell, orchestratorUrl, databaseHint]

theorem mem_all (field : Field) : field ∈ all := by
  cases field <;> decide

def key : Field → String
  | clusterName => "cluster_name"
  | kubeContext => "kube_context"
  | bootstrapScript => "bootstrap_script"
  | bootstrapShell => "bootstrap_shell"
  | orchestratorUrl => "orchestrator_ui_url"
  | databaseHint => "database_hint"

def ofKey? (key : String) : Option Field :=
  all.find? (·.key = key)

def expected : Field → String
  | bootstrapScript => "path string"
  | _ => "a string"

def override : Field → Option String
  | clusterName => some "LIFEGUARD_CLUSTER_NAME"
  | kubeContext => some "LIFEGUARD_KUBE_CONTEXT"
  | bootstrapScript => some "LIFEGUARD_BOOTSTRAP_SCRIPT"
  | bootstrapShell => some "LIFEGUARD_BOOTSTRAP_SHELL"
  | orchestratorUrl => none
  | databaseHint => none

end Field

inductive DocumentFault
  | malformed
  | unknownField (name : String)
  | wrongType (found : String) (field : Field)
deriving DecidableEq, Repr

def Document.Item.description : Document.Item → String
  | .text value => "string " ++ shown value
  | .integer value => s!"integer `{value}`"
  | .float value => s!"floating point `{value.text}`"
  | .boolean value => s!"boolean `{value}`"
  | .array _ | .tables _ _ => "sequence"
  | .moment _ | .inlineTable _ | .table _ _ => "map"

def DocumentFault.text : DocumentFault → String
  | .malformed => "malformed document"
  | .unknownField name =>
    let known := ", ".intercalate (Field.all.map fun field => s!"`{field.key}`")
    s!"unknown field `{name}`, expected one of {known}"
  | .wrongType found field => s!"invalid type: {found}, expected {field.expected}"

def DocumentFault.fields : DocumentFault → List String
  | .wrongType _ field => [field.key]
  | _ => []

/-- Where a fault stands: at the name that is not known, or at the value, or at the name of a value
that is not in one piece. -/
def DocumentFault.extent? (fault : DocumentFault) (marks : Document.Marks) :
    Option Document.Extent :=
  match fault with
  | .malformed => none
  | .unknownField name => (marks.lookup name).map (·.name)
  | .wrongType _ field => (marks.lookup field.key).map fun mark => mark.value.getD mark.name

structure Refusal where
  fault : DocumentFault
  document : String
  place : Option Text.Place
deriving DecidableEq, Repr

namespace Refusal

def text (refusal : Refusal) : String :=
  let message := refusal.fault.text ++ "\n"
  match refusal.place with
  | none => message
  | some place =>
    let characters := refusal.document.toList
    let line := place.line characters + 1
    let column := place.column characters + 1
    let heading := s!"TOML parse error at line {line}, column {column}\n"
    heading ++ place.excerpt refusal.document ++ message

def details (refusal : Refusal) : String :=
  let fields := ", ".intercalate (refusal.fault.fields.map shown)
  let span := match refusal.place with
    | none => "None"
    | some place => s!"Some({place.first}..{place.last})"
  s!"TomlError \x7b message: {shown refusal.fault.text}, raw: Some({shown refusal.document}), " ++
    s!"keys: [{fields}], span: {span} \x7d"

end Refusal

abbrev Choices := Field → Option String

namespace Choices

def none : Choices := fun _ => Option.none

/-- The choice of one entry of a document. Its name is looked at before its value. -/
def ofEntry (entry : String × Document.Item) : Except DocumentFault (Field × String) :=
  match Field.ofKey? entry.1, entry.2 with
  | Option.none, _ => .error (.unknownField entry.1)
  | some field, .text value => .ok (field, value)
  | some field, item => .error (.wrongType item.description field)

def ofTable (table : Document.Table) : Except DocumentFault Choices := do
  let chosen ← table.mapM ofEntry
  pure fun field => chosen.lookup field

def ofText (text : String) : Except Refusal Choices :=
  match Document.ofText? text with
  | Option.none => .error { fault := .malformed, document := text, place := .none }
  | some (table, marks) =>
    (ofTable table).mapError fun fault =>
      let octets := text.utf8ByteSize
      { fault, document := text, place := (fault.extent? marks).map (·.place octets) }

/-- The choices of environment variables. An empty variable chooses nothing. -/
def ofEnvironment (environment : Environment) : Choices :=
  fun field => (field.override.bind environment).filter (· ≠ "")

def above (upper lower : Choices) : Choices :=
  fun field => (upper field).or (lower field)

end Choices

namespace Settings

/-- The cluster's context is named after the cluster, unless it is chosen. -/
def ofChoices (choices : Choices) : Settings :=
  let clusterName := (choices .clusterName).getD "lifeguard-test"
  { clusterName
    kubeContext := (choices .kubeContext).getD ("kind-" ++ clusterName)
    bootstrapScript := (choices .bootstrapScript).getD "scripts/setup_kind_cluster.sh"
    bootstrapShell := (choices .bootstrapShell).getD "bash"
    orchestratorUrl := (choices .orchestratorUrl).getD "http://localhost:10350"
    databaseHint := (choices .databaseHint).getD "localhost:5432" }

def defaults : Settings := ofChoices .none

def ofSources (document : Option String) (environment : Environment) :
    Except Refusal Settings := do
  let choices ← match document with
    | none => pure Choices.none
    | some text => Choices.ofText text
  pure (ofChoices ((Choices.ofEnvironment environment).above choices))

end Settings

end DevCluster
