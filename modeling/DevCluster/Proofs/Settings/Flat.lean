import DevCluster.Proofs.Application.Loading
import DevCluster.Proofs.Document.Flat

/-!
What settings flat documents give: each field that is assigned has the assigned value, and a
document is refused if it assigns a field twice, or a field that is not known.
-/

namespace DevCluster

open Document

theorem Field.key_injective : Function.Injective Field.key := by
  intro first second same
  cases first <;> cases second <;> first | rfl | (revert same; decide)

theorem Field.ofKey?_key (field : Field) : ofKey? field.key = some field := by
  cases field <;> decide

theorem Field.ofKey?_eq_none {key : String} (unknown : key ∉ all.map Field.key) :
    ofKey? key = none := by
  simpa [ofKey?] using unknown

theorem Field.ofKey?_eq_some {key : String} {field : Field} :
    ofKey? key = some field ↔ key = field.key := by
  constructor
  · intro found
    simpa [eq_comm] using List.find?_some found
  · rintro rfl
    exact ofKey?_key field

namespace Choices

def ofStrings (assignments : List (String × String)) : Choices :=
  fun field => assignments.lookup field.key

variable {assignments : List (String × String)}

theorem mapM_known (known : ∀ assignment ∈ assignments, assignment.1 ∈ Field.all.map Field.key) :
    ∃ chosen, (Table.ofStrings assignments).mapM ofEntry = .ok chosen ∧
      ∀ field, chosen.lookup field = ofStrings assignments field := by
  induction assignments with
  | nil => exact ⟨[], rfl, fun _ => rfl⟩
  | cons assignment others ih =>
      obtain ⟨key, value⟩ := assignment
      obtain ⟨chosen, taken, same⟩ := ih fun other member => known other (.tail _ member)
      obtain ⟨field, _, rfl⟩ := List.mem_map.mp (known _ (.head _))
      refine ⟨(field, value) :: chosen, ?_, ?_⟩
      · have first : ofEntry (field.key, .text value) = .ok (field, value) := by
          rw [ofEntry, Field.ofKey?_key]
        rw [Table.ofStrings, List.map_cons, List.mapM_cons, first, ← Table.ofStrings, taken]
        rfl
      · intro other
        rw [ofStrings, List.lookup_cons, List.lookup_cons, same other, ofStrings]
        by_cases equal : other = field
        · simp [equal]
        · have distinct : other.key ≠ field.key := fun same => equal (Field.key_injective same)
          rw [beq_false_of_ne equal, beq_false_of_ne distinct]

theorem ofTable_known (known : ∀ assignment ∈ assignments, assignment.1 ∈ Field.all.map Field.key) :
    ofTable (.ofStrings assignments) = .ok (ofStrings assignments) := by
  obtain ⟨chosen, taken, same⟩ := mapM_known known
  rw [ofTable, taken]
  exact congrArg Except.ok (funext same)

theorem ofTable_unknown {earlier later : List (String × String)} {key value : String}
    (known : ∀ assignment ∈ earlier, assignment.1 ∈ Field.all.map Field.key)
    (unknown : key ∉ Field.all.map Field.key) :
    ofTable (.ofStrings (earlier ++ (key, value) :: later)) = .error (.unknownField key) := by
  obtain ⟨chosen, taken, _⟩ := mapM_known known
  have refused : ofEntry (key, .text value) = .error (.unknownField key) := by
    rw [ofEntry, Field.ofKey?_eq_none unknown]
  rw [ofTable, Table.ofStrings, List.map_append, List.mapM_append, ← Table.ofStrings, taken,
    List.map_cons, List.mapM_cons, refused]
  rfl

end Choices

/-- Whether a text is refused as a document of settings, whatever the environment. -/
def DocumentFault.Refuses (fault : DocumentFault) (text : String) : Prop :=
  ∀ environment, ∃ place, Settings.read (some text) environment =
    .error (.layered (.kind (.config "failed to parse config"))
      (.root (.document { fault, document := text, place })))

namespace Settings

def assignments (settings : Settings) : List (String × String) :=
  [ ("cluster_name", settings.clusterName),
    ("kube_context", settings.kubeContext),
    ("bootstrap_script", settings.bootstrapScript),
    ("bootstrap_shell", settings.bootstrapShell),
    ("orchestrator_ui_url", settings.orchestratorUrl),
    ("database_hint", settings.databaseHint) ]

/-- The settings that assignments make, with defaults for the fields that they leave open. -/
def ofAssignments (assignments : List (String × String)) : Settings :=
  let chosen (key default : String) : String := (assignments.lookup key).getD default
  let clusterName := chosen "cluster_name" "lifeguard-test"
  { clusterName
    kubeContext := chosen "kube_context" ("kind-" ++ clusterName)
    bootstrapScript := chosen "bootstrap_script" "scripts/setup_kind_cluster.sh"
    bootstrapShell := chosen "bootstrap_shell" "bash"
    orchestratorUrl := chosen "orchestrator_ui_url" "http://localhost:10350"
    databaseHint := chosen "database_hint" "localhost:5432" }

theorem ofChoices_ofStrings (assignments : List (String × String)) :
    ofChoices (.ofStrings assignments) = ofAssignments assignments := rfl

variable {settings : Settings} {assignments : List (String × String)} {text : List Char}

theorem keys_assignments (settings : Settings) :
    settings.assignments.map Prod.fst = Field.all.map Field.key := rfl

theorem distinct_of_perm (same : assignments.Perm settings.assignments) :
    (assignments.map Prod.fst).Nodup := by
  rw [(same.map Prod.fst).nodup_iff, keys_assignments]
  decide

theorem known_of_perm (same : assignments.Perm settings.assignments) {assignment : String × String}
    (member : assignment ∈ assignments) : assignment.1 ∈ Field.all.map Field.key := by
  rw [← keys_assignments settings]
  exact List.mem_map_of_mem (same.mem_iff.mp member)

theorem ofAssignments_perm (same : assignments.Perm settings.assignments) :
    ofAssignments assignments = settings := by
  have distinct := distinct_of_perm same
  have chosen : ∀ assignment ∈ settings.assignments,
      assignments.lookup assignment.1 = some assignment.2 := by
    intro assignment member
    obtain ⟨earlier, later, rfl⟩ := List.append_of_mem (same.mem_iff.mpr member)
    refine List.lookup_eq_some_iff.mpr ⟨earlier, later, rfl, fun other before => ?_⟩
    rw [List.map_append, List.map_cons, List.nodup_middle, List.nodup_cons] at distinct
    have differs : assignment.1 ≠ other.1 := by
      intro equal
      refine distinct.1 (List.mem_append_left _ ?_)
      rw [equal]
      exact List.mem_map_of_mem before
    simpa using differs
  simp only [Settings.assignments, List.forall_mem_cons] at chosen
  obtain ⟨clusterName, kubeContext, bootstrapScript, bootstrapShell, orchestratorUrl, hint, _⟩ :=
    chosen
  simp [ofAssignments, clusterName, kubeContext, bootstrapScript, bootstrapShell, orchestratorUrl,
    hint]

theorem above_ofEnvironment_empty (choices : Choices) :
    (Choices.ofEnvironment fun _ => none).above choices = choices := by
  funext field
  cases field <;> rfl

theorem read_repeated (flat : Flat assignments text)
    (repeated : ¬ (assignments.map Prod.fst).Nodup) :
    DocumentFault.malformed.Refuses (String.ofList text) := by
  intro environment
  refine ⟨none, ?_⟩
  rw [Settings.read_text, Choices.ofText, ofText?_repeated flat repeated]

theorem read_unknown {earlier later : List (String × String)} {key value : String}
    (flat : Flat (earlier ++ (key, value) :: later) text)
    (distinct : ((earlier ++ (key, value) :: later).map Prod.fst).Nodup)
    (known : ∀ assignment ∈ earlier, assignment.1 ∈ Field.all.map Field.key)
    (unknown : key ∉ Field.all.map Field.key) :
    (DocumentFault.unknownField key).Refuses (String.ofList text) := by
  intro environment
  obtain ⟨marks, decoded⟩ := ofText?_distinct flat distinct
  refine ⟨((DocumentFault.unknownField key).extent? marks).map
    (·.place (String.ofList text).utf8ByteSize), ?_⟩
  rw [Settings.read_text, Choices.ofText, decoded]
  simp only [Choices.ofTable_unknown known unknown]
  rfl

theorem read_known (flat : Flat assignments text) (distinct : (assignments.map Prod.fst).Nodup)
    (known : ∀ assignment ∈ assignments, assignment.1 ∈ Field.all.map Field.key) :
    Settings.read (some (String.ofList text)) (fun _ => none) =
      .ok (ofAssignments assignments) := by
  obtain ⟨marks, decoded⟩ := ofText?_distinct flat distinct
  rw [Settings.read_text, Choices.ofText, decoded]
  simp only [Choices.ofTable_known known]
  rw [← ofChoices_ofStrings, ← above_ofEnvironment_empty (.ofStrings assignments)]
  rfl

theorem read_perm (flat : Flat assignments text) (same : assignments.Perm settings.assignments) :
    Settings.read (some (String.ofList text)) (fun _ => none) = .ok settings := by
  rw [← ofAssignments_perm same]
  exact read_known flat (distinct_of_perm same) fun _ => known_of_perm same

/-- Settings are read back as they are written, in any order of their keys. -/
theorem read_write (same : assignments.Perm settings.assignments) :
    Settings.read (some (String.ofList (write assignments))) (fun _ => none) = .ok settings :=
  read_perm (write_flat assignments) same

/-- A flat document is refused as malformed if it assigns a name twice, else for the first name that
is not the key of a field, and else it gives just the settings that it assigns. -/
theorem read_flat (flat : Flat assignments text) :
    (¬ (assignments.map Prod.fst).Nodup →
      DocumentFault.malformed.Refuses (String.ofList text)) ∧
    ((assignments.map Prod.fst).Nodup →
      match (assignments.map Prod.fst).find? (· ∉ Field.all.map Field.key) with
      | some key => (DocumentFault.unknownField key).Refuses (String.ofList text)
      | none =>
        Settings.read (some (String.ofList text)) (fun _ => none) =
          .ok (ofAssignments assignments)) ∧
    ∀ settings : Settings, assignments.Perm settings.assignments →
      Settings.read (some (String.ofList text)) (fun _ => none) = .ok settings := by
  refine ⟨read_repeated flat, ?_, fun settings same => read_perm flat same⟩
  intro distinct
  rw [List.find?_map]
  cases first : assignments.find? ((· ∉ Field.all.map Field.key) ∘ Prod.fst) with
  | none =>
      refine read_known flat distinct fun assignment member => ?_
      simpa using List.find?_eq_none.mp first assignment member
  | some assignment =>
      obtain ⟨unknown, earlier, later, rfl, known⟩ := List.find?_eq_some_iff_append.mp first
      refine read_unknown flat distinct (fun assignment member => ?_) (by simpa using unknown)
      simpa using known assignment member

theorem read_cluster_name :
    Flat [("cluster_name", "dév"), ("database_hint", "")]
      "cluster_name = \"d\\u00e9v\"\ndatabase_hint = ''".toList ∧
    Settings.read (some "cluster_name = \"d\\u00e9v\"\ndatabase_hint = ''") (fun _ => none) =
      .ok { Settings.defaults with
        clusterName := "dév", kubeContext := "kind-dév", databaseHint := "" } := by
  have escaped : Escaped 'é' ['u', '0', '0', 'e', '9'] :=
    .four ((fixed_hex_iff (by simp)).mpr ⟨rfl, rfl⟩)
  have last : Spelled ['v'] ['v'] := .plain rfl (by decide) (by decide) .nil
  have spelled : Spelled ['d', 'é', 'v'] ['d', '\\', 'u', '0', '0', 'e', '9', 'v'] :=
    .plain rfl (by decide) (by decide) (.escaped escaped last)
  have name : "dév".toList = ['d', 'é', 'v'] := by simp
  have flat : Flat [("cluster_name", "dév"), ("database_hint", "")]
      "cluster_name = \"d\\u00e9v\"\ndatabase_hint = ''".toList :=
    .cons (.bare (by decide) (by simp [isBareChar])) (.basic (name ▸ spelled))
      (.last (.bare (by decide) (by simp [isBareChar])) (.literal (by simp)))
  exact ⟨flat, (read_flat flat).2.1 (by decide)⟩

end Settings

end DevCluster
