import DevCluster.Proofs.Document.Entries
import DevCluster.Proofs.Settings.Flat

/-!
Layers of settings: an environment does to a document what assignments put into it would do, and the
context follows the name of the cluster that comes of it.
-/

namespace DevCluster

open Document

/-- Whether a document, if there is one, consists of just these assignments of strings. -/
def Document.Consists : Option String → List (String × String) → Prop
  | none, assignments => assignments = []
  | some text, assignments => ∃ marks, ofText? text = some (.ofStrings assignments, marks)

theorem Document.Consists.unique {document : Option String}
    {first second : List (String × String)} (one : Consists document first)
    (other : Consists document second) : first = second := by
  cases document with
  | none => exact one.trans other.symm
  | some text =>
      obtain ⟨_, decoded⟩ := one
      obtain ⟨_, again⟩ := other
      rw [decoded] at again
      have injective : Function.Injective
          fun assignment : String × String => (assignment.1, Item.text assignment.2) := by
        rintro ⟨_, _⟩ ⟨_, _⟩ ⟨⟩
        rfl
      exact injective.list_map (Prod.mk.inj (Option.some.inj again)).1

theorem Document.consists_write {assignments : List (String × String)}
    (distinct : (assignments.map Prod.fst).Nodup) :
    Consists (some (String.ofList (write assignments))) assignments :=
  ofText?_distinct (write_flat assignments) distinct

/-- The value of a variable, where an empty one counts as none. -/
def Environment.filled (environment : Environment) (variableName : String) : Option String :=
  (environment variableName).filter (· ≠ "")

namespace Settings

/-- The variables, each with the key that it overrides. -/
def overriding : List (String × String) := [
  ("cluster_name", "LIFEGUARD_CLUSTER_NAME"),
  ("kube_context", "LIFEGUARD_KUBE_CONTEXT"),
  ("bootstrap_script", "LIFEGUARD_BOOTSTRAP_SCRIPT"),
  ("bootstrap_shell", "LIFEGUARD_BOOTSTRAP_SHELL")]

/-- The assignments with a value put in: in place of the one that the key has, or behind all. -/
def put (assignments : List (String × String)) (key : String) :
    Option String → List (String × String)
  | none => assignments
  | some value =>
    if key ∈ assignments.map Prod.fst then
      assignments.map fun assignment => if assignment.1 = key then (key, value) else assignment
    else assignments ++ [(key, value)]

def overridden (environment : Environment) (assignments : List (String × String)) :
    List (String × String) :=
  overriding.foldl (fun assignments (key, variableName) =>
    put assignments key (environment.filled variableName)) assignments

variable {assignments others : List (String × String)} {environment other : Environment}
  {key name : String} {value : Option String}

theorem lookup_put (assignments : List (String × String)) (key name : String)
    (value : Option String) :
    (put assignments key value).lookup name =
      if name = key then value.or (assignments.lookup key) else assignments.lookup name := by
  cases value with
  | none =>
      by_cases same : name = key <;> simp [put, same]
  | some value =>
      rw [put]
      split
      next known =>
        obtain ⟨current, found⟩ : ∃ current, assignments.lookup key = some current := by
          rw [← Option.isSome_iff_exists, List.lookup_isSome_iff]
          simpa using known
        rw [lookup_replaced, found]
        rfl
      next fresh =>
        have absent : assignments.lookup key = none := by
          rw [List.lookup_eq_none_iff]
          intro assignment member
          have differs : key ≠ assignment.1 := fun same =>
            fresh (same ▸ List.mem_map_of_mem member)
          simpa using differs
        rw [List.lookup_append]
        by_cases same : name = key
        · simp [same, absent]
        · simp [same, List.lookup_cons, beq_false_of_ne same]

theorem keys_put (assignments : List (String × String)) (key : String) (value : Option String) :
    (put assignments key value).map Prod.fst =
      if value.isSome = true ∧ key ∉ assignments.map Prod.fst then assignments.map Prod.fst ++ [key]
      else assignments.map Prod.fst := by
  cases value with
  | none => simp [put]
  | some value =>
      rw [put]
      split
      next known =>
        have same : (fun assignment : String × String => if assignment.1 = key then key
            else assignment.1) = Prod.fst := by
          funext assignment
          by_cases replaced : assignment.1 = key <;> simp [replaced]
        simp [known, List.map_map, Function.comp_def, apply_ite Prod.fst, same]
      next fresh => simp [fresh]

theorem keys_put_known (known : ∀ name ∈ assignments.map Prod.fst, name ∈ Field.all.map Field.key)
    (field : key ∈ Field.all.map Field.key) :
    ∀ name ∈ (put assignments key value).map Prod.fst, name ∈ Field.all.map Field.key := by
  intro name member
  rw [keys_put] at member
  split at member
  next =>
    rcases List.mem_append.mp member with member | member
    · exact known name member
    · rwa [List.mem_singleton.mp member]
  next => exact known name member

theorem keys_put_distinct (distinct : (assignments.map Prod.fst).Nodup) :
    ((put assignments key value).map Prod.fst).Nodup := by
  rw [keys_put]
  split
  next added =>
    refine List.Nodup.append distinct (List.nodup_singleton key) ?_
    simpa using added.2
  next => exact distinct

theorem lookup_perm (same : others.Perm assignments) (distinct : (assignments.map Prod.fst).Nodup)
    (name : String) : others.lookup name = assignments.lookup name := by
  have apart : (others.map Prod.fst).Nodup := (same.map Prod.fst).nodup_iff.mpr distinct
  refine Option.ext fun value => ?_
  rw [lookup_eq_some_iff_mem distinct, lookup_eq_some_iff_mem apart, same.mem_iff]

theorem overridden_known
    (known : ∀ name ∈ assignments.map Prod.fst, name ∈ Field.all.map Field.key) :
    ∀ name ∈ (overridden environment assignments).map Prod.fst, name ∈ Field.all.map Field.key := by
  have field : ∀ pair ∈ overriding, pair.1 ∈ Field.all.map Field.key := by decide
  rw [overridden]
  generalize overriding = pairs at field
  induction pairs generalizing assignments with
  | nil => exact known
  | cons pair pairs ih =>
      obtain ⟨first, others⟩ := List.forall_mem_cons.mp field
      exact ih (keys_put_known known first) others

theorem overridden_distinct (distinct : (assignments.map Prod.fst).Nodup) :
    ((overridden environment assignments).map Prod.fst).Nodup := by
  rw [overridden]
  generalize overriding = pairs
  induction pairs generalizing assignments with
  | nil => exact distinct
  | cons pair pairs ih => exact ih (keys_put_distinct distinct)

/-- What the environment chooses over a document is what the document says with it put in. -/
theorem ofStrings_overridden (environment : Environment) (assignments : List (String × String)) :
    Choices.ofStrings (overridden environment assignments) =
      (Choices.ofEnvironment environment).above (.ofStrings assignments) := by
  funext field
  simp only [Choices.ofStrings, overridden, overriding, List.foldl_cons, List.foldl_nil, lookup_put]
  cases field <;> rfl

end Settings

theorem Choices.strings_of_mapM {table : Table} {chosen : List (Field × String)}
    (taken : table.mapM ofEntry = .ok chosen) :
    ∃ assignments, table = .ofStrings assignments ∧
      ∀ name ∈ assignments.map Prod.fst, name ∈ Field.all.map Field.key := by
  induction table generalizing chosen with
  | nil => exact ⟨[], rfl, by simp⟩
  | cons entry table ih =>
      obtain ⟨name, item⟩ := entry
      rw [List.mapM_cons] at taken
      cases first : ofEntry (name, item) with
      | error fault =>
          rw [first] at taken
          cases taken
      | ok choice =>
          rw [first] at taken
          cases later : table.mapM ofEntry with
          | error fault =>
              rw [later] at taken
              cases taken
          | ok others =>
              obtain ⟨assignments, rfl, known⟩ := ih later
              rw [ofEntry] at first
              split at first
              next => cases first
              next field value found text =>
                obtain rfl : item = .text value := text
                obtain rfl : name = field.key := Field.ofKey?_eq_some.mp found
                refine ⟨(field.key, value) :: assignments, rfl, ?_⟩
                refine List.forall_mem_cons.mpr ⟨?_, known⟩
                exact List.mem_map_of_mem field.mem_all
              next => cases first

namespace Settings

variable {document : Option String} {assignments others : List (String × String)}
  {environment : Environment} {settings : Settings} {text : String}

theorem read_of_consists (consists : Document.Consists document assignments)
    (known : ∀ name ∈ assignments.map Prod.fst, name ∈ Field.all.map Field.key) :
    Settings.read document environment =
      .ok (ofAssignments (overridden environment assignments)) := by
  rw [← ofChoices_ofStrings, ofStrings_overridden]
  cases document with
  | none =>
      cases consists
      rfl
  | some text =>
      obtain ⟨marks, decoded⟩ := consists
      rw [read_text, Choices.ofText, decoded]
      simp only [Choices.ofTable_known (by simpa using known)]
      rfl

theorem consists_of_read (accepted : Settings.read document environment = .ok settings) :
    ∃ assignments, Document.Consists document assignments ∧ (assignments.map Prod.fst).Nodup ∧
      ∀ name ∈ assignments.map Prod.fst, name ∈ Field.all.map Field.key := by
  cases document with
  | none => exact ⟨[], rfl, List.nodup_nil, by simp⟩
  | some text =>
      rw [read_text, Choices.ofText] at accepted
      cases decoded : ofText? text with
      | none =>
          rw [decoded] at accepted
          cases accepted
      | some document =>
          obtain ⟨table, marks⟩ := document
          simp only [decoded, Choices.ofTable] at accepted
          cases taken : table.mapM Choices.ofEntry with
          | error fault =>
              rw [taken] at accepted
              cases accepted
          | ok chosen =>
              obtain ⟨assignments, rfl, known⟩ := Choices.strings_of_mapM taken
              have distinct := (ofText?_entries decoded).1
              refine ⟨assignments, ⟨marks, decoded⟩, ?_, known⟩
              simpa [Table.names, Table.ofStrings, Function.comp_def] using distinct

theorem kubeContext_overridden (environment : Environment)
    (assignments : List (String × String)) :
    let settings := ofAssignments (overridden environment assignments)
    settings.kubeContext = ((environment.filled "LIFEGUARD_KUBE_CONTEXT").or
      (assignments.lookup "kube_context")).getD ("kind-" ++ settings.clusterName) := by
  rw [← ofChoices_ofStrings, ofStrings_overridden]
  rfl

theorem others_overridden (environment other : Environment)
    (assignments : List (String × String)) :
    let settings := ofAssignments (overridden environment assignments)
    let others := ofAssignments (overridden other assignments)
    settings.orchestratorUrl = others.orchestratorUrl ∧
      settings.databaseHint = others.databaseHint := by
  simp only [← ofChoices_ofStrings, ofStrings_overridden]
  exact ⟨rfl, rfl⟩

/-- An environment does to a document what assignments would that are put into it. -/
theorem read_put_in (consists : Document.Consists document assignments)
    (distinct : (assignments.map Prod.fst).Nodup)
    (known : ∀ name ∈ assignments.map Prod.fst, name ∈ Field.all.map Field.key)
    (written : Document.Consists (some text) others)
    (same : others.Perm (overridden environment assignments)) :
    Settings.read (some text) (fun _ => none) = Settings.read document environment := by
  have apart : ((overridden environment assignments).map Prod.fst).Nodup :=
    overridden_distinct distinct
  have chosen : Choices.ofStrings others = .ofStrings (overridden environment assignments) :=
    funext fun field => lookup_perm same apart field.key
  have fields : ∀ name ∈ others.map Prod.fst, name ∈ Field.all.map Field.key := by
    intro name member
    exact overridden_known known name ((same.map Prod.fst).mem_iff.mp member)
  rw [read_of_consists consists known, read_of_consists written fields, ← ofChoices_ofStrings,
    ← ofChoices_ofStrings, ← chosen, ofStrings_overridden, above_ofEnvironment_empty]

/-- All that an environment says to settings is what is in the variables that override a key. -/
theorem read_congr {other : Environment}
    (same : ∀ variableName ∈ overriding.map Prod.snd,
      other.filled variableName = environment.filled variableName) (document : Option String) :
    Settings.read document other = Settings.read document environment := by
  have chosen : Choices.ofEnvironment other = Choices.ofEnvironment environment := by
    funext field
    simp only [overriding, List.map_cons, List.map_nil, List.forall_mem_cons] at same
    obtain ⟨clusterName, kubeContext, bootstrapScript, bootstrapShell, _⟩ := same
    cases field with
    | clusterName => exact clusterName
    | kubeContext => exact kubeContext
    | bootstrapScript => exact bootstrapScript
    | bootstrapShell => exact bootstrapShell
    | orchestratorUrl => rfl
    | databaseHint => rfl
  simp only [Settings.read, ofSources, chosen]

end Settings

end DevCluster
