import DevCluster.Proofs.Document.Entries
import DevCluster.Proofs.Document.Lines
import DevCluster.Proofs.Settings.Flat

/-!
What a document of settings is refused for: that it is malformed, or else the first of its entries
that is not understood.
-/

namespace DevCluster

open Document

theorem Choices.ofEntry_bare (name : String) (item : Item) :
    ofEntry (name, item.bare) = ofEntry (name, item) := by
  rw [ofEntry, ofEntry]
  cases Field.ofKey? name with
  | none => rfl
  | some field => cases item <;> rfl

namespace Document

/-- The entries of a document in the order of their places. -/
def entries (statements : List Statement) : List Appearance :=
  Appearance.standing [] (appearances statements)

/-- What a value that is not a string is called. -/
inductive Called : Item → String → Prop
  | integer {value} : Called (.integer value) ("integer `" ++ toString value ++ "`")
  | float {value} : Called (.float value) ("floating point `" ++ value.text ++ "`")
  | yes : Called (.boolean true) "boolean `true`"
  | no : Called (.boolean false) "boolean `false`"
  | array {items} : Called (.array items) "sequence"
  | tables {earlier last} : Called (.tables earlier last) "sequence"
  | moment {value} : Called (.moment value) "map"
  | inlineTable {table} : Called (.inlineTable table) "map"
  | table {origin table} : Called (.table origin table) "map"

theorem called_iff {item : Item} {found : String} :
    Called item found ↔ (∀ value, item ≠ .text value) ∧ item.description = found := by
  constructor
  · intro called
    cases called <;> exact ⟨nofun, rfl⟩
  · rintro ⟨other, rfl⟩
    cases item with
    | text value => exact absurd rfl (other value)
    | integer => exact .integer
    | float => exact .float
    | boolean value =>
        cases value
        · exact .no
        · exact .yes
    | moment => exact .moment
    | array => exact .array
    | inlineTable => exact .inlineTable
    | table => exact .table
    | tables => exact .tables

namespace Appearance

/-- An entry that chooses a field: its name is the key of one, and it is a string. -/
def Understood (entry : Appearance) : Prop :=
  ∃ field value, entry.name = Field.key field ∧ entry.item = .text value

/-- What is wrong with an entry: its name, whatever it is, or else what it is. -/
inductive Faulty (entry : Appearance) : DocumentFault → Prop
  | unknown : entry.name ∉ Field.all.map Field.key → Faulty entry (.unknownField entry.name)
  | wrongType {field : Field} {found : String} : entry.name = field.key →
      Called entry.item found → Faulty entry (.wrongType found field)

variable {entry : Appearance} {entries : List Appearance} {fault : DocumentFault}

theorem ofEntry_judged (entry : Appearance) :
    (∃ choice, Choices.ofEntry entry.entry = .ok choice ∧ entry.Understood) ∨
      ∃ fault, Choices.ofEntry entry.entry = .error fault ∧ entry.Faulty fault := by
  rw [Appearance.entry, Choices.ofEntry_bare, Choices.ofEntry]
  cases known : Field.ofKey? entry.name with
  | none =>
      refine .inr ⟨_, rfl, .unknown ?_⟩
      simpa [Field.ofKey?] using known
  | some field =>
      have named := Field.ofKey?_eq_some.mp known
      cases value : entry.item with
      | text value => exact .inl ⟨_, rfl, field, _, named, value⟩
      | _ => exact .inr ⟨_, rfl, .wrongType named (called_iff.mpr ⟨by simp [value], by rw [value]⟩)⟩

theorem Faulty.not_understood (faulty : entry.Faulty fault) : ¬ entry.Understood := by
  rintro ⟨field, value, named, item⟩
  cases faulty with
  | unknown unknown => exact unknown (named ▸ List.mem_map_of_mem field.mem_all)
  | wrongType _ called => exact (called_iff.mp called).1 value item

theorem Faulty.unique {other : DocumentFault} (faulty : entry.Faulty fault)
    (again : entry.Faulty other) : fault = other := by
  cases faulty with
  | unknown unknown =>
      cases again with
      | unknown => rfl
      | @wrongType field _ named =>
          exact absurd (named ▸ List.mem_map_of_mem field.mem_all) unknown
  | @wrongType field _ named called =>
      cases again with
      | unknown unknown => exact absurd (named ▸ List.mem_map_of_mem field.mem_all) unknown
      | wrongType again other =>
          rw [Field.key_injective (named.symm.trans again), ← (called_iff.mp called).2,
            (called_iff.mp other).2]

/-- Only one entry is the first that is not understood. -/
theorem first_faulty_unique {earlier later before after : List Appearance} {first : Appearance}
    (same : earlier ++ entry :: later = before ++ first :: after)
    (understood : ∀ other ∈ earlier, other.Understood) (faulty : entry.Faulty fault)
    (others : ∀ other ∈ before, other.Understood) {other : DocumentFault}
    (again : first.Faulty other) : fault = other := by
  -- Were one of the two entries before the other, it would be understood as well as faulty.
  induction earlier generalizing before with
  | nil =>
      cases before with
      | nil =>
          obtain ⟨rfl, _⟩ := List.cons.inj same
          exact faulty.unique again
      | cons next before =>
          obtain ⟨rfl, _⟩ := List.cons.inj same
          exact absurd (others _ List.mem_cons_self) faulty.not_understood
  | cons next earlier ih =>
      cases before with
      | nil =>
          obtain ⟨rfl, _⟩ := List.cons.inj same
          exact absurd (understood _ List.mem_cons_self) again.not_understood
      | cons _ before =>
          obtain ⟨_, same⟩ := List.cons.inj same
          exact ih same (List.forall_mem_cons.mp understood).2 (List.forall_mem_cons.mp others).2

end Appearance

theorem exists_of_written {text : String} {statements : List Statement}
    (written : Written text statements) :
    ∃ table marks, ofText? text = some (table, marks) ∧
      table.outline = (entries statements).map Appearance.entry := by
  obtain ⟨⟨table, marks⟩, decoded⟩ :=
    Option.isSome_iff_exists.mp (ofText?_isSome.mpr ⟨statements, written⟩)
  obtain ⟨_, others, read, outline⟩ := ofText?_entries decoded
  rw [statements?_iff.mpr written.1] at read
  obtain rfl := Option.some.inj read
  exact ⟨table, marks, decoded, outline⟩

end Document

namespace Choices

variable {entries : List Appearance}

theorem ofTable_outline (table : Table) : ofTable table.outline = ofTable table := by
  have same : ofEntry ∘ (fun entry => (entry.1, entry.2.bare)) = ofEntry :=
    funext fun entry => ofEntry_bare entry.1 entry.2
  rw [ofTable, ofTable, Table.outline, List.mapM_map, same]

theorem mapM_judged (entries : List Appearance) :
    (∃ chosen, (entries.map Appearance.entry).mapM ofEntry = .ok chosen ∧
      ∀ entry ∈ entries, entry.Understood) ∨
    ∃ earlier entry later fault, entries = earlier ++ entry :: later ∧
      (∀ other ∈ earlier, other.Understood) ∧ entry.Faulty fault ∧
      (entries.map Appearance.entry).mapM ofEntry = .error fault := by
  induction entries with
  | nil => exact .inl ⟨[], rfl, by simp⟩
  | cons entry entries ih =>
      rw [List.map_cons, List.mapM_cons]
      rcases entry.ofEntry_judged with ⟨choice, chosen, understood⟩ | ⟨fault, refused, faulty⟩
      · rw [chosen]
        rcases ih with ⟨others, taken, all⟩ |
          ⟨earlier, first, later, fault, rfl, all, faulty, refused⟩
        · rw [taken]
          exact .inl ⟨choice :: others, rfl, List.forall_mem_cons.mpr ⟨understood, all⟩⟩
        · rw [refused]
          exact .inr ⟨entry :: earlier, first, later, fault, rfl,
            List.forall_mem_cons.mpr ⟨understood, all⟩, faulty, rfl⟩
      · rw [refused]
        exact .inr ⟨[], entry, entries, fault, rfl, List.forall_mem_nil _, faulty, rfl⟩

end Choices

theorem Choices.document_of_refusal {text : String} {refusal : Refusal}
    (refused : ofText text = .error refusal) : refusal.document = text := by
  rw [ofText] at refused
  split at refused
  next => cases refused; rfl
  next table marks _ =>
    cases judged : ofTable table with
    | ok choices =>
        rw [judged] at refused
        cases refused
    | error fault =>
        rw [judged] at refused
        cases refused
        rfl

/-- What a text is refused for, if it is. -/
def Choices.fault? (text : String) : Option DocumentFault :=
  match ofText text with
  | .ok _ => Option.none
  | .error refusal => some refusal.fault

/-- A text is refused for one fault at most, and then gives no settings. -/
theorem DocumentFault.Refuses.unique {text : String} {fault other : DocumentFault}
    (refused : fault.Refuses text) (again : other.Refuses text) : fault = other := by
  obtain ⟨_, first⟩ := refused fun _ => none
  obtain ⟨_, second⟩ := again fun _ => none
  rw [first] at second
  cases second
  rfl

theorem DocumentFault.Refuses.not_accepted {text : String} {fault : DocumentFault}
    (refused : fault.Refuses text) (environment : String → Option String) :
    ¬ ∃ settings, Settings.read (some text) environment = .ok settings := by
  rintro ⟨_, accepted⟩
  obtain ⟨_, refused⟩ := refused environment
  rw [refused] at accepted
  cases accepted

theorem DocumentFault.text_unknownField (name : String) :
    DocumentFault.text (.unknownField name) =
      "unknown field `" ++ name ++ "`, expected one of " ++
        ("`cluster_name`, `kube_context`, `bootstrap_script`, `bootstrap_shell`, " ++
          "`orchestrator_ui_url`, `database_hint`") := by
  have known : ", ".intercalate (Field.all.map fun field => s!"`{field.key}`") =
      "`cluster_name`, `kube_context`, `bootstrap_script`, `bootstrap_shell`, " ++
        "`orchestrator_ui_url`, `database_hint`" := by decide +kernel
  rw [← known]
  rfl

theorem DocumentFault.text_wrongType (found : String) (field : Field) :
    DocumentFault.text (.wrongType found field) =
      "invalid type: " ++ found ++ ", expected " ++
        if field = .bootstrapScript then "path string" else "a string" := by
  cases field <;> rfl

namespace Settings

variable {text : String} {statements : List Statement}

theorem read_malformed (unwritten : ¬ ∃ statements, Written text statements) :
    DocumentFault.malformed.Refuses text := by
  have undecoded : ofText? text = none := by
    simpa using mt ofText?_isSome.mp unwritten
  intro environment
  exact ⟨none, by rw [read_text, Choices.ofText, undecoded]⟩

theorem read_written (written : Written text statements) :
    ((∀ environment, ∃ settings, Settings.read (some text) environment = .ok settings) ∧
      ∀ entry ∈ entries statements, entry.Understood) ∨
    ∃ earlier entry later fault, entries statements = earlier ++ entry :: later ∧
      (∀ other ∈ earlier, other.Understood) ∧ entry.Faulty fault ∧ fault.Refuses text := by
  obtain ⟨table, marks, decoded, outline⟩ := exists_of_written written
  simp only [DocumentFault.Refuses, read_text, Choices.ofText, decoded]
  rw [← Choices.ofTable_outline, outline, Choices.ofTable]
  rcases Choices.mapM_judged (entries statements) with ⟨chosen, taken, understood⟩ |
    ⟨earlier, entry, later, fault, same, understood, faulty, refused⟩
  · rw [taken]
    exact .inl ⟨fun _ => ⟨_, rfl⟩, understood⟩
  · rw [refused]
    exact .inr ⟨earlier, entry, later, fault, same, understood, faulty, fun _ => ⟨_, rfl⟩⟩

theorem read_accepted (text : String) (environment : String → Option String) :
    (∃ settings, Settings.read (some text) environment = .ok settings) ↔
      ∃ statements, Written text statements ∧ ∀ entry ∈ entries statements, entry.Understood := by
  constructor
  · intro accepted
    by_cases document : ∃ statements, Written text statements
    · obtain ⟨statements, written⟩ := document
      rcases read_written written with ⟨_, understood⟩ | ⟨_, _, _, fault, _, _, _, refused⟩
      · exact ⟨statements, written, understood⟩
      · exact absurd accepted (refused.not_accepted environment)
    · exact absurd accepted ((read_malformed document).not_accepted environment)
  · rintro ⟨statements, written, understood⟩
    rcases read_written written with ⟨accepted, _⟩ | ⟨earlier, entry, later, _, same, _, faulty, _⟩
    · exact accepted environment
    · exact absurd (understood entry (by simp [same])) faulty.not_understood

theorem read_refused (written : Written text statements) (fault : DocumentFault) :
    fault.Refuses text ↔ ∃ earlier entry later, entries statements = earlier ++ entry :: later ∧
      (∀ other ∈ earlier, other.Understood) ∧ entry.Faulty fault := by
  rcases read_written written with ⟨accepted, understood⟩ |
    ⟨earlier, entry, later, first, same, earlierUnderstood, faulty, refused⟩
  · refine iff_of_false (fun refused => ?_) ?_
    · exact refused.not_accepted _ (accepted fun _ => none)
    · rintro ⟨earlier, entry, later, same, _, faulty⟩
      exact faulty.not_understood (understood entry (by simp [same]))
  · constructor
    · intro again
      rw [again.unique refused]
      exact ⟨earlier, entry, later, same, earlierUnderstood, faulty⟩
    · rintro ⟨before, other, after, again, others, otherFaulty⟩
      rwa [← Appearance.first_faulty_unique (same.symm.trans again) earlierUnderstood faulty others
        otherFaulty]

/-- A document is refused for no entry as malformed. -/
theorem read_malformed_iff : DocumentFault.malformed.Refuses text ↔
    ¬ ∃ statements, Written text statements := by
  refine ⟨?_, read_malformed⟩
  rintro refused ⟨statements, written⟩
  obtain ⟨_, _, _, _, _, faulty⟩ := (read_refused written .malformed).mp refused
  cases faulty

/-- A text gives settings if it is a document and all of its entries are understood. Otherwise it is
refused: as malformed if it is no document, and else for the first entry that is not understood. A
refusal is a failure of the configuration, and the environment has no say in it. -/
theorem read_judged (text : String) :
    (∀ environment, (∃ settings, Settings.read (some text) environment = .ok settings) ↔
      ∃ statements, Written text statements ∧
        ∀ entry ∈ entries statements, entry.Understood) ∧
    (DocumentFault.malformed.Refuses text ↔ ¬ ∃ statements, Written text statements) ∧
    (∀ statements, Written text statements → ∀ fault : DocumentFault, fault.Refuses text ↔
      ∃ earlier entry later, entries statements = earlier ++ entry :: later ∧
        (∀ other ∈ earlier, other.Understood) ∧ entry.Faulty fault) ∧
    (∀ environment failure, Settings.read (some text) environment = .error failure →
      failure.code = 10 ∧ failure.hint = none ∧
      failure.text = "config error: failed to parse config" ∧
      (∃ refusal, failure.refusal? = some refusal ∧ failure.chain = [failure.text, refusal.text] ∧
        refusal.fault.Refuses text) ∧
      ∀ other, Settings.read (some text) other = .error failure) ∧
    ∀ name found field,
      DocumentFault.text (.unknownField name) =
        "unknown field `" ++ name ++ "`, expected one of " ++
          ("`cluster_name`, `kube_context`, `bootstrap_script`, `bootstrap_shell`, " ++
            "`orchestrator_ui_url`, `database_hint`") ∧
      DocumentFault.text (.wrongType found field) =
        "invalid type: " ++ found ++ ", expected " ++
          if field = .bootstrapScript then "path string" else "a string" := by
  refine ⟨read_accepted text, read_malformed_iff, fun statements => read_refused,
    fun environment failure refused => ?_, fun name found field =>
      ⟨DocumentFault.text_unknownField name, DocumentFault.text_wrongType found field⟩⟩
  simp only [DocumentFault.Refuses, read_text] at refused ⊢
  cases judged : Choices.ofText text with
  | ok choices =>
      rw [judged] at refused
      cases refused
  | error refusal =>
      rw [judged] at refused
      cases refused
      have document := Choices.document_of_refusal judged
      exact ⟨rfl, rfl, rfl, ⟨refusal, rfl, rfl, fun _ => ⟨refusal.place, by rw [← document]⟩⟩,
        fun _ => rfl⟩

theorem refuses_of_fault? {fault : DocumentFault} (found : Choices.fault? text = some fault) :
    fault.Refuses text := by
  intro environment
  rw [Choices.fault?] at found
  rw [read_text]
  cases judged : Choices.ofText text with
  | ok choices =>
      rw [judged] at found
      cases found
  | error refusal =>
      rw [judged] at found
      obtain rfl := Option.some.inj found
      exact ⟨refusal.place, by rw [← Choices.document_of_refusal judged]⟩

/-- The first name to appear here is not known, and still the document is refused for another one.
It appears in the header of a table inside its own, whose own header comes last. -/
theorem read_declared_later :
    let text := "[a.b]\n[q]\n[a]"
    (∃ statements, Written text statements ∧
      (appearances statements).map (·.name) = ["a", "q", "a"]) ∧
      "a" ∉ Field.all.map Field.key ∧
      ¬ (DocumentFault.unknownField "a").Refuses text ∧
      (DocumentFault.unknownField "q").Refuses text := by
  intro text
  have decoded : (ofText? text).isSome := by decide +kernel
  obtain ⟨statements, written⟩ := ofText?_isSome.mp decoded
  have names : (statements? text.toList).map (fun statements =>
      (appearances statements).map (·.name)) = some ["a", "q", "a"] := by decide +kernel
  rw [statements?_iff.mpr written.1] at names
  have found : Choices.fault? text = some (.unknownField "q") := by decide +kernel
  have refused := refuses_of_fault? found
  refine ⟨⟨statements, written, Option.some.inj names⟩, by decide, fun other => ?_, refused⟩
  exact absurd (other.unique refused) (by decide)

end Settings

end DevCluster
