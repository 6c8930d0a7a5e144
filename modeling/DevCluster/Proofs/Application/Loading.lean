import DevCluster.Application
import DevCluster.Proofs.Action

/-!
How the settings are loaded: from the file, if it can be read, and the variables that are looked up.
-/

namespace DevCluster

open Exchange Dialogue Routine

def FileContent.document? : FileContent → Option String
  | .text content => some content
  | _ => none

/-- Whether the file keeps a run from having settings: it is there, but cannot be read, or is not a
document of settings. -/
def FileContent.Refused (environment : Environment) : FileContent → Prop
  | .absent => False
  | .unreadable _ => True
  | .text content => ∃ failure, Settings.read (some content) environment = .error failure

theorem Settings.read_text (content : String) (environment : Environment) :
    Settings.read (some content) environment =
      match Choices.ofText content with
      | .ok choices => .ok (ofChoices ((Choices.ofEnvironment environment).above choices))
      | .error refusal =>
        .error (.layered (.kind (.config "failed to parse config"))
          (.root (.document refusal))) := by
  rw [Settings.read, Settings.ofSources]
  cases Choices.ofText content <;> rfl

/-- A file that can be read either gives settings, whatever the environment, or none at all. -/
theorem FileContent.judged {content : FileContent} (environment : Environment)
    (readable : ∀ reason, content ≠ .unreadable reason) :
    (∃ settings, Settings.read content.document? environment = .ok settings ∧
      ∀ other, ¬ content.Refused other) ∨
    ∃ failure detail source, Settings.read content.document? environment = .error failure ∧
      failure.firstKind? = some (.config detail, source) ∧ ∀ other, content.Refused other := by
  cases content with
  | absent => exact .inl ⟨_, rfl, fun _ => id⟩
  | unreadable reason => exact absurd rfl (readable reason)
  | text content =>
      simp only [document?, Refused, Settings.read_text]
      cases Choices.ofText content with
      | ok choices => exact .inl ⟨_, rfl, by simp⟩
      | error refusal => exact .inr ⟨_, _, _, rfl, rfl, by simp⟩

namespace Application

def chosen (values : List (String × Option String)) : Environment :=
  ((values.filterMap fun (name, value) => value.map (name, ·)).lookup ·)

def lookUps (values : List (String × Option String)) : Dialogue :=
  values.map fun value => ⟨.lookUp value.1, value.2⟩

variable {dialogue : Dialogue}

theorem lookUps_of_ends {names : List String} {found : List (String × Option String)}
    {result : Except Stop (List (String × Option String))}
    (ends : (List.mapM.loop (fun name => return (name, ← Routine.request (.lookUp name))) names
      found : Routine _).Ends dialogue result) :
    ∃ values, values.map Prod.fst = names ∧ dialogue = lookUps values ∧
      result = .ok (found.reverse ++ values) := by
  induction names generalizing found dialogue with
  | nil =>
      obtain ⟨rfl, rfl⟩ := ends
      exact ⟨[], rfl, rfl, by simp⟩
  | cons name names ih =>
      obtain ⟨value, rest, rfl, others⟩ := ends
      obtain ⟨values, rfl, rfl, rfl⟩ := ih others
      exact ⟨(name, value) :: values, rfl, rfl, by simp⟩

theorem readEnvironment_ends {result : Except Stop (List (String × String))}
    (ends : readEnvironment.Ends dialogue result) :
    ∃ values, values.map Prod.fst = overrides ∧ dialogue = lookUps values ∧
      result = .ok (values.filterMap fun (name, value) => value.map (name, ·)) := by
  rcases ends_bind.mp ends with ⟨why, rfl, stopped⟩ | ⟨found, first, _, rfl, looked, rfl, rfl⟩
  · obtain ⟨_, _, _, impossible⟩ := lookUps_of_ends stopped
    cases impossible
  · obtain ⟨values, named, rfl, same⟩ := lookUps_of_ends looked
    cases same
    exact ⟨values, named, List.append_nil _, rfl⟩

theorem lookUps_silent (values : List (String × Option String)) : Silent (lookUps values) := by
  intro exchange member
  obtain ⟨value, _, rfl⟩ := List.mem_map.mp member
  exact ⟨rfl, rfl⟩

theorem settle_ends {present : Bool} {settings : Except Failure Settings}
    {result : Except Stop Settings} (ends : (settle present settings).Ends dialogue result) :
    Silent dialogue ∧ result = settings.mapError .failed := by
  have concluded {first last : Dialogue} (silent : Silent first)
      (ends : (ofExcept settings).Ends last result) :
      Silent (first ++ last) ∧ result = settings.mapError .failed := by
    obtain ⟨rfl, rfl⟩ := ends_ofExcept.mp ends
    exact ⟨by simpa using silent, rfl⟩
  have noting (event : Event) : Silent [noted event] := by simp [record?, taken?]
  cases settings with
  | ok settings =>
      cases present with
      | true =>
          obtain ⟨last, rfl, ended⟩ := ends_note_bind.mp ends
          exact concluded (noting _) ended
      | false => exact concluded silent_nil ends
  | error failure =>
      cases refused : failure.refusal? with
      | some refusal =>
          simp only [settle, refused] at ends
          obtain ⟨last, rfl, ended⟩ := ends_note_bind.mp ends
          exact concluded (noting _) ended
      | none =>
          simp only [settle, refused] at ends
          exact concluded silent_nil ends

theorem choose_ends {document : Option String} {result : Except Stop Settings}
    (ends : (choose document).Ends dialogue result) :
    ∃ values rest, values.map Prod.fst = overrides ∧ dialogue = lookUps values ++ rest ∧
      Silent rest ∧ result = (Settings.read document (chosen values)).mapError .failed := by
  rcases ends_bind.mp ends with ⟨why, rfl, stopped⟩ | ⟨environment, first, rest, rfl, looked, last⟩
  · obtain ⟨_, _, _, impossible⟩ := readEnvironment_ends stopped
    cases impossible
  · obtain ⟨values, named, rfl, same⟩ := readEnvironment_ends looked
    cases same
    obtain ⟨silent, rfl⟩ := settle_ends last
    exact ⟨values, rest, named, rfl, silent, rfl⟩

/-- Loading asks for the file and the variables, and fails exactly if the file is refused. -/
theorem loadSettings_ends {result : Except Stop Settings}
    (ends : loadSettings.Ends dialogue result) :
    ∃ file : SettingsFile, ∃ rest, dialogue = ⟨.settingsFile, file⟩ :: rest ∧ Silent rest ∧
      ((∃ reason, file.content = .unreadable reason ∧
        result = .error (.failed (unreadable file.path reason))) ∨
      ∃ values, values.map Prod.fst = overrides ∧ (∀ value ∈ lookUps values, value ∈ rest) ∧
        (∀ reason, file.content ≠ .unreadable reason) ∧
        result = (Settings.read file.content.document? (chosen values)).mapError .failed) := by
  obtain ⟨file, _, rfl, sought⟩ := ends_request_bind.mp ends
  obtain ⟨rest, rfl, others⟩ := ends_note_bind.mp sought
  refine ⟨file, _, rfl, ?_⟩
  obtain ⟨path, content⟩ := file
  cases content with
  | absent =>
      obtain ⟨values, last, named, rfl, silent, rfl⟩ := choose_ends others
      refine ⟨?_, .inr ⟨values, named, ?_, by simp, rfl⟩⟩
      · simp [silent, lookUps_silent, record?, taken?]
      · intro value member
        simp [member]
  | unreadable reason =>
      obtain ⟨rfl, rfl⟩ := ends_fail.mp others
      exact ⟨by simp [record?, taken?], .inl ⟨reason, rfl, rfl⟩⟩
  | text content =>
      obtain ⟨_, rfl, chosen⟩ := ends_note_bind.mp others
      obtain ⟨values, last, named, rfl, silent, rfl⟩ := choose_ends chosen
      refine ⟨?_, .inr ⟨values, named, ?_, by simp, rfl⟩⟩
      · simp [silent, lookUps_silent, record?, taken?]
      · intro value member
        simp [member]

end Application

end DevCluster
