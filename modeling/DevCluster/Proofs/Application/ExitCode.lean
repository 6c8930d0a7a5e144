import DevCluster.Proofs.Application.Loading
import DevCluster.Proofs.Application.Reporting
import DevCluster.Proofs.Startup.Exit

/-!
The exit codes of runs, for all files, environments, actions and tools.
-/

namespace DevCluster

open Exchange Dialogue Routine

namespace Action

variable {settings : Settings} {dialogue : Dialogue} {result : Except Stop Unit}

theorem down_ends (ends : (Action.down.perform settings).Ends dialogue result)
    (uninterrupted : dialogue.any isInterrupted = false) :
    Unalarmed dialogue ∧ result = .ok () := by
  have unstopped : result ≠ .error .interrupted := by
    rintro rfl
    cases perform_heeds settings (by simp) _ _ ends with
    | calm _ unstopped => exact unstopped rfl
    | interrupted => simp [isInterrupted, Answer.isInterrupted] at uninterrupted
  obtain ⟨_, routed, rfl⟩ := perform_ends ends
  obtain ⟨_, stopped, rfl⟩ := ends_within.mp routed
  have closing := (silent_append.mpr ⟨leaving_silent result, concluding_silent result⟩).unalarmed
  rcases ends_bind.mp stopped with ⟨why, rfl, ended⟩ | ⟨report, own, _, rfl, ended, last⟩
  · obtain rfl := (Shutdown.course_of_ends ended).unfailing
    exact absurd rfl unstopped
  · obtain ⟨rfl, rfl⟩ := ends_note.mp last
    have told := (Shutdown.course_of_ends ended).unalarmed
    rw [unalarmed_append] at closing
    exact ⟨by simp [told, closing, isAlarm], rfl⟩

theorem completions_ends {shell : String}
    (ends : ((Action.completions shell).perform settings).Ends dialogue result) :
    Silent dialogue ∧ result =
      if shell ∈ ["bash", "zsh", "fish"] then .ok ()
      else .error (.failed (.ofKind (.usage s!"unsupported shell: {shell}"))) := by
  obtain ⟨_, routed, rfl⟩ := perform_ends ends
  obtain ⟨own, written, rfl⟩ := ends_within.mp routed
  have known : (Completion.Shell.ofName? shell).isSome ↔ shell ∈ ["bash", "zsh", "fish"] := by
    unfold Completion.Shell.ofName?
    split <;> simp_all
  have writing : Silent own ∧ result =
      if shell ∈ ["bash", "zsh", "fish"] then .ok ()
      else .error (.failed (.ofKind (.usage s!"unsupported shell: {shell}"))) := by
    unfold writeCompletions at written
    cases named : Completion.Shell.ofName? shell with
    | some script =>
        rw [named] at known
        rw [if_pos (known.mp rfl)]
        simp only [named] at written
        obtain ⟨_, _, rfl, noted⟩ := ends_request_bind.mp written
        obtain ⟨rfl, rfl⟩ := ends_note.mp noted
        simp [record?, taken?]
    | none =>
        rw [named] at known
        rw [if_neg (fun listed => Bool.false_ne_true (known.mpr listed))]
        simp only [named] at written
        obtain ⟨rfl, rfl⟩ := ends_fail.mp written
        exact ⟨silent_nil, rfl⟩
  refine ⟨?_, writing.2⟩
  simp [writing.1, leaving_silent, concluding_silent, record?, taken?]

end Action

namespace Application

variable {dialogue : Dialogue} {action : Action}

/-- Acting either stops at a file that is refused, or performs the action with the settings read. -/
theorem act_ends {result : Except Stop Unit} (ends : (act action).Ends dialogue result) :
    ∃ file : SettingsFile, ∃ rest, dialogue = ⟨.settingsFile, file⟩ :: rest ∧
      ((∃ failure detail source, result = .error (.failed failure) ∧ Silent rest ∧
        failure.firstKind? = some (.config detail, source) ∧
        ∀ environment, file.content.Refused environment) ∨
      ∃ settings values opening performed, rest = opening ++ performed ∧ Silent opening ∧
        values.map Prod.fst = overrides ∧ (∀ value ∈ lookUps values, value ∈ opening) ∧
        Settings.read file.content.document? (chosen values) = .ok settings ∧
        (∀ environment, ¬ file.content.Refused environment) ∧
        (action.perform settings).Ends performed result) := by
  rcases ends_bind.mp ends with ⟨why, rfl, stopped⟩ |
    ⟨settings, first, performed, rfl, loaded, acted⟩
  · obtain ⟨file, rest, rfl, silent, ⟨reason, unreadable, same⟩ | ⟨values, _, _, readable, same⟩⟩ :=
      loadSettings_ends stopped
    · cases same
      refine ⟨file, rest, rfl, .inl ⟨_, _, _, rfl, silent, rfl, fun environment => ?_⟩⟩
      rw [unreadable]
      trivial
    · rcases FileContent.judged (chosen values) readable with ⟨_, settled, _⟩ |
        ⟨failure, detail, source, failed, kind, refused⟩
      · rw [settled] at same
        cases same
      · rw [failed] at same
        cases same
        exact ⟨file, rest, rfl, .inl ⟨failure, detail, source, rfl, silent, kind, refused⟩⟩
  · obtain ⟨file, rest, rfl, silent, ⟨_, _, impossible⟩ |
      ⟨values, named, looked, readable, same⟩⟩ := loadSettings_ends loaded
    · cases impossible
    · rcases FileContent.judged (chosen values) readable with ⟨found, settled, accepted⟩ |
        ⟨_, _, _, failed, _⟩
      · rw [settled] at same
        cases same
        refine ⟨file, _, rfl, .inr ⟨settings, values, rest, performed, rfl, silent, ?_⟩⟩
        exact ⟨named, looked, settled, accepted, acted⟩
      · rw [failed] at same
        cases same

theorem Exit.classified {settings : Settings} {acted : Except Stop Unit}
    (exit : Startup.Exit settings dialogue acted) : Classified acted := by
  cases exit with
  | success => exact .inl rfl
  | hindrance first => exact .inr ⟨_, _, rfl, first⟩
  | stranding first => exact .inr ⟨_, _, rfl, first⟩

def Acted (settings : Settings) (dialogue : Dialogue) (acted : Except Stop Unit) : Action → Prop
  | .up => Startup.Exit settings dialogue acted
  | .down => acted = .ok ()
  | .completions shell =>
    acted = if shell ∈ ["bash", "zsh", "fish"] then .ok ()
      else .error (.failed (.ofKind (.usage s!"unsupported shell: {shell}")))

theorem performed {settings : Settings} {acted : Except Stop Unit}
    (ends : (action.perform settings).Ends dialogue acted)
    (uninterrupted : action = .down → dialogue.any isInterrupted = false) :
    Unalarmed dialogue ∧ Classified acted ∧ Acted settings dialogue acted action := by
  cases action with
  | up =>
      obtain ⟨own, outcome, rest, started, rfl, silent, rfl⟩ := Action.up_ends ends
      have course := Startup.course_of_ends started
      have exit : Startup.Exit settings (entered (.start settings.clusterName) :: (own ++ rest))
          (outcome.map fun _ => ()) := by
        refine course.exit.map.congr ?_ ?_
        · change (journal (own ++ rest)).calls = _
          rw [journal_append, silent.journal, List.append_nil]
        · change consumed (own ++ rest) = _
          rw [consumed_append, silent.quiet.calm.consumed, Nat.add_zero]
      refine ⟨?_, Exit.classified exit, exit⟩
      simp [course.unalarmed, silent.unalarmed, isAlarm]
  | down =>
      obtain ⟨unalarmed, rfl⟩ := Action.down_ends ends (uninterrupted rfl)
      exact ⟨unalarmed, .inl rfl, rfl⟩
  | completions shell =>
      obtain ⟨silent, rfl⟩ := Action.completions_ends ends
      refine ⟨silent.unalarmed, ?_, rfl⟩
      split
      · exact .inl rfl
      · exact .inr ⟨_, _, rfl, rfl⟩

theorem Finish.code_of_refusal {failure : Failure} {detail : String} {source : Option Failure}
    {code : Int} (finish : Finish dialogue (.error (.failed failure)) code)
    (kind : failure.firstKind? = some (.config detail, source)) : code = 10 := by
  cases finish with
  | failure found =>
      rw [kind] at found
      cases found
      rfl

theorem Finish.code_of_completions {shell : String} {acted : Except Stop Unit} {code : Int}
    (finish : Finish dialogue acted code)
    (ended : acted = if shell ∈ ["bash", "zsh", "fish"] then .ok ()
      else .error (.failed (.ofKind (.usage s!"unsupported shell: {shell}")))) :
    code = if shell ∈ ["bash", "zsh", "fish"] then 0 else 2 := by
  subst ended
  by_cases listed : shell ∈ ["bash", "zsh", "fish"]
  · rw [if_pos listed]
    rw [if_pos listed] at finish
    cases finish
    rfl
  · rw [if_neg listed]
    rw [if_neg listed] at finish
    cases finish with
    | failure found =>
        cases found
        rfl

theorem Finish.code_of_exit {settings : Settings} {acted : Except Stop Unit} {code : Int}
    (finish : Finish dialogue acted code) (exit : Startup.Exit settings dialogue acted) :
    (code = 0 ∨ code = 1 ∨ code = 20) ∧
      (code = 0 ↔ Startup.Concluded dialogue) ∧
      (code = 1 ↔ Startup.Hindered settings dialogue) ∧
      (code = 20 ↔ Startup.Stranded dialogue) := by
  cases exit with
  | success concluded unhindered unstranded =>
      cases finish with
      | success => simp [concluded, unhindered, unstranded]
  | hindrance first one unconcluded hindered unstranded =>
      cases finish with
      | failure found =>
          rw [first] at found
          cases found
          simp [one, unconcluded, hindered, unstranded]
  | stranding first twenty unconcluded unhindered stranded =>
      cases finish with
      | failure found =>
          rw [first] at found
          cases found
          simp [twenty, unconcluded, unhindered, stranded]

theorem Finish.code_of_performed {settings : Settings} {performed : Dialogue}
    {acted : Except Stop Unit} {code : Int} (finish : Finish dialogue acted code)
    (calls : dialogue.journal.calls = performed.journal.calls)
    (taken : dialogue.consumed = performed.consumed)
    (ended : Acted settings performed acted action) :
    (action = .down → code = 0) ∧
      (∀ shell, action = .completions shell →
        code = if shell ∈ ["bash", "zsh", "fish"] then 0 else 2) ∧
      (action = .up →
        (code = 0 ∨ code = 1 ∨ code = 20) ∧
        (code = 0 ↔ Startup.Concluded dialogue) ∧
        (code = 1 ↔ Startup.Hindered settings dialogue) ∧
        (code = 20 ↔ Startup.Stranded dialogue)) := by
  refine ⟨?_, ?_, ?_⟩
  · rintro rfl
    cases ended
    cases finish
    rfl
  · rintro shell rfl
    exact finish.code_of_completions ended
  · rintro rfl
    exact finish.code_of_exit (Startup.Exit.congr ended calls taken)

theorem calls_between {opening rest : Dialogue} (performed : Dialogue) (silent : Silent opening)
    (uncalled : rest.journal.calls = []) :
    (journal (opening ++ performed ++ rest)).calls = performed.journal.calls := by
  rw [journal_append, journal_append, silent.journal, Journal.calls_append, uncalled]
  simp

theorem consumed_between {opening rest : Dialogue} (performed : Dialogue) (silent : Silent opening)
    (untaken : rest.consumed = 0) :
    consumed (opening ++ performed ++ rest) = performed.consumed := by
  rw [consumed_append, consumed_append, silent.quiet.calm.consumed, untaken]
  simp

theorem exit_of_ends {result : Except Stop Int} (ends : (run action).Ends dialogue result)
    (uninterrupted : action = .down → dialogue.any isInterrupted = false) :
    ∃ file : SettingsFile, ∃ rest code, dialogue = ⟨.settingsFile, file⟩ :: rest ∧
      result = .ok code ∧ code ≠ 30 ∧
      (∀ environment, code = 10 ↔ file.content.Refused environment) ∧
      (code = 10 → dialogue.journal.calls = []) ∧
      (code ≠ 10 →
        (action = .down → code = 0) ∧
        (∀ shell, action = .completions shell →
          code = if shell ∈ ["bash", "zsh", "fish"] then 0 else 2) ∧
        (action = .up → ∃ settings values, values.map Prod.fst = overrides ∧
          (∀ value ∈ lookUps values, value ∈ dialogue) ∧
          Settings.read file.content.document? (chosen values) = .ok settings ∧
          (code = 0 ∨ code = 1 ∨ code = 20) ∧
          (code = 0 ↔ Startup.Concluded dialogue) ∧
          (code = 1 ↔ Startup.Hindered settings dialogue) ∧
          (code = 20 ↔ Startup.Stranded dialogue))) ∧
      ∃ own acted, own <+: dialogue ∧ (act action).Ends own acted ∧ Finish dialogue acted code := by
  obtain ⟨own, acted, rest, actEnds, rfl, finishes⟩ := run_finishes ends
  have opens : own <+: own ++ rest := List.prefix_append own rest
  -- Either the file is refused and nothing is performed, or the action decides the code.
  obtain ⟨file, others, rfl, ⟨failure, detail, source, rfl, silent, kind, refused⟩ |
    ⟨settings, values, opening, done, rfl, silent, named, looked, settled, accepted, acts⟩⟩ :=
    act_ends actEnds
  · obtain ⟨code, same, finish, uncalled, _⟩ :=
      finishes (by simp [silent.unalarmed, isAlarm]) (.inr ⟨_, _, rfl, kind⟩)
    have ten := finish.code_of_refusal kind
    refine ⟨file, _, code, rfl, same, finish.code_ne, ?_, ?_, ?_, _, _, opens, actEnds, finish⟩
    · simp [ten, refused]
    · intro _
      have opening : Silent (⟨.settingsFile, file⟩ :: others) :=
        silent_cons.mpr ⟨⟨rfl, rfl⟩, silent⟩
      rw [journal_append, opening.journal]
      exact uncalled
    · simp [ten]
  · have opened : Silent (⟨.settingsFile, file⟩ :: opening) :=
      silent_cons.mpr ⟨⟨rfl, rfl⟩, silent⟩
    obtain ⟨unalarmed, classified, ended⟩ := performed acts (fun stops => by
      have quiet := uninterrupted stops
      simp only [List.any_append, List.any_cons, Bool.or_eq_false_iff] at quiet
      exact quiet.1.2.2)
    rw [← List.cons_append] at finishes opens actEnds ⊢
    obtain ⟨code, same, finish, uncalled, untaken⟩ :=
      finishes (unalarmed_append.mpr ⟨opened.unalarmed, unalarmed⟩) classified
    have calls := calls_between done opened uncalled
    have taken := consumed_between done opened untaken
    obtain ⟨down, completions, up⟩ := finish.code_of_performed calls taken ended
    have other : code ≠ 10 := by
      cases action with
      | up =>
          have codes := (up rfl).1
          omega
      | down => simp [down rfl]
      | completions shell =>
          rw [completions shell rfl]
          split <;> decide
    refine ⟨file, _, code, rfl, same, finish.code_ne, ?_, ?_, ?_, _, _, opens, actEnds, finish⟩
    · simp [other, accepted]
    · intro ten
      exact absurd ten other
    · refine fun _ => ⟨down, completions, fun starts => ?_⟩
      refine ⟨settings, values, named, fun value member => ?_, settled, up starts⟩
      simp [looked value member]

/-- The exit code of a run, whatever the file, the environment and the tools do: 10 exactly if the
file is refused, before anything is called; otherwise that of the action. A run that fails tells of
it in one line on the standard error, by the failure that gives the exit code. -/
theorem run_exit_code {σ : Type} (host : Host σ) (action : Action) (state : σ)
    (uninterrupted : action = .down →
      ((run action).dialogue host state).any isInterrupted = false) :
    let dialogue := (run action).dialogue host state
    ∃ file : SettingsFile, ∃ rest code, dialogue = ⟨.settingsFile, file⟩ :: rest ∧
      ((run action).run host state).1 = .ok code ∧ code ≠ 30 ∧
      (∀ environment, code = 10 ↔ file.content.Refused environment) ∧
      (code = 10 → dialogue.journal.calls = []) ∧
      (code ≠ 10 →
        (action = .down → code = 0) ∧
        (∀ shell, action = .completions shell →
          code = if shell ∈ ["bash", "zsh", "fish"] then 0 else 2) ∧
        (action = .up → ∃ settings values, values.map Prod.fst = overrides ∧
          (∀ value ∈ lookUps values, value ∈ dialogue) ∧
          Settings.read file.content.document? (chosen values) = .ok settings ∧
          (code = 0 ∨ code = 1 ∨ code = 20) ∧
          (code = 0 ↔ Startup.Concluded dialogue) ∧
          (code = 1 ↔ Startup.Hindered settings dialogue) ∧
          (code = 20 ↔ Startup.Stranded dialogue))) ∧
      Finish dialogue ((act action).run host state).1 code := by
  have ends := ends_dialogue host (run action) state
  obtain ⟨file, rest, code, opening, same, notSystem, refused, uncalled, codes, own, acted,
    ⟨others, split⟩, actEnds, finish⟩ := exit_of_ends ends uninterrupted
  have replies := replies_dialogue host (run action) state
  rw [← split] at replies
  obtain ⟨between, first, _⟩ := Host.replies_append.mp replies
  rw [run_of_ends actEnds first]
  exact ⟨file, rest, code, opening, same, notSystem, refused, uncalled, codes, finish⟩

theorem down_exit_code :
    let session : Session := { missing := ["pkill"], interruptPending := true }
    ((run .down).dialogue Session.host (session, [])).any isInterrupted = false ∧
      ((run .down).run Session.host (session, [])).1 = .ok 0 := by
  intro session
  have quiet : ((run .down).dialogue Session.host (session, [])).any isInterrupted = false := by
    rfl
  obtain ⟨_, _, code, opening, same, _, refused, _, codes, _⟩ :=
    run_exit_code Session.host .down (session, []) fun _ => quiet
  cases (List.cons.inj opening).1
  have other : code ≠ 10 := fun ten => (refused fun _ => none).mp ten
  rw [same, (codes other).1 rfl]
  exact ⟨quiet, rfl⟩

end Application

end DevCluster
