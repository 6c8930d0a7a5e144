import DevCluster.Proofs.Arguments.Options

/-!
The grammar of command lines, and that exactly these are accepted, each with the one invocation that
it stands for.
-/

namespace DevCluster.Arguments

def LogFormat.name : LogFormat → String
  | auto => "auto"
  | text => "text"
  | json => "json"

/-- The options of the program, each at most once and in any order. -/
inductive LogOptions : Option String → Option LogFormat → List String → Prop
  | none : LogOptions none none []
  | level {level words} : Spelled "--log-level" level words → LogOptions (some level) none words
  | format {format words} : Spelled "--log-format" format.name words →
      LogOptions none (some format) words
  | levelFirst {level format first second} : Spelled "--log-level" level first →
      Spelled "--log-format" format.name second →
      LogOptions (some level) (some format) (first ++ second)
  | formatFirst {level format first second} : Spelled "--log-format" format.name first →
      Spelled "--log-level" level second → LogOptions (some level) (some format) (first ++ second)

/-- A subcommand with its options. -/
inductive Demand : Action → List String → Prop
  | up : Demand .up ["up"]
  | down : Demand .down ["down"]
  | completions : Demand (.completions "bash") ["completions"]
  | completionsFor {shell words} : Spelled "--shell" shell words →
      Demand (.completions shell) ("completions" :: words)

inductive CommandLine : List String → Invocation → Prop
  | of {options demand ending level format action} (program : String) :
      LogOptions level format options → Demand action demand → ending = [] ∨ ending = ["--"] →
      CommandLine (program :: (options ++ demand ++ ending))
        { logLevel := level.getD "info", logFormat := format.getD .auto, action }

theorem LogFormat.ofName?_eq_some {text : String} {format : LogFormat} :
    ofName? text = some format ↔ text = format.name := by
  constructor
  · intro named
    unfold ofName? at named
    split at named <;> cases named <;> rfl
  · rintro rfl
    cases format <;> rfl

theorem Subcommand.ofName?_eq_some {word : String} {command : Subcommand} :
    ofName? word = some command ↔ word = command.name := by
  constructor
  · intro named
    simpa [eq_comm] using List.find?_some named
  · rintro rfl
    cases command <;> decide

/-- What a subcommand asks for with a shell, if it asks for anything but help. -/
def Subcommand.action? (shell : String) : Subcommand → Option Action
  | up => some .up
  | down => some .down
  | completions => some (.completions shell)
  | help => none

open Reading

variable {words : List String} {invocation : Invocation} {reading last : Reading}
  {given : List (ValueOption × String)}

/-- No word that belongs to an option is taken for a subcommand. -/
theorem Reading.Taken.ofName?_eq_none {scope : Scope} {word : String}
    (taken : Taken scope reading word last) (unawaited : reading.awaited? = none) :
    Subcommand.ofName? word = none := by
  have dashed (others : String) : Subcommand.ofName? ("--" ++ others) = none := by
    rw [Option.eq_none_iff_forall_ne_some]
    intro command named
    have same := congrArg String.toList (Subcommand.ofName?_eq_some.mp named)
    rw [String.toList_append] at same
    cases command <;> cases same
  cases taken with
  | ends => exact dashed ""
  | begins => exact dashed _
  | joins =>
      rw [String.append_assoc, String.append_assoc]
      exact dashed _
  | supplies awaits =>
      rw [unawaited] at awaits
      cases awaits

theorem ofReadings_eq_ok {outer inner : Reading} {command : Subcommand} :
    Invocation.ofReadings outer command inner = .ok invocation ↔
      ∃ settled, outer.settle none = .ok settled ∧
        settled.valueOf .logLevel = invocation.logLevel ∧
        LogFormat.ofName? (settled.valueOf .logFormat) = some invocation.logFormat ∧
        command.action? (inner.valueOf .shell) = some invocation.action := by
  obtain ⟨logLevel, logFormat, action⟩ := invocation
  cases settled : outer.settle none with
  | error complaint =>
      cases command <;> simp [Invocation.ofReadings, settled, bind, Except.bind]
  | ok reading =>
      cases format : LogFormat.ofName? (reading.valueOf .logFormat) with
      | none =>
          cases command <;>
            simp [Invocation.ofReadings, settled, format, bind, Except.bind]
      | some named =>
          cases command <;>
            simp [Invocation.ofReadings, settled, format, bind, Except.bind, pure, Except.pure,
              Subcommand.action?]

theorem readWords_command {command : Subcommand} (unended : reading.ended = false)
    (unawaited : reading.awaited? = none) :
    Invocation.readWords reading (command.name :: words) = .ok invocation ↔
      ∃ inner, Reading.readWords (some command) {} words = .ok inner ∧
        Invocation.ofReadings reading command inner = .ok invocation := by
  have named : (if reading.ended || reading.awaited?.isSome then none
      else Subcommand.ofName? command.name) = some command := by
    simp [unended, unawaited, Subcommand.ofName?_eq_some]
  rw [Invocation.readWords]
  simp only [named]
  cases read : Reading.readWords (some command) {} words with
  | error complaint => cases command <;> simp [read, bind, Except.bind]
  | ok inner => cases command <;> simp [read, bind, Except.bind, Invocation.ofReadings]

theorem readWords_option {word : String}
    (other : reading.ended = false → reading.awaited? = none → Subcommand.ofName? word = none) :
    Invocation.readWords reading (word :: words) =
      reading.readWord none word words >>= (Invocation.readWords · words) := by
  rw [Invocation.readWords]
  have unnamed : (if reading.ended || reading.awaited?.isSome then none
      else Subcommand.ofName? word) = none := by
    split
    · rfl
    · rename_i free
      simp only [Bool.or_eq_true, not_or, Bool.not_eq_true, Option.isSome_eq_false_iff,
        Option.isNone_iff_eq_none] at free
      exact other free.1 free.2
  simp only [unnamed]

/-- A command line is read as options of the program up to the subcommand, and then as options of
this. -/
theorem readWords_eq_ok : Invocation.readWords reading words = .ok invocation ↔
    ∃ options command others last inner, words = options ++ command.name :: others ∧
      Path none reading options last ∧ last.ended = false ∧ last.awaited? = none ∧
      Reading.readWords (some command) {} others = .ok inner ∧
      Invocation.ofReadings last command inner = .ok invocation := by
  induction words generalizing reading with
  | nil =>
      constructor
      · intro read
        cases settled : reading.settle none with
        | error complaint => simp [Invocation.readWords, settled, bind, Except.bind] at read
        | ok settled => simp [Invocation.readWords, settled, bind, Except.bind] at read
      · rintro ⟨options, command, others, _, _, empty, _⟩
        simp at empty
  | cons word words ih =>
      constructor
      · intro read
        by_cases other : reading.ended = false → reading.awaited? = none →
            Subcommand.ofName? word = none
        · rw [readWords_option other] at read
          cases first : reading.readWord none word words with
          | error complaint => simp [first, bind, Except.bind] at read
          | ok between =>
              simp only [first, bind, Except.bind] at read
              obtain ⟨unended, taken⟩ := readWord_eq_ok.mp first
              obtain ⟨options, command, others, last, inner, rfl, path, ready⟩ := ih.mp read
              exact ⟨word :: options, command, others, last, inner, rfl,
                .step unended taken path, ready⟩
        -- The word is a subcommand, and the options of the program end before it.
        · simp only [Classical.not_imp] at other
          obtain ⟨unended, unawaited, some⟩ := other
          obtain ⟨command, named⟩ := Option.ne_none_iff_exists'.mp some
          obtain rfl := Subcommand.ofName?_eq_some.mp named
          obtain ⟨inner, rest, made⟩ := (readWords_command unended unawaited).mp read
          exact ⟨[], command, words, reading, inner, rfl, .refl, unended, unawaited, rest, made⟩
      · rintro ⟨options, command, others, last, inner, same, path, unended, unawaited, rest, made⟩
        cases path with
        | refl =>
            cases same
            exact (readWords_command unended unawaited).mpr ⟨inner, rest, made⟩
        | @step _ _ between options _ open_ taken path =>
            rw [List.cons_append] at same
            obtain ⟨rfl, rfl⟩ := List.cons.inj same
            rw [readWords_option fun _ => taken.ofName?_eq_none]
            have read : reading.readWord none word (options ++ command.name :: others) =
                .ok between := readWord_eq_ok.mpr ⟨open_, taken⟩
            simp only [read, bind, Except.bind]
            exact ih.mpr ⟨options, command, others, last, inner, rfl, path, unended, unawaited,
              rest, made⟩

theorem Invocation.ofWords_eq_ok : ofWords words = .ok invocation ↔
    ∃ program given options command chosen spelled ending,
      words = program :: (options ++ command.name :: (spelled ++ ending)) ∧
      (ending = [] ∨ ending = ["--"]) ∧
      Options none given options ∧ Options (some command) chosen spelled ∧
      (given.lookup .logLevel).getD "info" = invocation.logLevel ∧
      LogFormat.ofName? ((given.lookup .logFormat).getD "auto") = some invocation.logFormat ∧
      command.action? ((chosen.lookup .shell).getD "bash") = some invocation.action := by
  constructor
  · intro read
    obtain ⟨options, command, others, last, inner, same, path, unended, unawaited, rest, made⟩ :=
      readWords_eq_ok.mp read
    obtain ⟨settled, settles, level, format, action⟩ := ofReadings_eq_ok.mp made
    have reads : Reads none last options := (Reads.complete Options.none).path path
    obtain ⟨_, _, given⟩ := reads.settle unended settles
    obtain ⟨spelled, ending, rfl, closes, chosen⟩ :=
      (readWords_iff_options inner.given).mp ⟨inner, rest, rfl⟩
    cases words with
    | nil => simp at same
    | cons program words =>
        obtain rfl : words = _ := same
        exact ⟨program, _, options, command, _, spelled, ending, rfl, closes, given, chosen, level,
          format, action⟩
  · rintro ⟨program, given, options, command, chosen, spelled, ending, rfl, closes, options_given,
      command_given, level, format, action⟩
    obtain ⟨last, path, ready⟩ := path_of_options options_given
    obtain ⟨inner, read, rfl⟩ :=
      (readWords_iff_options chosen).mpr ⟨spelled, ending, rfl, closes, command_given⟩
    refine readWords_eq_ok.mpr ⟨options, command, _, last, inner, rfl, path, ready.unended,
      ready.unawaited, read, ofReadings_eq_ok.mpr ⟨_, ready.settles, level, format, action⟩⟩

theorem allowed_format {value : String}
    (allowed : ValueOption.logFormat.choices = [] ∨ value ∈ ValueOption.logFormat.choices) :
    ∃ format : LogFormat, value = format.name := by
  have listed : value = "auto" ∨ value = "text" ∨ value = "json" := by
    simpa [ValueOption.choices] using allowed
  rcases listed with rfl | rfl | rfl
  · exact ⟨.auto, rfl⟩
  · exact ⟨.text, rfl⟩
  · exact ⟨.json, rfl⟩

theorem format_allowed (format : LogFormat) : format.name ∈ ValueOption.logFormat.choices := by
  cases format <;> decide

theorem logOptions_of_options {words : List String} (options : Options none given words) :
    ∃ level format, LogOptions level format words ∧ given.lookup .logLevel = level ∧
      given.lookup .logFormat = format.map LogFormat.name := by
  have either {option : ValueOption} (offered : option ∈ Scope.options none) :
      option = .logLevel ∨ option = .logFormat := by
    simpa [Scope.options] using offered
  have few := options.length_le
  -- The program has two options, so that a third one is too many.
  cases options with
  | none => exact ⟨none, none, .none, rfl, rfl⟩
  | more others offered fresh allowed spelled =>
    cases others with
    | none =>
      rcases either offered with rfl | rfl
      · exact ⟨_, none, .level spelled, rfl, rfl⟩
      · obtain ⟨format, rfl⟩ := allowed_format allowed
        exact ⟨none, some format, .format spelled, rfl, rfl⟩
    | more others first _ allowedFirst spelledFirst =>
      cases others with
      | none =>
        rcases either first with rfl | rfl
        · rcases either offered with rfl | rfl
          · simp at fresh
          · obtain ⟨format, rfl⟩ := allowed_format allowed
            exact ⟨_, some format, .levelFirst spelledFirst spelled, rfl, rfl⟩
        · rcases either offered with rfl | rfl
          · obtain ⟨format, rfl⟩ := allowed_format allowedFirst
            exact ⟨_, some format, .formatFirst spelledFirst spelled, rfl, rfl⟩
          · simp at fresh
      | more => simp [Scope.options] at few

theorem options_of_logOptions {level : Option String} {format : Option LogFormat}
    {words : List String} (options : LogOptions level format words) :
    ∃ given, Options none given words ∧ given.lookup .logLevel = level ∧
      given.lookup .logFormat = format.map LogFormat.name := by
  have leveled {level : String} {given : List (ValueOption × String)} {first second : List String}
      (others : Options none given first) (fresh : given.lookup .logLevel = none)
      (spelled : Spelled "--log-level" level second) :
      Options none (given ++ [(.logLevel, level)]) (first ++ second) :=
    .more others (by simp [Scope.options]) fresh (.inl rfl) spelled
  have formatted {format : LogFormat} {given : List (ValueOption × String)}
      {first second : List String} (others : Options none given first)
      (fresh : given.lookup .logFormat = none)
      (spelled : Spelled "--log-format" format.name second) :
      Options none (given ++ [(.logFormat, format.name)]) (first ++ second) :=
    .more others (by simp [Scope.options]) fresh (.inr (format_allowed format)) spelled
  cases options with
  | none => exact ⟨[], .none, rfl, rfl⟩
  | level spelled => exact ⟨_, leveled .none rfl spelled, rfl, rfl⟩
  | format spelled => exact ⟨_, formatted .none rfl spelled, rfl, rfl⟩
  | levelFirst first second =>
      have options := formatted (leveled .none rfl first) rfl second
      exact ⟨_, by simpa using options, rfl, rfl⟩
  | formatFirst first second =>
      have options := leveled (formatted .none rfl first) rfl second
      exact ⟨_, by simpa using options, rfl, rfl⟩

theorem demand_iff {action : Action} : Demand action words ↔
    ∃ command chosen spelled, words = command.name :: spelled ∧
      Options (some command) chosen spelled ∧
      command.action? ((chosen.lookup .shell).getD "bash") = some action := by
  constructor
  · intro demand
    cases demand with
    | up => exact ⟨.up, [], [], rfl, .none, rfl⟩
    | down => exact ⟨.down, [], [], rfl, .none, rfl⟩
    | completions => exact ⟨.completions, [], [], rfl, .none, rfl⟩
    | @completionsFor shell words spelled =>
        have offered : ValueOption.shell ∈ Scope.options (some .completions) := by decide
        exact ⟨.completions, [(.shell, shell)], words, rfl,
          .more .none offered rfl (.inl rfl) spelled, rfl⟩
  · rintro ⟨command, chosen, spelled, rfl, options, asked⟩
    have few := options.length_le
    cases options with
    | none => cases command <;> cases asked <;> constructor
    | more others offered fresh allowed spells =>
        cases command with
        | completions =>
            cases others with
            | none =>
                obtain rfl := List.mem_singleton.mp offered
                cases asked
                exact .completionsFor spells
            | more => simp [Scope.options] at few
        | _ => simp [Scope.options] at offered

theorem Invocation.ofWords_eq_ok_iff :
    ofWords words = .ok invocation ↔ CommandLine words invocation := by
  have chosen (format : Option LogFormat) :
      LogFormat.ofName? ((format.map LogFormat.name).getD "auto") = some (format.getD .auto) := by
    cases format with
    | none => rfl
    | some format => exact LogFormat.ofName?_eq_some.mpr rfl
  rw [ofWords_eq_ok]
  constructor
  · rintro ⟨program, given, options, command, offered, spelled, ending, rfl, closes, ofProgram,
      ofCommand, level, named, asked⟩
    obtain ⟨logLevel, logFormat, action⟩ := invocation
    obtain ⟨givenLevel, givenFormat, options, sameLevel, sameFormat⟩ :=
      logOptions_of_options ofProgram
    have demand := demand_iff.mpr ⟨command, offered, spelled, rfl, ofCommand, asked⟩
    rw [sameLevel] at level
    rw [sameFormat, chosen, Option.some.injEq] at named
    obtain rfl : givenLevel.getD "info" = logLevel := level
    obtain rfl : givenFormat.getD .auto = logFormat := named
    have line := CommandLine.of program options demand closes
    simpa using line
  · rintro ⟨program, options, demand, closes⟩
    obtain ⟨given, ofProgram, sameLevel, sameFormat⟩ := options_of_logOptions options
    obtain ⟨command, offered, spelled, rfl, ofCommand, asked⟩ := demand_iff.mp demand
    refine ⟨program, given, _, command, offered, spelled, _, ?_, closes, ofProgram, ofCommand,
      ?_, ?_, asked⟩
    · rw [List.append_assoc, List.cons_append]
    · rw [sameLevel]
    · rw [sameFormat, chosen]

/-- A command line asks for what the grammar gives it, and for nothing if that is nothing: then it
is answered at once, with the code 0 on the standard output or with 2 on the standard error. -/
theorem asks_iff_commandLine (words : List String) (invocation : Invocation) :
    (Invocation.ofWords words = .ok invocation ↔ CommandLine words invocation) ∧
      ((∃ complaint, Invocation.ofWords words = .error complaint ∧
          (complaint.code = 0 ∧ complaint.channel = .stdout ∨
            complaint.code = 2 ∧ complaint.channel = .stderr)) ↔
        ∀ other, ¬ CommandLine words other) := by
  refine ⟨Invocation.ofWords_eq_ok_iff, ?_⟩
  constructor
  · rintro ⟨complaint, refused, _⟩ other line
    rw [Invocation.ofWords_eq_ok_iff.mpr line] at refused
    cases refused
  · intro underived
    cases read : Invocation.ofWords words with
    | ok other => exact absurd (Invocation.ofWords_eq_ok_iff.mp read) (underived other)
    | error complaint =>
        refine ⟨complaint, rfl, ?_⟩
        cases complaint <;> simp [Complaint.code, Complaint.channel]

-- A value may read like a command, and only what stands before the command is the program's own.
example : Invocation.ofWords ["dev", "--log-level", "up", "--log-format=json", "down", "--"] =
    .ok { logLevel := "up", logFormat := .json, action := .down } := by decide

example : (Invocation.ofWords ["dev", "down", "--log-level", "up"]).isOk = false := by decide

end DevCluster.Arguments
