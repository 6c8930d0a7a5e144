import DevCluster.Proofs.Arguments.Words

/-!
Options of one command: what its reader has read at each point of the words, and that it reads on
exactly where these are options, each at most once and with a value that it allows.
-/

namespace DevCluster.Arguments

/-- Options of a command with their values, each option at most once. -/
inductive Options (scope : Scope) : List (ValueOption × String) → List String → Prop
  | none : Options scope [] []
  | more {given words option value spelled} : Options scope given words →
      option ∈ scope.options → given.lookup option = none →
      (option.choices = [] ∨ value ∈ option.choices) →
      Spelled ("--" ++ option.name) value spelled →
      Options scope (given ++ [(option, value)]) (words ++ spelled)

/-- No option is given twice, so no more are given than there are. -/
theorem Options.length_le {scope : Scope} {given : List (ValueOption × String)}
    {words : List String} (options : Options scope given words) :
    given.length ≤ scope.options.length := by
  have distinct : (given.map Prod.fst).Nodup ∧ given.map Prod.fst ⊆ scope.options := by
    induction options with
    | none => simp
    | more _ offered fresh _ _ ih =>
        have unknown := List.lookup_eq_none_iff.mp fresh
        constructor
        · rw [List.map_append, List.nodup_append]
          refine ⟨ih.1, List.nodup_singleton _, ?_⟩
          rintro option member other single rfl
          obtain ⟨entry, belongs, rfl⟩ := List.mem_map.mp member
          have different := unknown entry belongs
          obtain same : entry.1 = _ := List.mem_singleton.mp single
          simp [same] at different
        · rw [List.map_append, List.append_subset]
          exact ⟨ih.2, by simpa using offered⟩
  have bound := (distinct.1.subperm distinct.2).length_le
  simpa using bound

namespace Reading

/-- What the words have been read as. -/
inductive Reads (scope : Scope) : Reading → List String → Prop
  | complete {given words} : Options scope given words → Reads scope { given } words
  | awaiting {given words option} : Options scope given words → option ∈ scope.options →
      Reads scope { given, pending := some (option, none) } (words ++ ["--" ++ option.name])
  | supplied {given words option value} : Options scope given words → option ∈ scope.options →
      IsPlain value →
      Reads scope { given, pending := some (option, some value) }
        (words ++ ["--" ++ option.name, value])
  | ended {reading words} : Reads scope reading words → reading.ended = false →
      Reads scope { reading with ended := true } (words ++ ["--"])

/-- How the reader goes on at a word, as long as two dashes have not ended the options. -/
inductive Taken (scope : Scope) (reading : Reading) : String → Reading → Prop
  | ends : Taken scope reading "--" { reading with ended := true }
  | begins {option settled} : option ∈ scope.options → reading.settle scope = .ok settled →
      Taken scope reading ("--" ++ option.name) { settled with pending := some (option, none) }
  | joins {option value settled next} : option ∈ scope.options →
      reading.settle scope = .ok settled → settled.accept scope option value = .ok next →
      Taken scope reading ("--" ++ option.name ++ "=" ++ value) next
  | supplies {option word} : reading.awaited? = some option → IsPlain word →
      Taken scope reading word { reading with pending := some (option, some word) }

/-- How the reader goes on at some words. -/
inductive Path (scope : Scope) : Reading → List String → Reading → Prop
  | refl {reading} : Path scope reading [] reading
  | step {reading word next words last} : reading.ended = false → Taken scope reading word next →
      Path scope next words last → Path scope reading (word :: words) last

variable {scope : Scope} {reading next : Reading} {given : List (ValueOption × String)}
  {option : ValueOption} {value word : String} {words rest : List String}

theorem accept_eq_ok : reading.accept scope option value = .ok next ↔
    reading.given.lookup option = none ∧ (option.choices = [] ∨ value ∈ option.choices) ∧
      next = { reading with given := reading.given ++ [(option, value)], pending := none } := by
  unfold accept
  by_cases fresh : reading.given.lookup option = none
  · by_cases allowed : option.choices = [] ∨ value ∈ option.choices
    · have unrefused : ¬ (option.choices ≠ [] ∧ value ∉ option.choices) := by tauto
      rw [if_neg (by simp [fresh]), if_neg unrefused, Except.ok.injEq]
      exact ⟨fun same => ⟨fresh, allowed, same.symm⟩, fun ⟨_, _, same⟩ => same.symm⟩
    · have refused : option.choices ≠ [] ∧ value ∉ option.choices := by tauto
      rw [if_neg (by simp [fresh]), if_pos refused]
      simp [allowed]
  · rw [if_pos (Option.isSome_iff_ne_none.mpr fresh)]
    simp [fresh]

/-- Words that leave the options open come to options, if what is pending is accepted. -/
theorem Reads.settle (reads : Reads scope reading words) (unended : reading.ended = false)
    (settled : reading.settle scope = .ok next) :
    next.pending = none ∧ next.ended = false ∧ Options scope next.given words := by
  cases reads with
  | complete options =>
      cases settled
      exact ⟨rfl, rfl, options⟩
  | awaiting options offered => cases settled
  | supplied options offered plain =>
      obtain ⟨fresh, allowed, rfl⟩ := accept_eq_ok.mp settled
      exact ⟨rfl, rfl, .more options offered fresh allowed (.apart plain)⟩
  | ended reads open_ => cases unended

theorem find?_option (offered : option ∈ scope.options) :
    scope.options.find? (·.name = option.name) = some option := by
  have all : ∀ other ∈ scope.options, scope.options.find? (·.name = other.name) = some other := by
    cases scope with
    | none => decide
    | some command => cases command <;> decide
  exact all option offered

theorem taken_of_readLong {name : String} {given : Option String}
    (long : Token.ofWord word = .long name given)
    (read : reading.readLong scope name given rest = .ok next) : Taken scope reading word next := by
  unfold readLong at read
  split at read
  · rename_i option value found
    have offered := List.mem_of_find?_eq_some found
    obtain rfl : option.name = name := by simpa using List.find?_some found
    cases settled : reading.settle scope with
    | error complaint => simp [settled, bind, Except.bind] at read
    | ok between =>
        rw [Token.ofWord_joined long]
        exact .joins offered settled (by simpa [settled, bind, Except.bind] using read)
  · rename_i option found
    have offered := List.mem_of_find?_eq_some found
    obtain rfl : option.name = name := by simpa using List.find?_some found
    cases settled : reading.settle scope with
    | error complaint => simp [settled, bind, Except.bind] at read
    | ok between =>
        obtain rfl : { between with pending := some (option, none) } = next := by
          simpa [settled, bind, Except.bind, pure, Except.pure] using read
        rw [Token.ofWord_bare long]
        exact .begins offered settled
  · cases read
  · cases read
  · cases read

theorem readWord_eq_ok : reading.readWord scope word rest = .ok next ↔
    reading.ended = false ∧ Taken scope reading word next := by
  by_cases ended : reading.ended = true
  · simp [readWord, ended]
  · have unended : reading.ended = false := by simpa using ended
    simp only [readWord, unended, Bool.false_eq_true, ↓reduceIte, true_and]
    constructor
    · intro read
      split at read
      · rename_i separates
        cases read
        rw [Token.ofWord_separator separates]
        exact .ends
      · rename_i name value long
        exact taken_of_readLong long read
      · rename_i letter short
        unfold readShort at read
        split at read
        · cases read
        · cases read
      · rename_i plain
        split at read
        · rename_i option awaits
          cases read
          rw [← unended]
          exact .supplies awaits (Token.ofWord_plain_iff.mp plain)
        · cases read
    · intro taken
      cases taken with
      | ends => rfl
      | begins offered settled =>
          rw [Token.ofWord_form]
          simp [readLong, find?_option offered, settled, bind, Except.bind, pure, Except.pure]
      | joins offered settled accepted =>
          rw [Token.ofWord_form_joined]
          simp [readLong, find?_option offered, settled, accepted, bind, Except.bind]
      | supplies awaits plain =>
          rw [Token.ofWord_plain_iff.mpr plain]
          simp [awaits, unended]

theorem readWords_eq_ok : readWords scope reading words = .ok next ↔
    ∃ last, Path scope reading words last ∧ last.settle scope = .ok next := by
  induction words generalizing reading with
  | nil =>
      constructor
      · intro settled
        exact ⟨reading, .refl, settled⟩
      · rintro ⟨_, ⟨⟩, settled⟩
        exact settled
  | cons word words ih =>
      rw [readWords]
      constructor
      · intro read
        cases first : reading.readWord scope word words with
        | error complaint => simp [first, bind, Except.bind] at read
        | ok between =>
            obtain ⟨unended, taken⟩ := readWord_eq_ok.mp first
            simp only [first, bind, Except.bind] at read
            obtain ⟨last, path, settled⟩ := ih.mp read
            exact ⟨last, .step unended taken path, settled⟩
      · rintro ⟨last, path, settled⟩
        cases path with
        | @step _ _ between _ _ unended taken path =>
            have first : reading.readWord scope word words = .ok between :=
              readWord_eq_ok.mpr ⟨unended, taken⟩
            simp only [first, bind, Except.bind]
            exact ih.mpr ⟨last, path, settled⟩

theorem Path.append {between last : Reading} {first second : List String}
    (path : Path scope reading first between) (others : Path scope between second last) :
    Path scope reading (first ++ second) last := by
  induction path with
  | refl => exact others
  | step unended taken _ ih => exact .step unended taken (ih others)

/-- One more word is read as the beginning, the value or the end of options. -/
theorem Reads.taken (reads : Reads scope reading words) (unended : reading.ended = false)
    (taken : Taken scope reading word next) : Reads scope next (words ++ [word]) := by
  cases taken with
  | ends => exact .ended reads unended
  | begins offered settled =>
      obtain ⟨nothing, undone, options⟩ := reads.settle unended settled
      have awaiting := Reads.awaiting options offered
      simpa [nothing, undone] using awaiting
  | joins offered settled accepted =>
      obtain ⟨nothing, undone, options⟩ := reads.settle unended settled
      obtain ⟨fresh, allowed, rfl⟩ := accept_eq_ok.mp accepted
      rw [undone]
      exact .complete (.more options offered fresh allowed .joined)
  | supplies awaits plain =>
      cases reads with
      | awaiting options offered =>
          cases awaits
          have supplied := Reads.supplied options offered plain
          simpa using supplied
      | ended reads _ => cases unended
      | _ => cases awaits

theorem Reads.path {before : List String} {last : Reading} (reads : Reads scope reading before)
    (path : Path scope reading words last) : Reads scope last (before ++ words) := by
  induction path generalizing before with
  | refl => simpa using reads
  | step unended taken _ ih =>
      have others := ih (reads.taken unended taken)
      simpa using others

theorem settle_ended (reading : Reading) :
    { reading with ended := true }.settle scope =
      (reading.settle scope).map ({ · with ended := true }) := by
  obtain ⟨given, pending, ended⟩ := reading
  rcases pending with _ | ⟨option, _ | value⟩
  · rfl
  · rfl
  · simp only [settle, accept]
    split
    · rfl
    · split
      · rfl
      · rfl

/-- Words that are read to their end are options, and perhaps two dashes behind them. -/
theorem Reads.ending (reads : Reads scope reading words)
    (settled : reading.settle scope = .ok next) :
    ∃ spelled ending, words = spelled ++ ending ∧ (ending = [] ∨ ending = ["--"]) ∧
      Options scope next.given spelled := by
  cases ended : reading.ended with
  | false =>
      obtain ⟨_, _, options⟩ := reads.settle ended settled
      exact ⟨words, [], (List.append_nil words).symm, .inl rfl, options⟩
  | true =>
      cases reads with
      | @ended inner spelled reads unended =>
          rw [settle_ended] at settled
          cases result : inner.settle scope with
          | error complaint => simp [result, Except.map] at settled
          | ok between =>
              obtain ⟨_, _, options⟩ := reads.settle unended result
              obtain rfl : { between with ended := true } = next := by
                simpa [result, Except.map] using settled
              exact ⟨spelled, ["--"], rfl, .inr rfl, options⟩
      | _ => cases ended

/-- A reader whose options so far have their values, and accepts them. -/
structure Ready (scope : Scope) (reading : Reading) (given : List (ValueOption × String)) :
    Prop where
  unended : reading.ended = false
  unawaited : reading.awaited? = none
  settles : reading.settle scope = .ok { given }

theorem path_of_options (options : Options scope given words) :
    ∃ last, Path scope {} words last ∧ Ready scope last given := by
  induction options with
  | none => exact ⟨{}, .refl, rfl, rfl, rfl⟩
  | @more given words option value spelled _ offered fresh allowed spells ih =>
      obtain ⟨last, path, ready⟩ := ih
      -- An option in two words is accepted only when the next one begins, so what carries the
      -- induction is what the reader settles to, not what it has been given.
      have accepted : ({ given } : Reading).accept scope option value =
          .ok { given := given ++ [(option, value)] } :=
        accept_eq_ok.mpr ⟨fresh, allowed, rfl⟩
      cases spells with
      | joined =>
          have taken := Taken.joins offered ready.settles accepted
          exact ⟨_, path.append (.step ready.unended taken .refl), rfl, rfl, rfl⟩
      | apart plain =>
          have begun := Taken.begins offered ready.settles
          have supplied : Taken scope { given, pending := some (option, none) } value
              { given, pending := some (option, some value) } := .supplies rfl plain
          have path := path.append (.step ready.unended begun (.step rfl supplied .refl))
          refine ⟨_, path, rfl, rfl, ?_⟩
          exact accept_eq_ok.mpr ⟨fresh, allowed, rfl⟩

/-- A command reads words to their end exactly if these are its options, perhaps with two dashes
behind them. -/
theorem readWords_iff_options (given : List (ValueOption × String)) :
    (∃ last, readWords scope {} words = .ok last ∧ last.given = given) ↔
      ∃ spelled ending, words = spelled ++ ending ∧ (ending = [] ∨ ending = ["--"]) ∧
        Options scope given spelled := by
  constructor
  · rintro ⟨_, read, rfl⟩
    obtain ⟨last, path, settled⟩ := readWords_eq_ok.mp read
    have reads := (Reads.complete Options.none).path path
    exact reads.ending settled
  · rintro ⟨spelled, ending, rfl, rfl | rfl, options⟩
    · obtain ⟨last, path, ready⟩ := path_of_options options
      rw [List.append_nil]
      exact ⟨_, readWords_eq_ok.mpr ⟨last, path, ready.settles⟩, rfl⟩
    · obtain ⟨last, path, ready⟩ := path_of_options options
      have ended := path.append (.step ready.unended .ends .refl)
      refine ⟨{ given, ended := true }, readWords_eq_ok.mpr ⟨_, ended, ?_⟩, rfl⟩
      rw [settle_ended, ready.settles]
      rfl

end Reading

end DevCluster.Arguments
