import DevCluster.Proofs.Document.ShortStrings

/-!
Strings, also those of several lines: what is read as one is written as one, and what is written as
one is read so.
-/

namespace DevCluster.Document

open Grammar

variable {text rest chars : List Char}

theorem Verdict.addFirst_eq_more {σ : Type} {first added : List Char} {next : σ}
    {verdict : Verdict σ} (taken : verdict.addFirst first = .more added next) :
    ∃ own, verdict = .more own next ∧ added = first ++ own := by
  cases verdict with
  | more own state =>
      cases taken
      exact ⟨own, rfl, rfl⟩
  | _ => cases taken

def Verdict.Unclosed {σ : Type} (verdict : Verdict σ) : Prop :=
  verdict ≠ .closed ∧ ∀ added, verdict ≠ .closedBefore added

namespace LongKind

/-- What a character can do to a string of several lines where nothing is pending. -/
inductive PlainStep (kind : LongKind) : Char → Verdict LongState → Prop
  | quote : PlainStep kind kind.quote (.more [] (.quotes 1))
  | backslash : kind.escapes = true → PlainStep kind '\\' (.more [] (.escape .letter))
  | feed : PlainStep kind '\n' (.more ['\n'] .plain)
  | carriage : PlainStep kind '\r' (.more [] .carriage)
  | plain {c} : isTextChar c = true → c ≠ kind.quote → (kind.escapes = true → c ≠ '\\') →
      PlainStep kind c (.more [c] .plain)
  | fault {c} : PlainStep kind c .fault

variable {kind : LongKind} {c : Char} {added after : List Char} {state next : LongState}
  {count start : Nat} {seenNewline : Bool} {verdict : Verdict LongState}

theorem plainStep_cases (kind : LongKind) (c : Char) : kind.PlainStep c (kind.plainStep c) := by
  rw [plainStep]
  split
  next quote => exact quote ▸ .quote
  next quote =>
    split
    next backslash =>
      simp only [Bool.and_eq_true, decide_eq_true_eq] at backslash
      exact backslash.1 ▸ .backslash backslash.2
    next backslash =>
      split
      next feed =>
        rw [feed]
        exact .feed
      next =>
        split
        next carriage => exact carriage ▸ .carriage
        next =>
          split
          next allowed =>
            refine .plain allowed quote fun escapes same => backslash ?_
            simp [escapes, same]
          next => exact .fault

/-- What a state of the reader makes of a text. -/
def Meant (kind : LongKind) (text chars rest : List Char) : LongState → Prop
  | .plain => LongRest kind 0 text chars rest
  | .quotes count =>
    count ≤ 5 → LongRest kind 0 (List.replicate count kind.quote ++ text) chars rest
  | .carriage =>
    ∃ others after, text = '\n' :: others ∧ chars = '\n' :: after ∧
      LongRest kind 0 others after rest
  | .escape escape =>
    (∃ letters c others after, text = letters ++ others ∧ escape.Finishes letters c ∧
        chars = c :: after ∧ LongRest kind 0 others after rest) ∨
      ∃ middle, escape = .letter ∧ Fold false text middle ∧ LongRest kind 0 middle chars rest
  | .folding seenNewline =>
    ∃ middle, Fold seenNewline text middle ∧ LongRest kind 0 middle chars rest
  | .foldingCarriage =>
    ∃ others middle, text = '\n' :: others ∧ Fold true others middle ∧
      LongRest kind 0 middle chars rest

theorem plainStep_sound (taken : kind.plainStep c = .more added next)
    (meant : kind.Meant text after rest next) (apart : c = kind.quote → count = 0) :
    LongRest kind count (c :: text) (added ++ after) rest := by
  have step := kind.plainStep_cases c
  rw [taken] at step
  cases step with
  | quote =>
      obtain rfl := apart rfl
      exact meant (by decide)
  | backslash escapes =>
      rcases meant with ⟨letters, meaning, others, following, rfl, finishes, rfl, more⟩ |
        ⟨middle, _, fold, more⟩
      · exact .escaped escapes (Escape.finishes_letter.mp finishes) more
      · exact .folded escapes fold more
  | feed => exact .newline .feed meant
  | carriage =>
      obtain ⟨others, following, rfl, rfl, more⟩ := meant
      exact .newline .carriage more
  | plain allowed quote backslash => exact .plain allowed quote backslash meant

theorem foldStep_sound (taken : kind.foldStep seenNewline c = .more added next)
    (meant : kind.Meant text after rest next) :
    ∃ middle, Fold seenNewline (c :: text) middle ∧
      LongRest kind 0 middle (added ++ after) rest := by
  rw [foldStep] at taken
  split at taken
  next space =>
    cases taken
    obtain ⟨middle, fold, more⟩ := meant
    exact ⟨middle, .space space fold, more⟩
  next space =>
    split at taken
    next feed =>
      cases taken
      obtain ⟨middle, fold, more⟩ := meant
      exact ⟨middle, feed ▸ .newline .feed fold, more⟩
    next feed =>
      split at taken
      next carriage =>
        cases taken
        obtain ⟨others, middle, rfl, fold, more⟩ := meant
        exact ⟨middle, carriage ▸ .newline .carriage fold, more⟩
      next carriage =>
        split at taken
        next seen =>
          refine ⟨c :: text, seen ▸ .done ?_, plainStep_sound taken meant fun _ => rfl⟩
          simpa [isFolded, feed, carriage] using space
        next => cases taken

theorem escapeStep_sound {escape : Escape}
    (taken : (match escape.next c with
      | some (.inl awaited) => Verdict.more [] (LongState.escape awaited)
      | some (.inr meant) => .more [meant] .plain
      | none => .fault) = .more added next)
    (meant : kind.Meant text after rest next) :
    kind.Meant (c :: text) (added ++ after) rest (.escape escape) := by
  split at taken
  next awaited wait =>
    cases taken
    rcases meant with ⟨letters, meaning, others, following, rfl, finishes, rfl, more⟩ |
      ⟨middle, rfl, _⟩
    · exact .inl ⟨c :: letters, meaning, others, following, rfl, .more wait finishes, rfl, more⟩
    · exact absurd wait Escape.next_ne_letter
  next meaning ended =>
    cases taken
    exact .inl ⟨[c], meaning, text, after, rfl, .last ended, rfl, meant⟩
  next => cases taken

/-- Quotes in a row belong to the string as long as they are not three. -/
theorem longRest_quotes (few : count ≤ 2) (more : LongRest kind count text chars rest) :
    LongRest kind 0 (List.replicate count kind.quote ++ text)
      (List.replicate count kind.quote ++ chars) rest := by
  obtain rfl | rfl | rfl : count = 0 ∨ count = 1 ∨ count = 2 := by omega
  · exact more
  · exact .quote (by decide) more
  · exact .quote (by decide) (.quote (by decide) more)

theorem longRest_closed (enough : 3 ≤ count) (few : count ≤ 5) :
    LongRest kind 0 (List.replicate count kind.quote ++ rest)
      (List.replicate (count - 3) kind.quote) rest := by
  obtain ⟨before, rfl⟩ := Nat.exists_eq_add_of_le' enough
  have closed : LongRest kind before (List.replicate 3 kind.quote ++ rest) [] rest :=
    .closed (by omega)
  have more := longRest_quotes (by omega) closed
  rwa [← List.append_assoc, List.replicate_append_replicate, List.append_nil] at more

theorem step_sound (taken : kind.step state c = .more added next)
    (meant : kind.Meant text after rest next) :
    kind.Meant (c :: text) (added ++ after) rest state := by
  cases state with
  | plain => exact plainStep_sound taken meant fun _ => rfl
  | quotes count =>
      intro few
      rw [step] at taken
      split at taken
      next another =>
        cases taken
        simp only [Bool.and_eq_true, decide_eq_true_eq] at another
        obtain ⟨rfl, another⟩ := another
        have more := meant another
        rwa [List.replicate_succ', List.append_assoc] at more
      next another =>
        split at taken
        next => cases taken
        -- Quotes too few to close the string have been part of it.
        next unclosed =>
          obtain ⟨own, plain, rfl⟩ := Verdict.addFirst_eq_more taken
          have single : c ≠ kind.quote := fun quote => another (by simp [quote]; omega)
          have more : LongRest kind count (c :: text) (own ++ after) rest :=
            plainStep_sound plain meant fun quote => absurd quote single
          rw [List.append_assoc]
          exact longRest_quotes (by omega) more
  | carriage =>
      rw [step] at taken
      split at taken
      next feed =>
        cases taken
        exact ⟨text, after, by rw [feed], rfl, meant⟩
      next => cases taken
  | escape escape =>
      cases escape with
      | digits missing value => exact escapeStep_sound taken meant
      | letter =>
          rw [step] at taken
          split at taken
          next =>
            obtain ⟨middle, fold, more⟩ := foldStep_sound taken meant
            exact .inr ⟨middle, rfl, fold, more⟩
          next => exact escapeStep_sound taken meant
  | folding seenNewline => exact foldStep_sound taken meant
  | foldingCarriage =>
      rw [step] at taken
      split at taken
      next feed =>
        cases taken
        obtain ⟨middle, fold, more⟩ := meant
        exact ⟨text, middle, by rw [feed], fold, more⟩
      next => cases taken

theorem plainStep_unclosed (kind : LongKind) (c : Char) : (kind.plainStep c).Unclosed := by
  have step := kind.plainStep_cases c
  generalize kind.plainStep c = verdict at step
  cases step <;> exact ⟨nofun, nofun⟩

theorem foldStep_unclosed (kind : LongKind) (seenNewline : Bool) (c : Char) :
    (kind.foldStep seenNewline c).Unclosed := by
  rw [foldStep]
  split
  next => exact ⟨nofun, nofun⟩
  next =>
    split
    next => exact ⟨nofun, nofun⟩
    next =>
      split
      next => exact ⟨nofun, nofun⟩
      next =>
        split
        next => exact kind.plainStep_unclosed c
        next => exact ⟨nofun, nofun⟩

/-- Only quotes close a string of several lines, and only before the next character. -/
theorem step_unclosed (unquoted : ∀ count, 3 ≤ count → state ≠ .quotes count) :
    (kind.step state c).Unclosed := by
  cases state with
  | plain => exact kind.plainStep_unclosed c
  | quotes count =>
      rw [step]
      split
      next => exact ⟨nofun, nofun⟩
      next =>
        split
        next enough => exact absurd rfl (unquoted count enough)
        next =>
          have own := kind.plainStep_unclosed c
          cases verdict : kind.plainStep c with
          | more added next => exact ⟨nofun, nofun⟩
          | fault => exact ⟨nofun, nofun⟩
          | closed => exact absurd verdict own.1
          | closedBefore added => exact absurd verdict (own.2 added)
  | carriage =>
      rw [step]
      split <;> exact ⟨nofun, nofun⟩
  | escape escape =>
      cases escape with
      | letter =>
          rw [step]
          split
          next => exact kind.foldStep_unclosed false c
          next => split <;> exact ⟨nofun, nofun⟩
      | digits missing value =>
          rw [step]
          · split <;> exact ⟨nofun, nofun⟩
          · exact nofun
  | folding seenNewline => exact kind.foldStep_unclosed seenNewline c
  | foldingCarriage =>
      rw [step]
      split <;> exact ⟨nofun, nofun⟩

theorem exists_quotes_of_closed
    (closed : kind.step state c = .closed ∨ ∃ added, kind.step state c = .closedBefore added) :
    ∃ count, 3 ≤ count ∧ state = .quotes count := by
  by_contra unquoted
  have unclosed : (kind.step state c).Unclosed :=
    step_unclosed fun count enough same => unquoted ⟨count, enough, same⟩
  rcases closed with closed | ⟨added, closed⟩
  · exact unclosed.1 closed
  · exact unclosed.2 added closed

theorem readFrom_sound
    (read : Verdict.readFrom kind.step kind.atEnd state text = some (chars, rest)) :
    kind.Meant text chars rest state := by
  induction text generalizing state chars with
  | nil =>
      rw [Verdict.readFrom, Option.map_eq_some_iff] at read
      obtain ⟨_, ended, same⟩ := read
      obtain ⟨rfl, rfl⟩ := Prod.mk.inj same
      cases state with
      | quotes count =>
          intro few
          rw [atEnd] at ended
          split at ended
          next enough =>
            cases ended
            exact longRest_closed enough few
          next => cases ended
      | _ => cases ended
  | cons c text ih =>
      rcases Verdict.readFrom_eq_some read with
        ⟨added, next, after, taken, others, rfl⟩ | ⟨taken, rfl, rfl⟩ | ⟨taken, rfl⟩
      · exact step_sound taken (ih others)
      -- Behind quotes a string is closed before the next character, never by it.
      · obtain ⟨count, enough, rfl⟩ := exists_quotes_of_closed (.inl taken)
        rw [step, if_pos enough] at taken
        split at taken <;> cases taken
      · obtain ⟨count, enough, rfl⟩ := exists_quotes_of_closed (.inr ⟨_, taken⟩)
        intro few
        rw [step, if_pos enough] at taken
        split at taken
        next => cases taken
        next =>
          cases taken
          exact longRest_closed enough few

def afterQuotes : Nat → LongState
  | 0 => .plain
  | count + 1 => .quotes (count + 1)

def Known (kind : LongKind) : Prop :=
  kind = .basic ∨ kind = .literal

theorem Known.quote_ne (known : kind.Known) :
    kind.quote ≠ '\\' ∧ kind.quote ≠ '\n' ∧ kind.quote ≠ '\r' := by
  rcases known with rfl | rfl <;> decide

theorem step_afterQuotes (few : count ≤ 2) (apart : c ≠ kind.quote) :
    kind.step (afterQuotes count) c =
      (kind.plainStep c).addFirst (List.replicate count kind.quote) := by
  cases count with
  | zero =>
      rw [afterQuotes, step]
      cases kind.plainStep c <;> rfl
  | succ count =>
      have unclosed : ¬ 3 ≤ count + 1 := by omega
      simp [afterQuotes, step, apart, unclosed]

theorem readFrom_apart (few : count ≤ 2) (apart : c ≠ kind.quote)
    (taken : kind.plainStep c = .more added next)
    (others : Verdict.readFrom kind.step kind.atEnd next text = some (chars, rest)) :
    Verdict.readFrom kind.step kind.atEnd (afterQuotes count) (c :: text) =
      some (List.replicate count kind.quote ++ (added ++ chars), rest) := by
  rw [← List.append_assoc]
  refine Verdict.readFrom_more ?_ others
  rw [step_afterQuotes few apart, taken]
  rfl

theorem readFrom_quote (few : count < 5) :
    Verdict.readFrom kind.step kind.atEnd (afterQuotes count) (kind.quote :: text) =
      Verdict.readFrom kind.step kind.atEnd (afterQuotes (count + 1)) text := by
  have taken : kind.step (afterQuotes count) kind.quote = .more [] (afterQuotes (count + 1)) := by
    cases count with
    | zero => simp [afterQuotes, step, plainStep]
    | succ count => simp [afterQuotes, step, few]
  rw [Verdict.readFrom, taken]
  dsimp only
  cases Verdict.readFrom kind.step kind.atEnd (afterQuotes (count + 1)) text <;> rfl

theorem readFrom_closed (few : count ≤ 2) (boundary : ∀ c ∈ rest.head?, c ≠ kind.quote) :
    Verdict.readFrom kind.step kind.atEnd (afterQuotes count)
      (kind.quote :: kind.quote :: kind.quote :: rest) =
        some (List.replicate count kind.quote, rest) := by
  rw [readFrom_quote (by omega), readFrom_quote (by omega), readFrom_quote (by omega)]
  cases rest with
  | nil => simp [Verdict.readFrom, afterQuotes, atEnd]
  | cons c rest =>
      have apart : c ≠ kind.quote := boundary c rfl
      simp [Verdict.readFrom, afterQuotes, step, apart]

theorem plainStep_text (allowed : isTextChar c = true) (apart : c ≠ kind.quote)
    (unescaped : kind.escapes = true → c ≠ '\\') : kind.plainStep c = .more [c] .plain := by
  have feed : c ≠ '\n' := by
    rintro rfl
    cases allowed
  have carriage : c ≠ '\r' := by
    rintro rfl
    cases allowed
  have escape : (decide (c = '\\') && kind.escapes) = false := by
    by_contra escape
    simp only [Bool.not_eq_false, Bool.and_eq_true, decide_eq_true_eq] at escape
    exact unescaped escape.2 escape.1
  simp [plainStep, allowed, apart, feed, carriage, escape]

theorem step_escape {escape : Escape} {result : Escape ⊕ Char}
    (going : escape.next c = some result) :
    kind.step (.escape escape) c =
      result.elim (fun awaited => .more [] (.escape awaited))
        (fun meant => .more [meant] .plain) := by
  cases escape with
  | digits missing value =>
      rw [step]
      · rw [going]
        cases result <;> rfl
      · exact nofun
  | letter =>
      have unfolded : (isSpace c || decide (c = '\n') || decide (c = '\r')) = false := by
        by_contra blank
        simp only [isSpace, Bool.not_eq_false, Bool.or_eq_true, decide_eq_true_eq] at blank
        rcases blank with ((rfl | rfl) | rfl) | rfl <;> cases going
      rw [step, if_neg (by simp [unfolded]), going]
      cases result <;> rfl

theorem readFrom_escape {escape : Escape} {letters : List Char}
    (finishes : escape.Finishes letters c)
    (others : Verdict.readFrom kind.step kind.atEnd .plain text = some (chars, rest)) :
    Verdict.readFrom kind.step kind.atEnd (.escape escape) (letters ++ text) =
      some (c :: chars, rest) := by
  induction finishes with
  | last ended => exact Verdict.readFrom_more (step_escape ended) others
  | more wait _ ih => exact Verdict.readFrom_more (step_escape wait) ih

theorem readFrom_fold {middle : List Char} (fold : Fold seenNewline text middle)
    (others : Verdict.readFrom kind.step kind.atEnd .plain middle = some (chars, rest)) :
    Verdict.readFrom kind.step kind.atEnd (.folding seenNewline) text = some (chars, rest) := by
  induction fold with
  | @done text boundary =>
      cases text with
      | nil => cases others
      | cons c text =>
          have unfolded := boundary c rfl
          simp only [isFolded, Bool.or_eq_false_iff, decide_eq_false_iff_not] at unfolded
          obtain ⟨⟨space, feed⟩, carriage⟩ := unfolded
          have same : kind.step (.folding true) c = kind.step .plain c := by
            simp [step, foldStep, space, feed, carriage]
          rw [Verdict.readFrom, same]
          exact others
  | @space seen c _ _ space _ ih =>
      have taken : kind.step (.folding seen) c = .more [] (.folding seen) := if_pos space
      exact Verdict.readFrom_more taken (ih others)
  | @newline seen _ _ _ newline _ ih =>
      cases newline with
      | feed =>
          have taken : kind.step (.folding seen) '\n' = .more [] (.folding true) := rfl
          exact Verdict.readFrom_more taken (ih others)
      | carriage =>
          have taken : kind.step (.folding seen) '\r' = .more [] .foldingCarriage := rfl
          have fed : kind.step .foldingCarriage '\n' = .more [] (.folding true) := rfl
          exact Verdict.readFrom_more taken (Verdict.readFrom_more fed (ih others))

theorem fold_head {middle : List Char} (fold : Fold false text middle) :
    ∃ c others, text = c :: others ∧ isFolded c = true := by
  cases fold with
  | space space _ => exact ⟨_, _, rfl, by simp [isFolded, space]⟩
  | newline newline _ =>
      cases newline with
      | feed => exact ⟨_, _, rfl, rfl⟩
      | carriage => exact ⟨_, _, rfl, rfl⟩

/-- What is written as the rest of a string of several lines is read as it, unless further quotes
are behind it. -/
theorem readFrom_complete (known : kind.Known) (more : LongRest kind count text chars rest)
    (few : count ≤ 2) (boundary : ∀ c ∈ rest.head?, c ≠ kind.quote) :
    Verdict.readFrom kind.step kind.atEnd (afterQuotes count) text =
      some (List.replicate count kind.quote ++ chars, rest) := by
  obtain ⟨backslash, feed, carriage⟩ := known.quote_ne
  -- Quotes that may still close the string are read as part of it once anything else follows, so
  -- the induction carries how many there are.
  induction more with
  | closed => simpa using readFrom_closed few boundary
  | @quote count _ _ _ unclosed _ ih =>
      rw [readFrom_quote (by omega), ih (by omega) boundary, List.replicate_succ',
        List.append_assoc]
      rfl
  | plain allowed apart unescaped _ ih =>
      exact readFrom_apart few apart (plainStep_text allowed apart unescaped)
        (ih (by decide) boundary)
  | newline newline _ ih =>
      cases newline with
      | feed =>
          have taken : kind.plainStep '\n' = .more ['\n'] .plain := by
            simp [plainStep, feed.symm]
          exact readFrom_apart few feed.symm taken (ih (by decide) boundary)
      | carriage =>
          have taken : kind.plainStep '\r' = .more [] .carriage := by
            simp [plainStep, carriage.symm]
          have fed : kind.step .carriage '\n' = .more ['\n'] .plain := rfl
          exact readFrom_apart few carriage.symm taken
            (Verdict.readFrom_more fed (ih (by decide) boundary))
  | escaped escapes escaped _ ih =>
      have taken : kind.plainStep '\\' = .more [] (.escape .letter) := by
        simp [plainStep, backslash.symm, escapes]
      have others := readFrom_escape (Escape.finishes_letter.mpr escaped)
        (ih (by decide) boundary)
      exact readFrom_apart few backslash.symm taken others
  | folded escapes fold _ ih =>
      have taken : kind.plainStep '\\' = .more [] (.escape .letter) := by
        simp [plainStep, backslash.symm, escapes]
      have others := readFrom_fold fold (ih (by decide) boundary)
      obtain ⟨c, text, rfl, blank⟩ := fold_head fold
      have folding : kind.step (.escape .letter) c = kind.step (.folding false) c := if_pos blank
      refine readFrom_apart few backslash.symm taken ?_
      rw [Verdict.readFrom, folding]
      exact others

theorem rest_eq {middle : List Char} (opening : Opening text middle) :
    kind.rest text = Verdict.readFrom kind.step kind.atEnd .plain middle := by
  cases opening with
  | newline newline => cases newline <;> rfl
  | none unopened =>
      rw [LongKind.rest.eq_3]
      · rintro middle rfl
        exact unopened middle .feed
      · rintro middle rfl
        exact unopened middle .carriage

theorem exists_opening (text : List Char) : ∃ middle, Opening text middle := by
  by_cases opened : ∃ middle, Newline text middle
  · obtain ⟨middle, newline⟩ := opened
    exact ⟨middle, .newline newline⟩
  · exact ⟨text, .none fun middle newline => opened ⟨middle, newline⟩⟩

theorem rest_sound (known : kind.Known) (read : kind.rest text = some (chars, rest)) :
    Quotation (kind.quote :: kind.quote :: kind.quote :: text) chars rest := by
  obtain ⟨middle, opening⟩ := exists_opening text
  rw [rest_eq opening] at read
  exact .long known opening (readFrom_sound read)

theorem rest_complete {middle : List Char} (known : kind.Known) (opening : Opening text middle)
    (more : LongRest kind 0 middle chars rest) (boundary : ∀ c ∈ rest.head?, c ≠ kind.quote) :
    kind.rest text = some (chars, rest) := by
  rw [rest_eq opening]
  exact readFrom_complete known more (by decide) boundary

end LongKind

theorem quotation_sound (read : quotation text = some (chars, rest)) :
    Quotation text chars rest := by
  unfold quotation at read
  split at read
  next => exact LongKind.rest_sound (.inl rfl) read
  next => exact LongKind.rest_sound (.inr rfl) read
  next text _ =>
    obtain ⟨quoted, isQuoted, same⟩ := basicRest_sound read
    exact same ▸ .short isQuoted
  next text _ =>
    obtain ⟨quoted, isQuoted, same⟩ := literalRest_sound read
    exact same ▸ .short isQuoted
  next => cases read

theorem quotation_complete (written : Quotation text chars rest)
    (boundary : ∀ c ∈ rest.head?, c ≠ '"' ∧ c ≠ '\'') :
    quotation text = some (chars, rest) := by
  cases written with
  | short isQuoted => exact quotation_quoted isQuoted boundary
  | long known opening more =>
      rcases known with rfl | rfl
      · exact LongKind.rest_complete (.inl rfl) opening more fun c next => (boundary c next).1
      · exact LongKind.rest_complete (.inr rfl) opening more fun c next => (boundary c next).2

theorem Grammar.Quotation.head (written : Quotation text chars rest) :
    ∃ c others, text = c :: others ∧ (c = '"' ∨ c = '\'') := by
  cases written with
  | short isQuoted =>
      obtain ⟨c, others, rfl, quote⟩ := isQuoted.head
      exact ⟨c, _, rfl, quote⟩
  | long known _ _ =>
      rcases known with rfl | rfl
      · exact ⟨_, _, rfl, .inl rfl⟩
      · exact ⟨_, _, rfl, .inr rfl⟩

end DevCluster.Document
