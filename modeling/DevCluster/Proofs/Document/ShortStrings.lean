import DevCluster.Proofs.Document.Grammar

/-!
Strings of one line: what is read as one is written as one. An escape is read letter by letter.
-/

namespace DevCluster.Document

open Grammar

/-- The letters by which an escape may be finished that has begun, and what it then stands for. -/
inductive Escape.Finishes : Escape → List Char → Char → Prop
  | last {escape letter c} : next escape letter = some (.inr c) → Finishes escape [letter] c
  | more {escape awaited letter letters c} : next escape letter = some (.inl awaited) →
      Finishes awaited letters c → Finishes escape (letter :: letters) c

namespace Escape

variable {letters : List Char} {letter c : Char} {missing value : Nat} {awaited : Escape}

theorem next_digits_last : next (.digits 1 value) letter = some (.inr c) ↔
    ∃ own, Text.hexValue letter = some own ∧ value * 16 + own = c.toNat := by
  cases digit : Text.hexValue letter with
  | none => simp [next, digit]
  | some own =>
      by_cases valid : (value * 16 + own).isValidChar
      · simp only [next, digit, Option.bind_eq_bind, Option.bind_some, lt_irrefl, if_false, valid,
          if_true, Option.some.injEq, Sum.inr.injEq, exists_eq_left']
        constructor
        · rintro rfl
          rw [Char.toNat_ofNat, if_pos valid]
        · intro same
          rw [same, Char.ofNat_toNat]
      · simp only [next, digit, Option.bind_eq_bind, Option.bind_some, lt_irrefl, if_false, valid,
          reduceCtorEq, false_iff, Option.some.injEq, exists_eq_left']
        intro same
        exact valid (same ▸ c.valid)

theorem next_digits_more : next (.digits (missing + 2) value) letter = some (.inl awaited) ↔
    ∃ own, Text.hexValue letter = some own ∧
      awaited = .digits (missing + 1) (value * 16 + own) := by
  cases digit : Text.hexValue letter with
  | none => simp [next, digit]
  | some own => simp [next, digit, eq_comm]

theorem finishes_hexNumber : Finishes (.digits (missing + 1) value) letters c ↔
    letters.length = missing + 1 ∧ hexNumber value letters = some c.toNat := by
  -- The last digit gives the character and all others only add to the number, so the induction
  -- begins where one digit is missing.
  induction missing generalizing value letters with
  | zero =>
      constructor
      · intro finishes
        cases finishes with
        | last meant =>
            obtain ⟨own, digit, same⟩ := next_digits_last.mp meant
            simp [hexNumber, digit, same]
        | @more _ _ letter _ _ wait _ =>
            cases digit : Text.hexValue letter <;> simp [next, digit] at wait
      · rintro ⟨single, number⟩
        obtain ⟨letter, rfl⟩ := List.length_eq_one_iff.mp single
        refine .last (next_digits_last.mpr ?_)
        simpa [hexNumber] using number
  | succ missing ih =>
      constructor
      · intro finishes
        cases finishes with
        | @last _ letter _ meant =>
            cases digit : Text.hexValue letter <;> simp [next, digit] at meant
        | more wait others =>
            obtain ⟨own, digit, rfl⟩ := next_digits_more.mp wait
            obtain ⟨long, number⟩ := ih.mp others
            simpa [hexNumber, digit, long] using number
      · rintro ⟨long, number⟩
        obtain ⟨letter, letters, rfl⟩ := List.exists_cons_of_length_eq_add_one long
        simp only [hexNumber, List.foldlM_cons, Option.bind_eq_bind, Option.bind_eq_some_iff,
          Option.map_eq_some_iff] at number
        obtain ⟨_, ⟨own, digit, rfl⟩, number⟩ := number
        exact .more (next_digits_more.mpr ⟨own, digit, rfl⟩)
          (ih.mpr ⟨Nat.succ.inj long, number⟩)

theorem finishes_digits : Finishes (.digits (missing + 1) 0) letters c ↔
    Fixed 16 (missing + 1) letters c.toNat :=
  finishes_hexNumber.trans (fixed_hex_iff missing.succ_ne_zero).symm

theorem next_letter_more : next .letter letter = some (.inl awaited) ↔
    letter = 'u' ∧ awaited = .digits 4 0 ∨ letter = 'U' ∧ awaited = .digits 8 0 := by
  constructor
  · intro wait
    simp only [next] at wait
    split at wait <;> simp_all [eq_comm]
  · rintro (⟨rfl, rfl⟩ | ⟨rfl, rfl⟩) <;> rfl

theorem next_ne_letter {escape : Escape} : escape.next letter ≠ some (.inl .letter) := by
  intro wait
  cases escape with
  | letter =>
      rcases next_letter_more.mp wait with ⟨_, again⟩ | ⟨_, again⟩ <;> cases again
  | digits missing value =>
      cases digit : Text.hexValue letter with
      | none => simp [next, digit] at wait
      | some own =>
          simp only [next, digit, Option.bind_eq_bind, Option.bind_some] at wait
          split at wait
          · cases wait
          · split at wait <;> cases wait

theorem finishes_letter : Finishes .letter letters c ↔ Escaped c letters := by
  constructor
  · intro finishes
    cases finishes with
    | last meant => exact .short (next_letter_meant.mp meant)
    | more wait others =>
        rcases next_letter_more.mp wait with ⟨rfl, rfl⟩ | ⟨rfl, rfl⟩
        · exact .four (finishes_digits.mp others)
        · exact .eight (finishes_digits.mp others)
  · intro escaped
    cases escaped with
    | short listed => exact .last (next_letter_meant.mpr listed)
    | four fixed => exact .more rfl (finishes_digits.mpr fixed)
    | eight fixed => exact .more rfl (finishes_digits.mpr fixed)

end Escape

variable {text rest chars quoted : List Char}

theorem Verdict.readFrom_eq_some {σ : Type} {step : σ → Char → Verdict σ}
    {atEnd : σ → Option (List Char)} {state : σ} {c : Char}
    (read : readFrom step atEnd state (c :: text) = some (chars, rest)) :
    (∃ added next after, step state c = .more added next ∧
        readFrom step atEnd next text = some (after, rest) ∧ chars = added ++ after) ∨
      (step state c = .closed ∧ chars = [] ∧ rest = text) ∨
      (step state c = .closedBefore chars ∧ rest = c :: text) := by
  rw [readFrom] at read
  cases taken : step state c with
  | more added next =>
      simp only [taken, Option.bind_eq_bind, Option.bind_eq_some_iff, Option.some.injEq] at read
      obtain ⟨⟨after, _⟩, others, same⟩ := read
      obtain ⟨rfl, rfl⟩ := Prod.mk.inj same
      exact .inl ⟨added, next, after, rfl, others, rfl⟩
  | closed =>
      simp only [taken, Option.some.injEq] at read
      obtain ⟨rfl, rfl⟩ := Prod.mk.inj read
      exact .inr (.inl ⟨rfl, rfl, rfl⟩)
  | closedBefore added =>
      simp only [taken, Option.some.injEq] at read
      obtain ⟨rfl, rfl⟩ := Prod.mk.inj read
      exact .inr (.inr ⟨rfl, rfl⟩)
  | fault => simp [taken] at read

/-- What a character can do to a string of one line between double quotes. -/
inductive BasicStep : Option Escape → Char → Verdict (Option Escape) → Prop
  | closed : BasicStep none '"' .closed
  | backslash : BasicStep none '\\' (.more [] (some .letter))
  | plain {c} : isTextChar c = true → c ≠ '"' → c ≠ '\\' → BasicStep none c (.more [c] none)
  | awaited {escape letter later} : Escape.next escape letter = some (.inl later) →
      BasicStep (some escape) letter (.more [] (some later))
  | meant {escape letter c} : Escape.next escape letter = some (.inr c) →
      BasicStep (some escape) letter (.more [c] none)
  | fault {state c} : BasicStep state c .fault

theorem basicStep_cases (state : Option Escape) (c : Char) :
    BasicStep state c (basicStep state c) := by
  cases state with
  | none =>
      rw [basicStep]
      split
      next quote => exact quote ▸ .closed
      next quote =>
        split
        next backslash => exact backslash ▸ .backslash
        next backslash =>
          split
          next allowed => exact .plain allowed quote backslash
          next => exact .fault
  | some escape =>
      rw [basicStep]
      split
      next awaited wait => exact .awaited wait
      next meant ended => exact .meant ended
      next => exact .fault

/-- What a state of the reader makes of a text: the rest of an escape if it is in one, and then a
spelling and the closing quote. -/
theorem basicStep_sound {state : Option Escape}
    (read : Verdict.readFrom basicStep (fun _ => none) state text = some (chars, rest)) :
    ∃ letters after spelling, text = letters ++ (spelling ++ '"' :: rest) ∧
      Spelled after spelling ∧
      match state with
      | none => letters = [] ∧ chars = after
      | some escape => ∃ c, escape.Finishes letters c ∧ chars = c :: after := by
  -- What the next state makes of the text to come decides what this one makes of it.
  induction text generalizing state chars with
  | nil => cases read
  | cons c text ih =>
      have step := basicStep_cases state c
      rcases Verdict.readFrom_eq_some read with
        ⟨added, next, after, taken, others, rfl⟩ | ⟨taken, rfl, rfl⟩ | ⟨taken, rfl⟩
      · obtain ⟨letters, following, spelling, rfl, spelled, meaning⟩ := ih others
        rw [taken] at step
        cases step with
        | backslash =>
            obtain ⟨meant, finishes, rfl⟩ := meaning
            have escaped := Escape.finishes_letter.mp finishes
            refine ⟨[], _, '\\' :: (letters ++ spelling), ?_, .escaped escaped spelled, rfl, rfl⟩
            simp
        | plain allowed quote backslash =>
            obtain ⟨rfl, rfl⟩ := meaning
            exact ⟨[], _, c :: spelling, rfl, .plain allowed quote backslash spelled, rfl, rfl⟩
        | awaited wait =>
            obtain ⟨meant, finishes, rfl⟩ := meaning
            exact ⟨c :: letters, following, spelling, rfl, spelled, meant, .more wait finishes, rfl⟩
        | meant ended =>
            obtain ⟨rfl, rfl⟩ := meaning
            exact ⟨[c], _, spelling, rfl, spelled, _, .last ended, rfl⟩
      · rw [taken] at step
        cases step
        exact ⟨[], [], [], rfl, .nil, rfl, rfl⟩
      · rw [taken] at step
        cases step

theorem basicRest_sound (read : basicRest text = some (chars, rest)) :
    ∃ quoted, Quoted chars quoted ∧ '"' :: text = quoted ++ rest := by
  obtain ⟨letters, after, spelling, rfl, spelled, rfl, rfl⟩ := basicStep_sound read
  exact ⟨_, .basic spelled, by simp⟩

theorem literalRest_sound (read : literalRest text = some (chars, rest)) :
    ∃ quoted, Quoted chars quoted ∧ '\'' :: text = quoted ++ rest := by
  simp only [literalRest, Reader.bind_eq_some, Reader.run_eq_some, Reader.expect_eq_some,
    Reader.pure_eq_some] at read
  obtain ⟨_, middle, ⟨rfl, allowed, _⟩, _, _, rfl, same⟩ := read
  obtain ⟨rfl, rfl⟩ := Prod.mk.inj same
  refine ⟨_, .literal fun c member => ?_, by simp⟩
  simpa using allowed c member

end DevCluster.Document
