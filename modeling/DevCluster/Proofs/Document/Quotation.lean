import DevCluster.Document.Quotation
import DevCluster.Proofs.Document.Numerals
import DevCluster.Proofs.Document.Reader

/-!
The ways in which a string of one line can be written between quotes, and that each is read back as
the string.
-/

namespace DevCluster.Document

/-- The letters that stand for a character behind a backslash. -/
def escapeLetters : List (Char × Char) :=
  [('b', '\x08'), ('t', '\t'), ('n', '\n'), ('f', '\x0c'), ('r', '\r'), ('"', '"'), ('\\', '\\')]

/-- What may follow a backslash for a character. -/
inductive Escaped : Char → List Char → Prop
  | short {c letter} : (letter, c) ∈ escapeLetters → Escaped c [letter]
  | four {c digits} : Fixed 16 4 digits c.toNat → Escaped c ('u' :: digits)
  | eight {c digits} : Fixed 16 8 digits c.toNat → Escaped c ('U' :: digits)

/-- How a string can be written between double quotes: each character as it is, if it may stand so,
or by an escape. -/
inductive Spelled : List Char → List Char → Prop
  | nil : Spelled [] []
  | plain {c text spelling} : isTextChar c = true → c ≠ '"' → c ≠ '\\' → Spelled text spelling →
      Spelled (c :: text) (c :: spelling)
  | escaped {c letters text spelling} : Escaped c letters → Spelled text spelling →
      Spelled (c :: text) ('\\' :: (letters ++ spelling))

/-- How a string can be written on one line, between double or single quotes. -/
inductive Quoted (text : List Char) : List Char → Prop
  | basic {spelling} : Spelled text spelling → Quoted text ('"' :: (spelling ++ ['"']))
  | literal : (∀ c ∈ text, isTextChar c = true ∧ c ≠ '\'') →
      Quoted text ('\'' :: (text ++ ['\'']))

theorem next_letter_meant {c letter : Char} :
    Escape.letter.next letter = some (.inr c) ↔ (letter, c) ∈ escapeLetters := by
  constructor
  · intro meant
    simp only [Escape.next] at meant
    split at meant <;> simp_all [escapeLetters, eq_comm]
  · intro listed
    simp only [escapeLetters, List.mem_cons, Prod.mk.injEq, List.not_mem_nil, or_false] at listed
    rcases listed with ⟨rfl, rfl⟩ | ⟨rfl, rfl⟩ | ⟨rfl, rfl⟩ | ⟨rfl, rfl⟩ | ⟨rfl, rfl⟩ | ⟨rfl, rfl⟩ |
      ⟨rfl, rfl⟩ <;> rfl

def hexNumber (value : Nat) (digits : List Char) : Option Nat :=
  digits.foldlM (fun value digit => (Text.hexValue digit).map (value * 16 + ·)) value

theorem hexNumber_eq_some_iff {value total : Nat} {digits : List Char} :
    hexNumber value digits = some total ↔ (∀ c ∈ digits, isBaseDigit 16 c = true) ∧
      value * 16 ^ digits.length + natOfDigits 16 digits = total := by
  induction digits generalizing value with
  | nil => simp [hexNumber, natOfDigits]
  | cons c digits ih =>
      have next : hexNumber value (c :: digits) =
          (Text.hexValue c).bind fun own => hexNumber (value * 16 + own) digits := by
        simp only [hexNumber, List.foldlM_cons]
        cases Text.hexValue c <;> rfl
      rw [next, List.forall_mem_cons, List.length_cons, isBaseDigit_iff]
      simp only [Option.bind_eq_some_iff, ih, digit_sixteen]
      constructor
      · rintro ⟨own, valued, all, rfl⟩
        refine ⟨⟨⟨own, valued⟩, all⟩, ?_⟩
        rw [natOfDigits_cons (digit_sixteen.mpr valued)]
        ring
      · rintro ⟨⟨⟨own, valued⟩, all⟩, rfl⟩
        refine ⟨own, valued, all, ?_⟩
        rw [natOfDigits_cons (digit_sixteen.mpr valued)]
        ring

theorem fixed_hex_iff {count value : Nat} {digits : List Char} (some : count ≠ 0) :
    Fixed 16 count digits value ↔ digits.length = count ∧ hexNumber 0 digits = .some value := by
  rw [fixed_iff, hexNumber_eq_some_iff, Nat.zero_mul, Nat.zero_add]
  constructor
  · rintro ⟨_, all, long, valued⟩
    exact ⟨long, all, valued⟩
  · rintro ⟨long, all, valued⟩
    refine ⟨?_, all, long, valued⟩
    rintro rfl
    exact some long.symm

theorem Verdict.readFrom_more {σ : Type} {step : σ → Char → Verdict σ}
    {atEnd : σ → Option (List Char)} {state next : σ} {c : Char}
    {added text rest remaining : List Char}
    (taken : step state c = .more added next)
    (others : readFrom step atEnd next rest = some (text, remaining)) :
    readFrom step atEnd state (c :: rest) = some (added ++ text, remaining) := by
  simp [readFrom, taken, others]

variable {c : Char} {text rest remaining : List Char}

def escapeRest (escape : Escape) : Reader (List Char) :=
  Verdict.readFrom basicStep (fun _ => none) (some escape)

theorem escapeRest_meant {escape : Escape} {letter : Char}
    (meant : escape.next letter = some (.inr c))
    (others : basicRest rest = some (text, remaining)) :
    escapeRest escape (letter :: rest) = some (c :: text, remaining) := by
  have taken : basicStep (some escape) letter = .more [c] none := by simp [basicStep, meant]
  exact Verdict.readFrom_more taken others

theorem escapeRest_awaited {escape awaited : Escape} {letter : Char}
    (wait : escape.next letter = some (.inl awaited))
    (others : escapeRest awaited rest = some (text, remaining)) :
    escapeRest escape (letter :: rest) = some (text, remaining) := by
  have taken : basicStep (some escape) letter = .more [] (some awaited) := by
    simp [basicStep, wait]
  exact Verdict.readFrom_more taken others

theorem escapeRest_digits {digits : List Char} {missing value : Nat}
    (long : digits.length = missing + 1) (number : hexNumber value digits = some c.toNat)
    (others : basicRest rest = some (text, remaining)) :
    escapeRest (.digits (missing + 1) value) (digits ++ rest) = some (c :: text, remaining) := by
  induction digits generalizing missing value with
  | nil => simp at long
  | cons digit digits ih =>
      simp only [hexNumber, List.foldlM_cons, Option.bind_eq_bind, Option.bind_eq_some_iff,
        Option.map_eq_some_iff] at number
      obtain ⟨_, ⟨own, digitValue, rfl⟩, number⟩ := number
      cases missing with
      | zero =>
          obtain rfl : digits = [] := List.eq_nil_of_length_eq_zero (by simpa using long)
          have same : value * 16 + own = c.toNat := by simpa using number
          have valid : c.toNat.isValidChar := c.valid
          refine escapeRest_meant ?_ others
          simp [Escape.next, digitValue, same, valid, Char.ofNat_toNat]
      | succ missing =>
          refine escapeRest_awaited ?_ (ih (by simpa using long) number)
          simp [Escape.next, digitValue]

theorem basicRest_escaped {letters : List Char} (escaped : Escaped c letters)
    (others : basicRest rest = some (text, remaining)) :
    basicRest ('\\' :: (letters ++ rest)) = some (c :: text, remaining) := by
  have taken : basicStep none '\\' = .more [] (some .letter) := rfl
  refine Verdict.readFrom_more taken ?_
  cases escaped with
  | short listed => exact escapeRest_meant (next_letter_meant.mpr listed) others
  | four fixed =>
      obtain ⟨long, number⟩ := (fixed_hex_iff (by simp)).mp fixed
      exact escapeRest_awaited rfl (escapeRest_digits long number others)
  | eight fixed =>
      obtain ⟨long, number⟩ := (fixed_hex_iff (by simp)).mp fixed
      exact escapeRest_awaited rfl (escapeRest_digits long number others)

theorem basicRest_spelled {spelling : List Char} (spelled : Spelled text spelling) :
    basicRest (spelling ++ '"' :: rest) = some (text, rest) := by
  induction spelled with
  | nil => simp [basicRest, Verdict.readFrom, basicStep]
  | @plain c text spelling allowed quote backslash _ ih =>
      have taken : basicStep none c = .more [c] none := by
        simp [basicStep, allowed, quote, backslash]
      exact Verdict.readFrom_more taken ih
  | @escaped c letters text spelling escaped _ ih =>
      rw [List.cons_append, List.append_assoc]
      exact basicRest_escaped escaped ih

theorem literalRest_text (allowed : ∀ c ∈ text, isTextChar c = true ∧ c ≠ '\'') :
    literalRest (text ++ '\'' :: rest) = some (text, rest) := by
  have taken : Reader.run (fun c => isTextChar c && c ≠ '\'') (text ++ '\'' :: rest) =
      some (text, '\'' :: rest) :=
    Reader.run_eq text (by simpa using allowed) (by simp)
  rw [literalRest, Reader.bind_eq taken, Reader.bind_eq (Reader.expect_eq '\'')]
  rfl

/-- A string is read back however it is quoted, unless a third quote makes it one of several
lines. -/
theorem quotation_quoted {quoted : List Char} (isQuoted : Quoted text quoted)
    (boundary : ∀ c ∈ rest.head?, c ≠ '"' ∧ c ≠ '\'') :
    quotation (quoted ++ rest) = some (text, rest) := by
  cases isQuoted with
  | @basic spelling spelled =>
      rw [List.cons_append, List.append_assoc, quotation.eq_3]
      · exact basicRest_spelled spelled
      · -- Only an empty string with a quote behind it could open a string of several lines.
        intro others tripled
        cases spelled with
        | nil =>
            cases rest with
            | nil => cases tripled
            | cons c rest =>
                cases tripled
                exact (boundary _ rfl).1 rfl
        | plain _ quote => exact quote (List.cons.inj tripled).1
        | escaped => cases tripled
  | literal allowed =>
      rw [List.cons_append, List.append_assoc, quotation.eq_4]
      · exact literalRest_text allowed
      · intro others tripled
        cases text with
        | nil =>
            cases rest with
            | nil => cases tripled
            | cons c rest =>
                cases tripled
                exact (boundary _ rfl).2 rfl
        | cons c text => exact (allowed c List.mem_cons_self).2 (List.cons.inj tripled).1

def hexDigits (c : Char) : List Char :=
  (List.range 8).map fun place => Nat.digitChar (c.toNat / 16 ^ (7 - place) % 16)

theorem hexValue_digitChar {digit : Nat} (bound : digit < 16) :
    Text.hexValue (Nat.digitChar digit) = some digit := by
  revert digit
  decide

theorem hexNumber_hexDigits (c : Char) : hexNumber 0 (hexDigits c) = some c.toNat := by
  have bound : c.toNat < 2 ^ 32 := c.val.toNat_lt
  simp only [hexNumber, hexDigits, List.range, List.range.loop, List.map_cons, List.map_nil,
    List.foldlM_cons, List.foldlM_nil, hexValue_digitChar (Nat.mod_lt _ (by decide : 0 < 16))]
  simp
  omega

/-- A string between double quotes, where all but the plain characters are escaped. -/
def spell : List Char → List Char
  | [] => []
  | c :: text =>
    if isTextChar c && c ≠ '"' && c ≠ '\\' then c :: spell text
    else '\\' :: 'U' :: (hexDigits c ++ spell text)

theorem spell_spelled (text : List Char) : Spelled text (spell text) := by
  induction text with
  | nil => exact .nil
  | cons c text ih =>
      simp only [spell]
      split
      · rename_i plain
        simp only [Bool.and_eq_true, decide_eq_true_eq] at plain
        exact .plain plain.1.1 plain.1.2 plain.2 ih
      · have fixed : Fixed 16 8 (hexDigits c) c.toNat :=
          (fixed_hex_iff (by simp)).mpr ⟨rfl, hexNumber_hexDigits c⟩
        exact .escaped (.eight fixed) ih

def quote (text : String) : List Char :=
  '"' :: (spell text.toList ++ ['"'])

theorem quote_quoted (text : String) : Quoted text.toList (quote text) :=
  .basic (spell_spelled text.toList)

end DevCluster.Document
