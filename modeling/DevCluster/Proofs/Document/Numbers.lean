import DevCluster.Proofs.Document.Grammar

/-!
Numbers: what is read as one is written as one, and what is written as one is read as it. The first
character that is no sign, digit or underscore tells what a word is.
-/

namespace DevCluster.Document

open Grammar

variable {text sign rest digits : List Char} {negative : Bool} {base count value : Nat}
  {number : Int} {c : Char}

def isFigure (c : Char) : Bool := c.isDigit || c = '_'

theorem Numeral.figures (numeral : Numeral 10 text count value) :
    ∀ c ∈ text, isFigure c = true := by
  induction numeral with
  | last digit => simp [isFigure, digit.isDigit]
  | more digit _ ih => exact List.forall_mem_cons.mpr ⟨by simp [isFigure, digit.isDigit], ih⟩
  | spaced digit _ ih =>
      refine List.forall_mem_cons.mpr ⟨by simp [isFigure, digit.isDigit], ?_⟩
      exact List.forall_mem_cons.mpr ⟨rfl, ih⟩

/-- Whether a text begins with a digit. -/
def Numbered (text : List Char) : Prop :=
  ∃ c others, text = c :: others ∧ c.isDigit = true

theorem Numbered.append (numbered : Numbered text) : Numbered (text ++ rest) := by
  obtain ⟨c, others, rfl, digit⟩ := numbered
  exact ⟨c, others ++ rest, rfl, digit⟩

theorem Numbered.unsigned (numbered : Numbered text) : ∀ c ∈ text.head?, c ≠ '+' ∧ c ≠ '-' := by
  obtain ⟨c, others, rfl, digit⟩ := numbered
  intro d next
  cases next
  constructor <;> rintro rfl <;> cases digit

theorem Numeral.numbered (numeral : Numeral 10 text count value) : Numbered text := by
  obtain ⟨c, others, own, rfl, digit⟩ := numeral.head
  exact ⟨c, others, rfl, digit.isDigit⟩

theorem Grammar.Whole.figures (whole : Whole text value) : ∀ c ∈ text, isFigure c = true := by
  cases whole with
  | zero => simp [isFigure]
  | number _ numeral => exact numeral.figures

theorem isFigure_cases (figure : isFigure c = true) : c.isDigit = true ∨ c = '_' := by
  simpa [isFigure] using figure

theorem Grammar.Whole.numbered (whole : Whole text value) : Numbered text := by
  cases whole with
  | zero => exact ⟨'0', [], rfl, rfl⟩
  | number _ numeral => exact numeral.numbered

/-! Signs. -/

theorem exists_sign (text : List Char) :
    ∃ sign, Sign sign (splitSign text).1 ∧ text = sign ++ (splitSign text).2 := by
  unfold splitSign
  split
  · exact ⟨_, .plus, rfl⟩
  · exact ⟨_, .minus, rfl⟩
  · exact ⟨_, .none, rfl⟩

theorem Grammar.Sign.splitSign (signed : Sign sign negative)
    (unsigned : ∀ c ∈ text.head?, c ≠ '+' ∧ c ≠ '-') :
    Document.splitSign (sign ++ text) = (negative, text) := by
  cases signed with
  | none =>
      refine splitSign.eq_3 text (fun rest same => ?_) fun rest same => ?_
      · exact (unsigned '+' (by simp [same])).1 rfl
      · exact (unsigned '-' (by simp [same])).2 rfl
  | plus => rfl
  | minus => rfl

/-! Whole numbers. -/

theorem digitRun_head {isDigit : Char → Bool} (run : digitRun isDigit text = some digits) :
    digits.head? = text.head? := by
  fun_induction digitRun isDigit text with
  | case1 => cases run
  | case2 => cases run; rfl
  | case3 => cases run
  | case4 => obtain ⟨_, _, rfl⟩ := Option.map_eq_some_iff.mp run; rfl
  | case5 => cases run
  | case6 => obtain ⟨_, _, rfl⟩ := Option.map_eq_some_iff.mp run; rfl
  | case7 => cases run

theorem Numeral.eq_singleton (numeral : Numeral base text 1 value) : ∃ c, text = [c] := by
  have positive {text : List Char} {count value : Nat} (numeral : Numeral base text count value) :
      0 < count := by
    cases numeral <;> omega
  cases numeral with
  | last => exact ⟨_, rfl⟩
  | more _ others => cases positive others
  | spaced _ others => cases positive others

theorem wholePart_iff : (∃ digits, wholePart text = some digits ∧ natOfDigits 10 digits = value) ↔
    Whole text value := by
  simp only [wholePart, ← isBaseDigit_ten, Option.bind_eq_bind, Option.bind_eq_some_iff]
  constructor
  · rintro ⟨_, ⟨digits, run, read⟩, rfl⟩
    split at read
    next => cases read
    next allowed =>
      obtain rfl := Option.some.inj read
      have numeral := Numeral.of_digitRun run
      obtain ⟨c, others, own, rfl, digit⟩ := numeral.head
      have head : digits.head? = some c := digitRun_head run
      by_cases zero : c = '0'
      · subst zero
        have single : digits.length = 1 := by
          have nonempty : digits.length ≠ 0 := by
            rintro empty
            rw [List.eq_nil_of_length_eq_zero empty] at head
            cases head
          by_contra several
          exact allowed ⟨by omega, head⟩
        rw [single] at numeral
        obtain ⟨_, same⟩ := numeral.eq_singleton
        cases same
        cases run
        exact .zero
      · exact .number zero numeral
  · intro whole
    cases whole with
    | zero => exact ⟨['0'], ⟨['0'], rfl, rfl⟩, rfl⟩
    | number nonzero numeral =>
        obtain ⟨digits, run, rfl, rfl⟩ := numeral.digitRun
        have head := digitRun_head run
        refine ⟨digits, ⟨digits, run, if_neg fun zero => nonzero ?_⟩, rfl⟩
        simpa [head] using zero.2

theorem word64_eq_some_iff {value : Int} :
    word64 value = some number ↔ -2 ^ 63 ≤ value ∧ value < 2 ^ 63 ∧ value = number := by
  rw [word64]
  split <;> simp <;> omega

theorem integerBased_iff : integerBased base text = some number ↔
    ∃ count value, Numeral base text count value ∧ value < 2 ^ 63 ∧ value = number := by
  simp only [integerBased, Option.bind_eq_bind, Option.bind_eq_some_iff, word64_eq_some_iff,
    numeral_iff]
  constructor
  · rintro ⟨digits, run, _, bound, rfl⟩
    exact ⟨_, _, ⟨digits, run, rfl, rfl⟩, by omega, rfl⟩
  · rintro ⟨_, _, ⟨digits, run, rfl, rfl⟩, bound, rfl⟩
    exact ⟨digits, run, by omega, by omega, rfl⟩

/-- Behind a zero at its front a signed number ends. -/
theorem Grammar.Sign.whole_ne (signed : Sign sign negative) (whole : Whole text value)
    (letter : Char) (rest : List Char) : sign ++ text ≠ '0' :: letter :: rest := by
  intro same
  cases signed with
  | none =>
      cases whole with
      | zero => cases same
      | number nonzero => exact nonzero (List.cons.inj same).1
  | plus => cases same
  | minus => cases same

theorem integer?_iff : integer? text = some number ↔ Integer text number := by
  constructor
  · intro read
    unfold integer? at read
    split at read
    next text =>
      obtain ⟨_, _, numeral, bound, rfl⟩ := integerBased_iff.mp read
      exact .based (by simp) numeral bound
    next text =>
      obtain ⟨_, _, numeral, bound, rfl⟩ := integerBased_iff.mp read
      exact .based (by simp) numeral bound
    next text =>
      obtain ⟨_, _, numeral, bound, rfl⟩ := integerBased_iff.mp read
      exact .based (by simp) numeral bound
    next =>
      obtain ⟨sign, signed, same⟩ := exists_sign text
      generalize splitSign text = parts at read signed same
      subst same
      simp only [Option.bind_eq_bind, Option.bind_eq_some_iff, word64_eq_some_iff] at read
      obtain ⟨digits, part, least, greatest, rfl⟩ := read
      exact .decimal signed (wholePart_iff.mp ⟨digits, part, rfl⟩) least greatest
  · intro written
    cases written with
    | @decimal sign negative text value signed whole least greatest =>
        rw [integer?.eq_4 _ (signed.whole_ne whole _) (signed.whole_ne whole _)
          (signed.whole_ne whole _), signed.splitSign whole.numbered.unsigned]
        obtain ⟨digits, part, rfl⟩ := wholePart_iff.mpr whole
        simp only [part, Option.bind_eq_bind, Option.bind_some, word64_eq_some_iff]
        exact ⟨least, greatest, rfl⟩
    | based listed numeral bound =>
        have read := integerBased_iff.mpr ⟨_, _, numeral, bound, rfl⟩
        simp only [List.mem_cons, Prod.mk.injEq, List.not_mem_nil, or_false] at listed
        rcases listed with ⟨rfl, rfl⟩ | ⟨rfl, rfl⟩ | ⟨rfl, rfl⟩ <;> exact read

/-! Floating-point numbers. -/

/-- Whether a text goes on with an exponent, or has ended. -/
def Powered (text : List Char) : Prop :=
  ∀ c ∈ text.head?, c = 'e' ∨ c = 'E'

theorem Grammar.Exponent.powered {power : Int} (exponent : Exponent text power) :
    Powered text := by
  cases exponent with
  | none => simp [Powered]
  | power letter _ _ => simpa [Powered] using letter

theorem exponent?_iff {power : Int} : exponent? text = some power ↔ Exponent text power := by
  constructor
  · intro read
    cases text with
    | nil =>
        cases read
        exact .none
    | cons letter text =>
        rw [exponent?] at read
        split at read
        next announced =>
          obtain ⟨sign, signed, same⟩ := exists_sign text
          generalize splitSign text = parts at read signed same
          subst same
          rw [← isBaseDigit_ten] at read
          simp only [Option.bind_eq_bind, Option.bind_eq_some_iff, Option.some.injEq] at read
          obtain ⟨digits, run, rfl⟩ := read
          exact .power announced signed (.of_digitRun run)
        next => cases read
  · intro written
    cases written with
    | none => rfl
    | @power letter sign negative text _ _ announced signed numeral =>
        obtain ⟨digits, run, rfl, rfl⟩ := numeral.digitRun
        rw [exponent?, if_pos announced, signed.splitSign numeral.numbered.unsigned,
          ← isBaseDigit_ten]
        simp only [run]
        rfl

theorem fraction?_sound (read : fraction? text = some (digits, rest)) :
    ∃ fraction, text = fraction ++ rest ∧
      Fraction fraction digits.length (natOfDigits 10 digits) := by
  unfold fraction? at read
  split at read
  next text =>
    rw [← isBaseDigit_ten] at read
    simp only [Option.bind_eq_bind, Option.bind_eq_some_iff, Option.some.injEq] at read
    obtain ⟨digits, run, same⟩ := read
    obtain ⟨rfl, rfl⟩ := Prod.mk.inj same
    refine ⟨_, ?_, .digits (.of_digitRun run)⟩
    rw [List.cons_append, List.takeWhile_append_dropWhile]
  next =>
    cases read
    exact ⟨[], rfl, .none⟩

theorem fraction?_complete {fraction : List Char} (written : Fraction fraction count value)
    (powered : Powered rest) : ∃ digits, fraction? (fraction ++ rest) = some (digits, rest) ∧
      digits.length = count ∧ natOfDigits 10 digits = value := by
  cases written with
  | none =>
      refine ⟨[], fraction?.eq_2 rest fun text same => ?_, rfl, rfl⟩
      have point := powered '.' (by simp [same])
      simp at point
  | @digits text _ _ numeral =>
      have inside : ∀ c ∈ text, decide (c ≠ 'e' ∧ c ≠ 'E') = true := by
        intro c member
        rcases isFigure_cases (numeral.figures c member) with digit | rfl
        · refine decide_eq_true ⟨?_, ?_⟩ <;> rintro rfl <;> cases digit
        · rfl
      have outside : ∀ c ∈ rest.head?, decide (c ≠ 'e' ∧ c ≠ 'E') = false := by
        intro c next
        rcases powered c next with rfl | rfl <;> rfl
      have taken := Reader.run_eq text inside outside
      obtain ⟨own, behind⟩ := Prod.mk.inj (Option.some.inj taken)
      obtain ⟨digits, run, rfl, rfl⟩ := numeral.digitRun
      refine ⟨digits, ?_, rfl, rfl⟩
      rw [List.cons_append, fraction?, own, behind, ← isBaseDigit_ten, run]
      rfl

theorem decimal?_sound {number : Binary64} (read : decimal? negative text = some number) :
    ∃ digits power, Scaled text digits power ∧
      number = Binary64.ofDecimal negative digits power := by
  simp only [decimal?, Option.bind_eq_bind, Option.bind_eq_some_iff] at read
  obtain ⟨digits, part, read⟩ := read
  have parted : _ = text :=
    List.takeWhile_append_dropWhile (p := fun c => decide (c ≠ '.') && c ≠ 'e' && c ≠ 'E')
  generalize List.takeWhile _ text = whole at part parted
  generalize List.dropWhile _ text = tail at read parted
  subst parted
  split at read
  next => cases read
  next nonempty =>
    simp only [Option.bind_eq_some_iff, Option.some.injEq, Prod.exists] at read
    obtain ⟨_, rest, fractionRead, power, exponentRead, rfl⟩ := read
    obtain ⟨fraction, rfl, fractional⟩ := fraction?_sound fractionRead
    have whole := wholePart_iff.mp ⟨digits, part, rfl⟩
    have exponent := exponent?_iff.mp exponentRead
    refine ⟨_, _, .number whole fractional exponent (by simpa using nonempty), ?_⟩
    rw [natOfDigits_append]

theorem decimal?_complete {power : Int} (scaled : Scaled text value power) :
    decimal? negative text = some (Binary64.ofDecimal negative value power) := by
  cases scaled with
  | @number whole _ fraction _ _ exponent _ isWhole fractional powered nonempty =>
      have inside : ∀ c ∈ whole, (decide (c ≠ '.') && c ≠ 'e' && c ≠ 'E') = true := by
        intro c member
        rcases isFigure_cases (isWhole.figures c member) with digit | rfl
        · simp only [Bool.and_eq_true, decide_eq_true_eq]
          refine ⟨⟨?_, ?_⟩, ?_⟩ <;> rintro rfl <;> cases digit
        · rfl
      have outside : ∀ c ∈ (fraction ++ exponent).head?,
          (decide (c ≠ '.') && c ≠ 'e' && c ≠ 'E') = false := by
        intro c next
        cases fractional with
        | none => rcases powered.powered c next with rfl | rfl <;> rfl
        | digits => cases next; rfl
      have taken := Reader.run_eq whole inside outside
      obtain ⟨own, behind⟩ := Prod.mk.inj (Option.some.inj taken)
      obtain ⟨digits, part, rfl⟩ := wholePart_iff.mpr isWhole
      obtain ⟨others, read, rfl, rfl⟩ := fraction?_complete fractional powered.powered
      have power := exponent?_iff.mpr powered
      simp only [decimal?, own, behind, part, read, power, natOfDigits_append, Option.bind_eq_bind,
        Option.bind_some]
      rw [if_neg (by simpa using nonempty)]

theorem Grammar.Scaled.numbered {power : Int} (scaled : Scaled text value power) :
    Numbered text := by
  cases scaled with
  | number whole _ _ _ => exact whole.numbered.append

theorem float?_iff {number : Binary64} : float? text = some number ↔ Floating text number := by
  constructor
  · intro read
    obtain ⟨sign, signed, same⟩ := exists_sign text
    rw [float?] at read
    generalize splitSign text = parts at read signed same
    obtain ⟨negative, unsigned⟩ := parts
    subst same
    split at read
    next inf =>
      cases inf
      cases read
      exact .infinite signed
    next nan =>
      cases nan
      cases read
      exact .nan signed
    next same =>
      cases same
      obtain ⟨decimal, finite⟩ := Option.filter_eq_some_iff.mp read
      obtain ⟨digits, power, scaled, rfl⟩ := decimal?_sound decimal
      exact .decimal signed scaled (by simpa using finite)
  · intro written
    cases written with
    | infinite signed => cases signed <;> rfl
    | nan signed => cases signed <;> rfl
    | @decimal sign negative text digits power signed scaled finite =>
        have numbered := scaled.numbered
        rw [float?, signed.splitSign numbered.unsigned]
        split
        next inf =>
          cases inf
          obtain ⟨_, _, same, digit⟩ := numbered
          cases same
          cases digit
        next nan =>
          cases nan
          obtain ⟨_, _, same, digit⟩ := numbered
          cases same
          cases digit
        next same =>
          cases same
          exact Option.filter_eq_some_iff.mpr ⟨decimal?_complete scaled, by simpa using finite⟩

/-- The first character of a word that is no sign before it, and no digit or underscore. -/
def mark? (text : List Char) : Option Char :=
  ((splitSign text).2.dropWhile isFigure).head?

theorem Grammar.Sign.mark? (signed : Sign sign negative)
    (unsigned : ∀ c ∈ text.head?, c ≠ '+' ∧ c ≠ '-') :
    Document.mark? (sign ++ text) = (text.dropWhile isFigure).head? := by
  rw [Document.mark?, signed.splitSign unsigned]

def integerMarks : List (Option Char) := [none, some 'x', some 'o', some 'b']

def floatMarks : List (Option Char) := [some 'i', some 'n', some '.', some 'e', some 'E']

theorem Grammar.Integer.mark? (written : Integer text number) :
    Document.mark? text ∈ integerMarks := by
  cases written with
  | decimal signed whole _ _ =>
      rw [signed.mark? whole.numbered.unsigned,
        List.dropWhile_eq_nil_iff.mpr whole.figures]
      decide
  | based listed _ _ =>
      simp only [List.mem_cons, Prod.mk.injEq, List.not_mem_nil, or_false] at listed
      rcases listed with ⟨rfl, rfl⟩ | ⟨rfl, rfl⟩ | ⟨rfl, rfl⟩ <;>
        simp [Document.mark?, splitSign, isFigure, integerMarks]

theorem Grammar.Floating.mark? {number : Binary64} (written : Floating text number) :
    Document.mark? text ∈ floatMarks := by
  cases written with
  | infinite signed => cases signed <;> decide
  | nan signed => cases signed <;> decide
  | decimal signed scaled _ =>
      rw [signed.mark? scaled.numbered.unsigned]
      cases scaled with
      | number whole fractional powered nonempty =>
          rw [List.dropWhile_append_of_pos whole.figures]
          cases fractional with
          | none =>
              cases powered with
              | none => exact absurd rfl nonempty
              | power letter _ _ => rcases letter with rfl | rfl <;> simp [isFigure, floatMarks]
          | digits => simp [isFigure, floatMarks]

theorem integer?_eq_none (marked : mark? text ∉ integerMarks) : integer? text = none := by
  by_contra read
  obtain ⟨number, read⟩ := Option.ne_none_iff_exists'.mp read
  exact marked (integer?_iff.mp read).mark?

theorem float?_eq_none (marked : mark? text ∉ floatMarks) : float? text = none := by
  by_contra read
  obtain ⟨number, read⟩ := Option.ne_none_iff_exists'.mp read
  exact marked (float?_iff.mp read).mark?

end DevCluster.Document
