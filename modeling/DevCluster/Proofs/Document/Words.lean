import DevCluster.Proofs.Document.Keys
import DevCluster.Proofs.Document.Moments

/-!
Values of one word: what is read as one is written as one, and what is written as one is read as it
where it is bounded.
-/

namespace DevCluster.Document

open Grammar Reader

variable {text middle rest before first second : List Char} {item : Item} {c : Char}
  {base count value : Nat}

/-- Whether a text goes on with something that ends a word, and with no time of day. -/
structure Bounded (text : List Char) : Prop where
  head : ∀ c ∈ text.head?, isWordEnd c = true
  timeless : ∀ c others, text = ' ' :: c :: others → c.isDigit = false

/-- Whether a text goes on with what ends a word, but with no blank. -/
def Closes (text : List Char) : Prop :=
  ∀ c ∈ text.head?, isWordEnd c = true ∧ isSpace c = false

theorem closes_comma : Closes (',' :: rest) := by
  simp [Closes, isWordEnd, isSpace]

theorem closes_bracket : Closes (']' :: rest) := by
  simp [Closes, isWordEnd, isSpace]

theorem closes_brace : Closes ('\x7d' :: rest) := by
  simp [Closes, isWordEnd, isSpace]

theorem isWordEnd_cases {c : Char} (ends : isWordEnd c = true) :
    c = ' ' ∨ c = '\t' ∨ c = '\n' ∨ c = '\r' ∨ c = ',' ∨ c = ']' ∨ c = '\x7d' ∨ c = '#' := by
  simpa [isWordEnd, isSpace, or_assoc] using ends

theorem isDigit_of_isWordEnd {c : Char} (ends : isWordEnd c = true) : c.isDigit = false := by
  rcases isWordEnd_cases ends with rfl | rfl | rfl | rfl | rfl | rfl | rfl | rfl <;> rfl

theorem isWordEnd_of_isGapChar {c : Char} (gap : isGapChar c = true) : isWordEnd c = true := by
  simp only [isGapChar, Bool.or_eq_true, decide_eq_true_eq] at gap
  rcases gap with ((space | rfl) | rfl) | rfl
  · simp [isWordEnd, space]
  · rfl
  · rfl
  · rfl

theorem Grammar.Gap.head (gap : Gap text rest) (closes : Closes rest) :
    ∀ c ∈ text.head?, isWordEnd c = true := by
  cases gap with
  | none => exact fun c next => (closes c next).1
  | space space _ =>
      intro c next
      cases next
      exact isWordEnd_of_isGapChar (by simp [isGapChar, space])
  | newline newline _ =>
      cases newline <;> simp [isWordEnd]
  | comment => simp [isWordEnd]

theorem Closes.bounded (closes : Closes rest) (gap : Gap text rest) : Bounded text := by
  refine ⟨gap.head closes, ?_⟩
  rintro c others rfl
  cases gap with
  | none => exact absurd (closes ' ' rfl).2 (by decide)
  | space _ gap => exact isDigit_of_isWordEnd (gap.head closes c rfl)
  | newline newline _ => cases newline

theorem Closes.bounded_of_blanks (closes : Closes rest) (blanks : Blanks text rest) :
    Bounded text :=
  closes.bounded (.of_blanks blanks .none)

/-- The text of a word by its first part and what is ahead then: a time of day may follow a date. -/
def wordText (first : List Char) (seen : List Char) : Reader (List Char) :=
  match date? first, seen with
  | some (_, []), ' ' :: c :: _ =>
    if c.isDigit then do
      expect ' '
      let second ← run (!isWordEnd ·)
      pure (first ++ ' ' :: second)
    else pure first
  | _, _ => pure first

def scalarOf (text : List Char) : Reader Item :=
  match scalar? text with
  | some item => pure item
  | none => refuse

theorem wordText_joined {day : List Char} {date : Date} {c : Char} {others : List Char}
    (dated : date? day = some (date, [])) (digit : c.isDigit = true) :
    wordText day (' ' :: c :: others) = (do
      expect ' '
      let time ← run (!isWordEnd ·)
      pure (day ++ ' ' :: time)) := by
  simp [wordText, dated, digit]

/-- Whether a time of day follows the date that the first part of a word is. -/
def Joined (first seen : List Char) : Prop :=
  ∃ date c others, date? first = some (date, []) ∧ seen = ' ' :: c :: others ∧ c.isDigit = true

theorem wordText_alone {first seen : List Char} (alone : ¬ Joined first seen) :
    wordText first seen = pure first := by
  unfold wordText
  split
  next date c others dated => exact if_neg fun digit => alone ⟨date, c, others, dated, rfl, digit⟩
  next => rfl

theorem word_eq : word = (do
    let first ← run (!isWordEnd ·)
    let seen ← ahead
    let text ← wordText first seen
    scalarOf text) := by
  refine congrArg _ (funext fun first => congrArg _ (funext fun seen => ?_))
  by_cases joined : Joined first seen
  · obtain ⟨date, c, others, dated, rfl, digit⟩ := joined
    rw [wordText_joined dated digit]
    simp only [dated, digit, if_true, bind_assoc, pure_bind]
    rfl
  · rw [wordText_alone joined, pure_bind]
    split
    next date c others dated =>
      rw [if_neg fun digit => joined ⟨date, c, others, dated, rfl, digit⟩]
      rfl
    next => rfl

theorem scalarOf_eq_some {result : Item × List Char} :
    scalarOf text middle = some result ↔
      ∃ item, scalar? text = some item ∧ (item, middle) = result := by
  rw [scalarOf]
  cases scalar? text <;> simp

/-! The texts of words. No word but a date and a time of day has a character in it that ends words,
and its first character that is no sign, digit or underscore tells of what kind it is. -/

def isWordChar (c : Char) : Bool :=
  c.isAlphanum || c = '_' || c = '+' || c = '-' || c = '.' || c = ':'

def Unbroken (text : List Char) : Prop :=
  ∀ c ∈ text, isWordChar c = true

theorem unbroken_nil : Unbroken [] := by
  simp [Unbroken]

theorem unbroken_cons : Unbroken (c :: text) ↔ isWordChar c = true ∧ Unbroken text :=
  List.forall_mem_cons

theorem unbroken_append : Unbroken (first ++ second) ↔ Unbroken first ∧ Unbroken second :=
  List.forall_mem_append

theorem not_isWordEnd_of_isWordChar (inside : isWordChar c = true) : isWordEnd c = false := by
  by_contra ends
  rcases isWordEnd_cases (by simpa using ends) with
    rfl | rfl | rfl | rfl | rfl | rfl | rfl | rfl <;> cases inside

theorem isWordChar_of_isFigure (figure : isFigure c = true) : isWordChar c = true := by
  rcases isFigure_cases figure with digit | rfl
  · simp [isWordChar, Char.isAlphanum, digit]
  · rfl

theorem isWordChar_of_isDigit (digit : c.isDigit = true) : isWordChar c = true :=
  isWordChar_of_isFigure (by simp [isFigure, digit])

theorem Digit.isWordChar (digit : Digit base value c) : Document.isWordChar c = true := by
  have lower : ∀ c ∈ "0123456789abcdef".toList, Document.isWordChar c = true := by
    simp [Document.isWordChar]
  have upper : ∀ c ∈ "0123456789ABCDEF".toList, Document.isWordChar c = true := by
    simp [Document.isWordChar]
  rcases digit.2 with placed | placed
  · exact lower c (List.mem_of_getElem? placed)
  · exact upper c (List.mem_of_getElem? placed)

theorem Numeral.unbroken (numeral : Numeral base text count value) : Unbroken text := by
  induction numeral with
  | last digit => exact unbroken_cons.mpr ⟨digit.isWordChar, unbroken_nil⟩
  | more digit _ ih => exact unbroken_cons.mpr ⟨digit.isWordChar, ih⟩
  | spaced digit _ ih =>
      exact unbroken_cons.mpr ⟨digit.isWordChar, unbroken_cons.mpr ⟨rfl, ih⟩⟩

theorem Fixed.unbroken (fixed : Fixed base count text value) : Unbroken text :=
  fixed.2.unbroken

theorem Grammar.Sign.unbroken {negative : Bool} (signed : Sign text negative) :
    Unbroken text := by
  cases signed <;> simp [Unbroken, isWordChar]

theorem Grammar.Whole.unbroken (whole : Whole text value) : Unbroken text :=
  fun c member => isWordChar_of_isFigure (whole.figures c member)

theorem Grammar.Integer.unbroken {number : Int} (written : Integer text number) :
    Unbroken text := by
  cases written with
  | decimal signed whole _ _ => exact unbroken_append.mpr ⟨signed.unbroken, whole.unbroken⟩
  | @based letter _ _ _ _ listed numeral _ =>
      have lettered : isWordChar letter = true := by
        simp only [List.mem_cons, Prod.mk.injEq, List.not_mem_nil, or_false] at listed
        rcases listed with ⟨rfl, _⟩ | ⟨rfl, _⟩ | ⟨rfl, _⟩ <;> rfl
      exact unbroken_cons.mpr ⟨rfl, unbroken_cons.mpr ⟨lettered, numeral.unbroken⟩⟩

theorem Grammar.Fraction.unbroken (fraction : Fraction text count value) : Unbroken text := by
  cases fraction with
  | none => exact unbroken_nil
  | digits numeral => exact unbroken_cons.mpr ⟨rfl, numeral.unbroken⟩

theorem Grammar.Exponent.unbroken {power : Int} (exponent : Exponent text power) :
    Unbroken text := by
  cases exponent with
  | none => exact unbroken_nil
  | power letter signed numeral =>
      refine unbroken_cons.mpr ⟨?_, unbroken_append.mpr ⟨signed.unbroken, numeral.unbroken⟩⟩
      rcases letter with rfl | rfl <;> rfl

theorem Grammar.Floating.unbroken {number : Binary64} (written : Floating text number) :
    Unbroken text := by
  cases written with
  | infinite signed => exact unbroken_append.mpr ⟨signed.unbroken, by simp [Unbroken, isWordChar]⟩
  | nan signed => exact unbroken_append.mpr ⟨signed.unbroken, by simp [Unbroken, isWordChar]⟩
  | decimal signed scaled _ =>
      refine unbroken_append.mpr ⟨signed.unbroken, ?_⟩
      cases scaled with
      | number whole fraction exponent _ =>
          refine unbroken_append.mpr ⟨whole.unbroken, ?_⟩
          exact unbroken_append.mpr ⟨fraction.unbroken, exponent.unbroken⟩

theorem Grammar.Day.unbroken {date : Date} (written : Day text date) : Unbroken text := by
  cases written with
  | date isYear isMonth isDay =>
      refine unbroken_append.mpr ⟨isYear.unbroken, unbroken_cons.mpr ⟨rfl, ?_⟩⟩
      exact unbroken_append.mpr ⟨isMonth.unbroken, unbroken_cons.mpr ⟨rfl, isDay.unbroken⟩⟩

theorem Grammar.Clock.unbroken {time : TimeOfDay} (written : Clock text time) :
    Unbroken text := by
  cases written with
  | time isHour isMinute isSecond _ _ _ isFraction =>
      refine unbroken_append.mpr ⟨isHour.unbroken, unbroken_cons.mpr ⟨rfl, ?_⟩⟩
      refine unbroken_append.mpr ⟨isMinute.unbroken, unbroken_cons.mpr ⟨rfl, ?_⟩⟩
      refine unbroken_append.mpr ⟨isSecond.unbroken, ?_⟩
      cases isFraction with
      | none => exact unbroken_nil
      | digits _ all =>
          exact unbroken_cons.mpr ⟨rfl, fun c member => isWordChar_of_isDigit (all c member)⟩

theorem Grammar.Zone.unbroken {zone : Option Int} (written : Zone text zone) : Unbroken text := by
  cases written with
  | unsaid => exact unbroken_nil
  | universal letter =>
      rcases letter with rfl | rfl <;> exact unbroken_cons.mpr ⟨rfl, unbroken_nil⟩
  | ahead signed _ isHours isMinutes _ _ =>
      refine unbroken_append.mpr ⟨signed.unbroken, ?_⟩
      exact unbroken_append.mpr ⟨isHours.unbroken, unbroken_cons.mpr ⟨rfl, isMinutes.unbroken⟩⟩

theorem Grammar.Day.numbered {date : Date} (written : Day text date) : Numbered text := by
  cases written with
  | date isYear => exact isYear.2.numbered.append

theorem Grammar.Clock.numbered {time : TimeOfDay} (written : Clock text time) :
    Numbered text := by
  cases written with
  | time isHour => exact isHour.2.numbered.append

/-- Whether a text is a date and, behind a space, what begins like a time of day. -/
def Spaced (text : List Char) : Prop :=
  ∃ day date time, text = day ++ ' ' :: time ∧ Day day date ∧ Unbroken time ∧ Numbered time

theorem Grammar.Timed.unbroken_or_spaced {moment : Moment} (written : Timed text moment) :
    Unbroken text ∨ Spaced text := by
  cases written with
  | date isDay => exact .inl isDay.unbroken
  | time isClock => exact .inl isClock.unbroken
  | @dateTime day date mark clock time zone ahead isDay joined isClock isZone =>
      have later : Unbroken (clock ++ zone) :=
        unbroken_append.mpr ⟨isClock.unbroken, isZone.unbroken⟩
      by_cases space : mark = ' '
      · subst space
        exact .inr ⟨day, date, _, rfl, isDay, later, isClock.numbered.append⟩
      · have lettered : isWordChar mark = true := by
          rcases joined with rfl | rfl | rfl
          · rfl
          · rfl
          · exact absurd rfl space
        exact .inl (unbroken_append.mpr ⟨isDay.unbroken, unbroken_cons.mpr ⟨lettered, later⟩⟩)

theorem Grammar.Word.unbroken_or_spaced (written : Word text item) :
    Unbroken text ∨ Spaced text := by
  cases written with
  | yes => exact .inl (by simp [Unbroken, isWordChar])
  | no => exact .inl (by simp [Unbroken, isWordChar])
  | integer written => exact .inl written.unbroken
  | float written => exact .inl written.unbroken
  | moment written => exact written.unbroken_or_spaced

theorem ne_boolean_of_mark? (marked : mark? text ≠ some 't' ∧ mark? text ≠ some 'f') :
    text ≠ "true".toList ∧ text ≠ "false".toList := by
  constructor <;> rintro rfl
  · exact marked.1 rfl
  · exact marked.2 rfl

theorem scalar?_iff : scalar? text = some item ↔ Word text item := by
  constructor
  · intro read
    unfold scalar? at read
    split at read
    next same =>
      cases read
      rw [same]
      exact .yes
    next =>
      split at read
      next same =>
        cases read
        rw [same]
        exact .no
      next =>
        split at read
        next value integer =>
          cases read
          exact .integer (integer?_iff.mp integer)
        next =>
          split at read
          next value float =>
            cases read
            exact .float (float?_iff.mp float)
          next =>
            obtain ⟨value, moment, rfl⟩ := Option.map_eq_some_iff.mp read
            exact .moment (moment?_iff.mp moment)
  · intro written
    cases written with
    | yes => rfl
    | no => rfl
    | integer written =>
        have unmarked : ∀ mark ∈ integerMarks, mark ≠ some 't' ∧ mark ≠ some 'f' := by decide
        obtain ⟨noTrue, noFalse⟩ := ne_boolean_of_mark? (unmarked _ written.mark?)
        rw [scalar?, if_neg noTrue, if_neg noFalse, integer?_iff.mpr written]
    | float written =>
        have unmarked : ∀ mark ∈ floatMarks, (mark ≠ some 't' ∧ mark ≠ some 'f') ∧
            mark ∉ integerMarks := by
          decide
        obtain ⟨noBoolean, noInteger⟩ := unmarked _ written.mark?
        obtain ⟨noTrue, noFalse⟩ := ne_boolean_of_mark? noBoolean
        rw [scalar?, if_neg noTrue, if_neg noFalse, integer?_eq_none noInteger,
          float?_iff.mpr written]
    | moment written =>
        have unmarked : ∀ mark ∈ momentMarks, (mark ≠ some 't' ∧ mark ≠ some 'f') ∧
            mark ∉ integerMarks ∧ mark ∉ floatMarks := by
          decide
        obtain ⟨noBoolean, noInteger, noFloat⟩ := unmarked _ written.mark?
        obtain ⟨noTrue, noFalse⟩ := ne_boolean_of_mark? noBoolean
        rw [scalar?, if_neg noTrue, if_neg noFalse, integer?_eq_none noInteger,
          float?_eq_none noFloat, moment?_iff.mpr written]
        rfl

theorem word_sound (read : word text = some (item, rest)) :
    ∃ written, text = written ++ rest ∧ Word written item := by
  rw [word_eq, bind_eq_some] at read
  obtain ⟨first, middle, own, read⟩ := read
  rw [ahead_bind_eq] at read
  obtain ⟨whole, ending, more, ended⟩ := bind_eq_some.mp read
  obtain ⟨rfl, _, _⟩ := run_eq_some.mp own
  obtain ⟨_, scalar, same⟩ := scalarOf_eq_some.mp ended
  obtain ⟨rfl, rfl⟩ := Prod.mk.inj same
  refine ⟨whole, ?_, scalar?_iff.mp scalar⟩
  by_cases joined : Joined first middle
  · obtain ⟨date, c, others, dated, rfl, digit⟩ := joined
    rw [wordText_joined dated digit] at more
    simp only [bind_eq_some, expect_eq_some, pure_eq_some] at more
    obtain ⟨_, _, spaced, time, _, later, joined⟩ := more
    obtain ⟨rfl, rfl⟩ := Prod.mk.inj joined
    obtain ⟨timed, _, _⟩ := run_eq_some.mp later
    rw [(List.cons.inj spaced).2, timed, List.append_assoc, List.cons_append]
  · rw [wordText_alone joined] at more
    obtain ⟨rfl, rfl⟩ := Prod.mk.inj (pure_eq_some.mp more)
    rfl

theorem Unbroken.run (unbroken : Unbroken text) (ended : ∀ c ∈ rest.head?, isWordEnd c = true) :
    Reader.run (!isWordEnd ·) (text ++ rest) = some (text, rest) := by
  refine run_eq text (fun c member => ?_) (by simpa using ended)
  simp [not_isWordEnd_of_isWordChar (unbroken c member)]

theorem word_complete (written : Word text item) (bounded : Bounded rest) :
    word (text ++ rest) = some (item, rest) := by
  have scalar := scalar?_iff.mpr written
  rw [word_eq]
  rcases written.unbroken_or_spaced with unbroken | ⟨day, date, time, rfl, isDay, unbroken, timed⟩
  · have alone : ¬ Joined text rest := by
      rintro ⟨_, c, others, _, same, digit⟩
      rw [bounded.timeless c others same] at digit
      cases digit
    refine (bind_eq (unbroken.run bounded.head)).trans ?_
    rw [ahead_bind_eq, wordText_alone alone, pure_bind]
    exact scalarOf_eq_some.mpr ⟨item, scalar, rfl⟩
  · obtain ⟨c, others, rfl, digit⟩ := timed
    have dated : date? day = some (date, []) :=
      date?_iff.mpr ⟨day, (List.append_nil day).symm, isDay⟩
    have dayRead : run (!isWordEnd ·) (day ++ ' ' :: (c :: others ++ rest)) =
        some (day, ' ' :: (c :: others ++ rest)) :=
      isDay.unbroken.run (by simp [isWordEnd, isSpace])
    rw [List.append_assoc, List.cons_append]
    refine (bind_eq dayRead).trans ?_
    rw [ahead_bind_eq, List.cons_append, wordText_joined dated digit]
    refine (bind_eq ?_).trans (scalarOf_eq_some.mpr ⟨item, scalar, rfl⟩)
    exact (bind_eq (expect_eq ' ')).trans (bind_eq (unbroken.run bounded.head))

/-- Whether a value that is no word begins so. -/
def opensValue (c : Char) : Bool :=
  c = '"' || c = '\'' || c = '[' || c = '\x7b'

theorem opensValue_cases {c : Char} (opens : opensValue c = true) :
    (c = '"' ∨ c = '\'') ∨ c = '[' ∨ c = '\x7b' := by
  simpa [opensValue, or_assoc] using opens

theorem Grammar.Word.head (written : Word text item) :
    ∃ c others, text = c :: others ∧ isWordChar c = true := by
  rcases written.unbroken_or_spaced with unbroken | ⟨day, _, _, rfl, isDay, _⟩
  · cases text with
    | nil => cases scalar?_iff.mpr written
    | cons c text => exact ⟨c, text, rfl, unbroken c List.mem_cons_self⟩
  · obtain ⟨c, others, rfl, digit⟩ := isDay.numbered
    exact ⟨c, _, rfl, isWordChar_of_isDigit digit⟩

theorem not_opensValue_of_isWordChar (inside : isWordChar c = true) : opensValue c = false := by
  by_contra opens
  rcases opensValue_cases (by simpa using opens) with (rfl | rfl) | rfl | rfl <;> cases inside

theorem Grammar.Word.plain (written : Word text item) : item.Plain := by
  cases written <;> exact ⟨rfl, rfl⟩

end DevCluster.Document
