import DevCluster.Proofs.Document.Numbers

/-!
Dates and times of day: what is read as one is written as one, and what is written as one is read as
it.
-/

namespace DevCluster.Document

open Grammar

variable {text rest : List Char} {count value : Nat} {c : Char} {date : Date} {time : TimeOfDay}

theorem fixedDigits_iff (counted : count ≠ 0) : fixedDigits count text = some (value, rest) ↔
    ∃ digits, text = digits ++ rest ∧ Fixed 10 count digits value := by
  simp only [fixedDigits, fixed_iff, isBaseDigit_ten, List.all_eq_true]
  constructor
  · intro read
    split at read
    next long =>
      cases read
      refine ⟨text.take count, (List.take_append_drop ..).symm, ?_, long.2, long.1, rfl⟩
      rintro empty
      rw [empty] at long
      exact counted long.1.symm
    next => cases read
  · rintro ⟨digits, rfl, _, all, rfl, rfl⟩
    rw [List.take_left, List.drop_left, if_pos ⟨rfl, all⟩]

theorem after_iff : after c text = some rest ↔ text = c :: rest := by
  cases text with
  | nil => simp [after]
  | cons d text => simp [after, eq_comm]

theorem Date.valid_iff : date.Valid ↔ 1 ≤ date.month ∧ ∃ length,
    (monthLengths date.year)[date.month - 1]? = some length ∧ 1 ≤ date.day ∧ date.day ≤ length := by
  obtain ⟨year, month, day⟩ := date
  have february : daysInMonth year 2 =
      if 4 ∣ year ∧ (100 ∣ year → 400 ∣ year) then 29 else 28 := by
    simp [daysInMonth, isLeapYear, Nat.dvd_iff_mod_eq_zero, imp_iff_not_or]
  by_cases bounded : 1 ≤ month ∧ month ≤ 12
  · have length : (monthLengths year)[month - 1]? = some (daysInMonth year month) := by
      obtain ⟨least, greatest⟩ := bounded
      interval_cases month
      all_goals simp [monthLengths, ← february]
      all_goals rfl
    simp [Valid, length, bounded]
  · have unlisted : 1 ≤ month → (monthLengths year)[month - 1]? = none := fun least => by
      simp only [monthLengths, List.getElem?_eq_none_iff, List.length_cons, List.length_nil]
      omega
    constructor
    · rintro ⟨least, greatest, _⟩
      exact absurd ⟨least, greatest⟩ bounded
    · rintro ⟨least, length, listed, _⟩
      rw [unlisted least] at listed
      cases listed

theorem date?_iff : date? text = some (date, rest) ↔ ∃ day, text = day ++ rest ∧ Day day date := by
  simp only [date?, Option.bind_eq_bind, Option.bind_eq_some_iff, Prod.exists, after_iff,
    fixedDigits_iff four_ne_zero, fixedDigits_iff two_ne_zero, Option.ite_none_right_eq_some,
    Date.valid_iff]
  constructor
  · rintro ⟨year, _, ⟨y, rfl, isYear⟩, _, rfl, month, _, ⟨m, rfl, isMonth⟩, _, rfl, day, _,
      ⟨d, rfl, isDay⟩, ⟨least, length, listed, positive, bounded⟩, same⟩
    cases same
    exact ⟨_, by simp, .date isYear isMonth isDay least listed positive bounded⟩
  · rintro ⟨_, rfl, written⟩
    cases written with
    | @date y year m month d day length isYear isMonth isDay least listed positive bounded =>
        simp only [List.append_assoc, List.cons_append]
        exact ⟨year, _, ⟨y, rfl, isYear⟩, _, rfl, month, _, ⟨m, rfl, isMonth⟩, _, rfl, day, rest,
          ⟨d, rfl, isDay⟩, ⟨least, length, listed, positive, bounded⟩, rfl⟩

/-- Whether a text does not go on with what may be part of a second. -/
def Ended (text : List Char) : Prop :=
  ∀ c ∈ text.head?, c ≠ '.' ∧ c.isDigit = false

theorem secondFraction?_sound {fraction : List Char}
    (read : secondFraction? text = some (fraction, rest)) :
    ∃ written, text = written ++ rest ∧ SecondFraction written fraction := by
  unfold secondFraction? at read
  split at read
  next text =>
    dsimp only at read
    split at read
    next => cases read
    next nonempty =>
      cases read
      refine ⟨'.' :: text.takeWhile Char.isDigit, ?_, .digits (by simpa using nonempty) ?_⟩
      · rw [List.cons_append, List.takeWhile_append_dropWhile]
      · exact fun c => List.mem_takeWhile_imp
  next =>
    cases read
    exact ⟨[], rfl, .none⟩

theorem secondFraction?_complete {written fraction : List Char}
    (isFraction : SecondFraction written fraction) (ended : Ended rest) :
    secondFraction? (written ++ rest) = some (fraction, rest) := by
  cases isFraction with
  | none =>
      refine secondFraction?.eq_2 rest fun text same => ?_
      exact (ended '.' (by simp [same])).1 rfl
  | digits nonempty all =>
      have taken := Reader.run_eq fraction all fun c next => (ended c next).2
      obtain ⟨own, behind⟩ := Prod.mk.inj (Option.some.inj taken)
      rw [List.cons_append, secondFraction?, own, behind]
      exact if_neg (by simpa using nonempty)

theorem timeOfDay?_sound (read : timeOfDay? text = some (time, rest)) :
    ∃ clock, text = clock ++ rest ∧ Clock clock time := by
  simp only [timeOfDay?, Option.bind_eq_bind, Option.bind_eq_some_iff, Prod.exists, after_iff,
    fixedDigits_iff two_ne_zero, Option.ite_none_right_eq_some] at read
  obtain ⟨hour, _, ⟨h, rfl, isHour⟩, _, rfl, minute, _, ⟨m, rfl, isMinute⟩, _, rfl, second, _,
    ⟨s, rfl, isSecond⟩, fraction, _, fractional, ⟨hours, minutes, seconds⟩, same⟩ := read
  cases same
  obtain ⟨f, rfl, isFraction⟩ := secondFraction?_sound fractional
  refine ⟨_, by simp, .time isHour isMinute isSecond ?_ ?_ seconds isFraction⟩
  · exact Nat.lt_succ_of_le hours
  · exact Nat.lt_succ_of_le minutes

theorem timeOfDay?_complete {clock : List Char} (isClock : Clock clock time) (ended : Ended rest) :
    timeOfDay? (clock ++ rest) = some (time, rest) := by
  cases isClock with
  | @time h hour m minute s second f fraction isHour isMinute isSecond hours minutes seconds
      isFraction =>
      have fractional := secondFraction?_complete isFraction ended
      simp only [timeOfDay?, Option.bind_eq_bind, Option.bind_eq_some_iff, Prod.exists, after_iff,
        fixedDigits_iff two_ne_zero, Option.ite_none_right_eq_some, List.append_assoc,
        List.cons_append]
      refine ⟨hour, _, ⟨h, rfl, isHour⟩, _, rfl, minute, _, ⟨m, rfl, isMinute⟩, _, rfl, second, _,
        ⟨s, rfl, isSecond⟩, fraction, rest, fractional, ⟨?_, ?_, seconds⟩, rfl⟩
      · exact Nat.le_of_lt_succ hours
      · exact Nat.le_of_lt_succ minutes

theorem ahead?_iff {zone : Option Int} : ahead? text = some zone ↔ Zone text zone := by
  constructor
  · intro read
    unfold ahead? at read
    split at read
    next =>
      cases read
      exact .unsaid
    next =>
      cases read
      exact .universal (.inl rfl)
    next =>
      cases read
      exact .universal (.inr rfl)
    next sign text _ _ =>
      by_cases unknown : sign ≠ '+' ∧ sign ≠ '-'
      · rw [if_pos unknown] at read
        cases read
      · rw [if_neg unknown] at read
        simp only [Option.bind_eq_bind, Option.bind_eq_some_iff, Prod.exists, after_iff,
          fixedDigits_iff two_ne_zero, Option.ite_none_right_eq_some, List.isEmpty_iff,
          Option.some.injEq] at read
        obtain ⟨hours, _, ⟨h, rfl, isHours⟩, _, rfl, minutes, _, ⟨m, rfl, isMinutes⟩,
          ⟨rfl, most, last⟩, rfl⟩ := read
        rw [List.append_nil]
        have bounded : hours < 24 ∧ minutes < 60 := by omega
        by_cases minus : sign = '-'
        · subst minus
          exact .ahead .minus (by simp) isHours isMinutes bounded.1 bounded.2
        · obtain rfl : sign = '+' := by
            by_contra plus
            exact unknown ⟨plus, minus⟩
          exact .ahead .plus (by simp) isHours isMinutes bounded.1 bounded.2
  · intro written
    cases written with
    | unsaid => rfl
    | universal letter => rcases letter with rfl | rfl <;> rfl
    | @ahead sign negative h hours m minutes signed said isHours isMinutes most last =>
        have read : fixedDigits 2 (h ++ ':' :: m) = some (hours, ':' :: m) :=
          (fixedDigits_iff two_ne_zero).mpr ⟨h, rfl, isHours⟩
        have more : fixedDigits 2 m = some (minutes, []) :=
          (fixedDigits_iff two_ne_zero).mpr ⟨m, (List.append_nil m).symm, isMinutes⟩
        have bounded : hours ≤ 23 ∧ minutes ≤ 59 := by omega
        cases signed with
        | none => exact absurd rfl said
        | plus => simp [ahead?, read, more, after, bounded, signed]
        | minus => simp [ahead?, read, more, after, bounded, signed]

theorem Grammar.Zone.ended {zone : Option Int} (written : Zone text zone) : Ended text := by
  cases written with
  | unsaid => simp [Ended]
  | universal letter => rcases letter with rfl | rfl <;> simp [Ended]
  | ahead signed said _ _ _ _ =>
      cases signed with
      | none => exact absurd rfl said
      | plus => simp [Ended]
      | minus => simp [Ended]

theorem Fixed.mark? (fixed : Fixed 10 count text value) (outside : isFigure c = false) :
    Document.mark? (text ++ c :: rest) = some c := by
  have numbered : Numbered (text ++ c :: rest) := fixed.2.numbered.append
  have marked := Grammar.Sign.none.mark? numbered.unsigned
  rw [List.nil_append] at marked
  rw [marked, List.dropWhile_append_of_pos fixed.2.figures, List.dropWhile_cons_of_neg (by simpa)]
  rfl

theorem Grammar.Day.mark? {day : List Char} (written : Day day date) :
    Document.mark? (day ++ rest) = some '-' := by
  cases written with
  | date isYear => simpa using isYear.mark? rfl

theorem Grammar.Clock.mark? {clock : List Char} (written : Clock clock time) :
    Document.mark? clock = some ':' := by
  cases written with
  | time isHour => exact isHour.mark? rfl

theorem date?_clock {clock : List Char} (written : Clock clock time) : date? clock = none := by
  by_contra dated
  obtain ⟨⟨date, rest⟩, dated⟩ := Option.ne_none_iff_exists'.mp dated
  obtain ⟨day, rfl, isDay⟩ := date?_iff.mp dated
  have marked := written.mark?
  rw [isDay.mark?] at marked
  cases marked

theorem moment?_iff {moment : Moment} : moment? text = some moment ↔ Timed text moment := by
  constructor
  · intro read
    unfold moment? at read
    split at read
    next date dated =>
      cases read
      obtain ⟨day, rfl, isDay⟩ := date?_iff.mp dated
      rw [List.append_nil]
      exact .date isDay
    next date mark text dated =>
      split at read
      next marked =>
        simp only [Option.bind_eq_bind, Option.bind_eq_some_iff, Prod.exists, Option.some.injEq]
          at read
        obtain ⟨time, rest, timed, zone, ahead, rfl⟩ := read
        obtain ⟨day, rfl, isDay⟩ := date?_iff.mp dated
        obtain ⟨clock, rfl, isClock⟩ := timeOfDay?_sound timed
        have joined : mark = 'T' ∨ mark = 't' ∨ mark = ' ' := by
          simpa [isDateTimeMark, or_assoc] using marked
        exact .dateTime isDay joined isClock (ahead?_iff.mp ahead)
      next => cases read
    next =>
      split at read
      next time timed =>
        cases read
        obtain ⟨clock, rfl, isClock⟩ := timeOfDay?_sound timed
        rw [List.append_nil]
        exact .time isClock
      next => cases read
  · intro written
    cases written with
    | date isDay =>
        have dated := date?_iff.mpr ⟨text, (List.append_nil text).symm, isDay⟩
        simp only [moment?, dated]
    | time isClock =>
        have ended : Ended [] := by simp [Ended]
        have timed := timeOfDay?_complete isClock ended
        rw [List.append_nil] at timed
        simp only [moment?, date?_clock isClock, timed]
    | @dateTime d date mark t time z zone isDay joined isClock isZone =>
        have dated : date? (d ++ mark :: (t ++ z)) = some (date, mark :: (t ++ z)) :=
          date?_iff.mpr ⟨d, rfl, isDay⟩
        have marked : isDateTimeMark mark = true := by
          simpa [isDateTimeMark, or_assoc] using joined
        simp [moment?, dated, marked, timeOfDay?_complete isClock isZone.ended,
          ahead?_iff.mpr isZone]

def momentMarks : List (Option Char) := [some '-', some ':']

theorem Grammar.Timed.mark? {moment : Moment} (written : Timed text moment) :
    Document.mark? text ∈ momentMarks := by
  cases written with
  | date isDay =>
      have marked : Document.mark? (text ++ []) = some '-' := isDay.mark?
      rw [List.append_nil] at marked
      simp [marked, momentMarks]
  | time isClock => simp [isClock.mark?, momentMarks]
  | dateTime isDay _ _ _ => simp [isDay.mark?, momentMarks]

end DevCluster.Document
