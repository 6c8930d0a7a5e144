import DevCluster.Document.Number

/-!
Dates and times of a document: a date, a time of day, or both with or without the distance from
universal time.
-/

namespace DevCluster.Document

structure Date where
  year : Nat
  month : Nat
  day : Nat
deriving DecidableEq, Repr

structure TimeOfDay where
  hour : Nat
  minute : Nat
  second : Nat
  fraction : List Char
deriving DecidableEq, Repr

inductive Moment
  | date (date : Date)
  | time (time : TimeOfDay)
  /-- With the minutes that local time is ahead, if that is said. -/
  | dateTime (date : Date) (time : TimeOfDay) (ahead : Option Int)
deriving DecidableEq, Repr

def isLeapYear (year : Nat) : Bool :=
  year % 4 = 0 && (year % 100 ≠ 0 || year % 400 = 0)

def daysInMonth (year month : Nat) : Nat :=
  if month = 2 then (if isLeapYear year then 29 else 28)
  else if month ∈ [4, 6, 9, 11] then 30
  else 31

def Date.Valid (date : Date) : Prop :=
  1 ≤ date.month ∧ date.month ≤ 12 ∧ 1 ≤ date.day ∧ date.day ≤ daysInMonth date.year date.month

instance (date : Date) : Decidable date.Valid := by unfold Date.Valid; infer_instance

/-- The second 60 is a leap second. -/
def TimeOfDay.Valid (time : TimeOfDay) : Prop :=
  time.hour ≤ 23 ∧ time.minute ≤ 59 ∧ time.second ≤ 60

instance (time : TimeOfDay) : Decidable time.Valid := by unfold TimeOfDay.Valid; infer_instance

/-- A number of exactly so many decimal digits, and what follows it. -/
def fixedDigits (count : Nat) (text : List Char) : Option (Nat × List Char) :=
  let digits := text.take count
  if digits.length = count ∧ digits.all Char.isDigit then
    some (natOfDigits 10 digits, text.drop count)
  else none

def after (c : Char) : List Char → Option (List Char)
  | d :: rest => if c = d then some rest else none
  | [] => none

def date? (text : List Char) : Option (Date × List Char) := do
  let (year, text) ← fixedDigits 4 text
  let (month, text) ← fixedDigits 2 (← after '-' text)
  let (day, text) ← fixedDigits 2 (← after '-' text)
  let date : Date := { year, month, day }
  if date.Valid then some (date, text) else none

def secondFraction? : List Char → Option (List Char × List Char)
  | '.' :: text =>
    let digits := text.takeWhile Char.isDigit
    if digits.isEmpty then none else some (digits, text.dropWhile Char.isDigit)
  | text => some ([], text)

def timeOfDay? (text : List Char) : Option (TimeOfDay × List Char) := do
  let (hour, text) ← fixedDigits 2 text
  let (minute, text) ← fixedDigits 2 (← after ':' text)
  let (second, text) ← fixedDigits 2 (← after ':' text)
  let (fraction, text) ← secondFraction? text
  let time : TimeOfDay := { hour, minute, second, fraction }
  if time.Valid then some (time, text) else none

/-- The distance from universal time at the end of a text. -/
def ahead? : List Char → Option (Option Int)
  | [] => some none
  | ['Z'] | ['z'] => some (some 0)
  | sign :: text => do
    if sign ≠ '+' ∧ sign ≠ '-' then none
    let (hours, text) ← fixedDigits 2 text
    let (minutes, text) ← fixedDigits 2 (← after ':' text)
    if text.isEmpty ∧ hours ≤ 23 ∧ minutes ≤ 59 then
      let distance : Int := 60 * hours + minutes
      some (some (if sign = '-' then -distance else distance))
    else none

def isDateTimeMark (c : Char) : Bool := c = 'T' || c = 't' || c = ' '

def moment? (text : List Char) : Option Moment :=
  match date? text with
  | some (date, []) => some (.date date)
  | some (date, mark :: text) =>
    if isDateTimeMark mark then do
      let (time, text) ← timeOfDay? text
      some (.dateTime date time (← ahead? text))
    else none
  | none =>
    match timeOfDay? text with
    | some (time, []) => some (.time time)
    | _ => none

end DevCluster.Document
