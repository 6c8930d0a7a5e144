import DevCluster.Decimal.Binary64
import DevCluster.Document.Quotation

/-!
Numbers of a document: whole numbers of 64 bits in four bases, and floating-point numbers.
Underscores may stand between two digits.
-/

namespace DevCluster.Document

/-- The digits of a text without its underscores, if each of these stands between two digits. -/
def digitRun (isDigit : Char → Bool) : List Char → Option (List Char)
  | [] => none
  | [c] => if isDigit c then some [c] else none
  | c :: '_' :: rest => if isDigit c then (digitRun isDigit rest).map (c :: ·) else none
  | c :: rest => if isDigit c then (digitRun isDigit rest).map (c :: ·) else none

def natOfDigits (base : Nat) (digits : List Char) : Nat :=
  digits.foldl (fun value c => value * base + (Text.hexValue c).getD 0) 0

def splitSign : List Char → Bool × List Char
  | '+' :: rest => (false, rest)
  | '-' :: rest => (true, rest)
  | text => (false, text)

/-- Decimal digits that do not begin with a zero, or a zero alone. -/
def wholePart (text : List Char) : Option (List Char) := do
  let digits ← digitRun Char.isDigit text
  if digits.length > 1 ∧ digits.head? = some '0' then none else some digits

def word64 (value : Int) : Option Int :=
  if -0x8000000000000000 ≤ value ∧ value < 0x8000000000000000 then some value else none

def isBaseDigit (base : Nat) (c : Char) : Bool :=
  (Text.hexValue c).any (· < base)

def integerBased (base : Nat) (text : List Char) : Option Int := do
  word64 (natOfDigits base (← digitRun (isBaseDigit base) text))

def integer? : List Char → Option Int
  | '0' :: 'x' :: text => integerBased 16 text
  | '0' :: 'o' :: text => integerBased 8 text
  | '0' :: 'b' :: text => integerBased 2 text
  | text => do
    let (negative, text) := splitSign text
    let value : Int := natOfDigits 10 (← wholePart text)
    word64 (if negative then -value else value)

/-- The exponent after its letter, or zero if there is none. -/
def exponent? : List Char → Option Int
  | [] => some 0
  | letter :: text =>
    if letter = 'e' ∨ letter = 'E' then do
      let (negative, text) := splitSign text
      let value : Int := natOfDigits 10 (← digitRun Char.isDigit text)
      some (if negative then -value else value)
    else none

/-- The digits after the point, none if there is no point, and what follows them. -/
def fraction? : List Char → Option (List Char × List Char)
  | '.' :: text => do
    let digits ← digitRun Char.isDigit (text.takeWhile fun c => c ≠ 'e' ∧ c ≠ 'E')
    some (digits, text.dropWhile fun c => c ≠ 'e' ∧ c ≠ 'E')
  | text => some ([], text)

/-- A decimal number without its sign, which has a fraction, an exponent or both. -/
def decimal? (negative : Bool) (text : List Char) : Option Binary64 := do
  let isWhole (c : Char) : Bool := c ≠ '.' && c ≠ 'e' && c ≠ 'E'
  let whole ← wholePart (text.takeWhile isWhole)
  let tail := text.dropWhile isWhole
  if tail.isEmpty then none
  let (fraction, text) ← fraction? tail
  let exponent ← exponent? text
  some (.ofDecimal negative (natOfDigits 10 (whole ++ fraction)) (exponent - fraction.length))

/-- A number beyond the greatest one is refused, but not below the least one. -/
def float? (text : List Char) : Option Binary64 :=
  match splitSign text with
  | (negative, ['i', 'n', 'f']) => some (.infinite negative)
  | (_, ['n', 'a', 'n']) => some .nan
  | (negative, text) => (decimal? negative text).filter (· ≠ .infinite false)

end DevCluster.Document
