/-!
Texts that spell a floating-point number: a sign or none, then digits with a point or without and an
exponent or none, or a name for what is no finite number, in any case.
-/

namespace DevCluster

def withoutSign : List Char → List Char
  | '+' :: rest | '-' :: rest => rest
  | text => text

def spellsExponent : List Char → Bool
  | [] => true
  | letter :: rest =>
    let digits := withoutSign rest
    (letter = 'e' || letter = 'E') && !digits.isEmpty && digits.all Char.isDigit

/-- Whether a text without a sign is a finite number. There are digits before the point or behind
it. -/
def spellsFinite (text : List Char) : Bool :=
  let whole := text.takeWhile Char.isDigit
  let (fraction, rest) := match text.dropWhile Char.isDigit with
    | '.' :: rest => (rest.takeWhile Char.isDigit, rest.dropWhile Char.isDigit)
    | rest => ([], rest)
  !(whole.isEmpty && fraction.isEmpty) && spellsExponent rest

def spellsNumber (text : String) : Bool :=
  let unsigned := withoutSign text.toList
  let name := (String.ofList unsigned).toLower
  name = "inf" || name = "infinity" || name = "nan" || spellsFinite unsigned

end DevCluster
