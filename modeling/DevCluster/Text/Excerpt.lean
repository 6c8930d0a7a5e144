/-!
Places in a text, by octets, as they are shown to the reader: the line in which a place begins, with
its number, and below it marks under the place as far as the line goes.
-/

namespace DevCluster.Text

def octetCount (text : List Char) : Nat := (text.map Char.utf8Size).foldr (· + ·) 0

def takeOctets : Nat → List Char → List Char
  | _, [] => []
  | room, c :: rest => if c.utf8Size ≤ room then c :: takeOctets (room - c.utf8Size) rest else []

structure Place where
  first : Nat
  last : Nat
deriving DecidableEq, Repr

namespace Place

/-- The number of the line in which the place begins, from zero. -/
def line (place : Place) (text : List Char) : Nat :=
  (takeOctets place.first text).count '\n'

def column (place : Place) (text : List Char) : Nat :=
  ((takeOctets place.first text).reverse.takeWhile (· ≠ '\n')).length

def spaces (count : Nat) : String := String.ofList (List.replicate count ' ')

/-- The line and the marks. There is always one mark, and no more than the place has octets. -/
def excerpt (place : Place) (text : String) : String :=
  let characters := text.toList
  let line := place.line characters
  let column := place.column characters
  let content := ((text.splitOn "\n")[line]?).getD ""
  let marks := min (place.last - place.first) (content.utf8ByteSize - column)
  let number := toString (line + 1)
  let margin := spaces (number.length + 1)
  let underline := String.ofList (List.replicate (max 1 marks) '^')
  s!"{margin}|\n{number} | {content}\n{margin}|{spaces (column + 1)}{underline}\n"

end Place

end DevCluster.Text
