import DevCluster.Text.Excerpt

/-!
Readers take what they recognise from the front of a text, or refuse the text. Nothing is ever read
twice: which way to go is decided by the next characters alone.
-/

namespace DevCluster.Document

abbrev Reader := StateT (List Char) Option

/-- A part of a document, by the text that is left to read where it begins and where it ends. -/
structure Extent where
  atStart : List Char
  atEnd : List Char
deriving DecidableEq, Repr

def Extent.place (extent : Extent) (octets : Nat) : Text.Place where
  first := octets - Text.octetCount extent.atStart
  last := octets - Text.octetCount extent.atEnd

namespace Reader

def ahead : Reader (List Char) := get

def withExtent {α : Type} (reader : Reader α) : Reader (α × Extent) := do
  let atStart ← ahead
  let value ← reader
  return (value, { atStart, atEnd := ← ahead })

def refuse {α : Type} : Reader α := fun _ => none

def expect (c : Char) : Reader Unit
  | d :: rest => if c = d then some ((), rest) else none
  | [] => none

/-- The longest run of accepted characters, which may be empty. -/
def run (accepted : Char → Bool) : Reader (List Char) :=
  fun text => some (text.takeWhile accepted, text.dropWhile accepted)

/-- Reads up to `rounds` items, each announced by its first character. -/
def manyWithin {α : Type} (announced : Char → Bool) (item : Reader α) : Nat → Reader (List α)
  | 0 => pure []
  | rounds + 1 => do
    match (← ahead).head? with
    | none => pure []
    | some c =>
      if announced c then
        let first ← item
        let others ← manyWithin announced item rounds
        pure (first :: others)
      else pure []

/-- Reads items as long as the next character announces one. An item takes at least one character,
so there are no more items than characters. -/
def many {α : Type} (announced : Char → Bool) (item : Reader α) : Reader (List α) := do
  manyWithin announced item (← ahead).length

end Reader

open Reader

def isSpace (c : Char) : Bool := c = ' ' || c = '\t'

/-- Characters that may stand in comments and literal strings. -/
def isTextChar (c : Char) : Bool := c = '\t' || (0x20 ≤ c.toNat && c.toNat ≠ 0x7F)

def spaces : Reader Unit := do
  let _ ← run isSpace

/-- A line feed, with a carriage return before it or not. -/
def newline : Reader Unit
  | '\n' :: rest => some ((), rest)
  | '\r' :: '\n' :: rest => some ((), rest)
  | _ => none

def comment : Reader Unit := do
  expect '#'
  let _ ← run isTextChar

def remark : Reader Unit := do
  if (← ahead).head? = some '#' then comment

def lineEnd : Reader Unit := do
  if (← ahead).isEmpty then pure () else newline

/-- Spaces, newlines and comments, as they may stand between the items of an array. -/
def gap : Reader Unit := do
  let _ ← many (fun c => isSpace c || c = '#' || c = '\n' || c = '\r') do
    match (← ahead).head? with
    | some '#' => do comment; newline
    | some c => if isSpace c then spaces else newline
    | none => refuse

end DevCluster.Document
