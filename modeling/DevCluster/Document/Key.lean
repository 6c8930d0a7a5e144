import DevCluster.Document.Quotation

/-!
Keys of a document: one name, or several joined by dots, each bare or quoted on one line.
-/

namespace DevCluster.Document

structure Key where
  path : List String
  name : String
  extent : Extent
deriving DecidableEq, Repr

def isBareChar (c : Char) : Bool := c.isAlphanum || c = '_' || c = '-'

def longestKey : Nat := 79

def keyName : Reader String
  | '"' :: rest => do
    let (name, rest) ← basicRest rest
    some (String.ofList name, rest)
  | '\'' :: rest => do
    let (name, rest) ← literalRest rest
    some (String.ofList name, rest)
  | text => do
    let (name, rest) ← Reader.run isBareChar text
    if name.isEmpty then none else some (String.ofList name, rest)

/-- The first name of a key, which is that of an entry of its table. -/
def Key.first (key : Key) : String := key.path.headD key.name

def key : Reader Key := do
  spaces
  let (first, extent) ← Reader.withExtent keyName
  spaces
  let others ← Reader.many (· = '.') do
    Reader.expect '.'
    spaces
    let name ← keyName
    spaces
    pure name
  let names := first :: others
  if longestKey < names.length then Reader.refuse
  else pure { path := names.dropLast, name := names.getLastD first, extent }

end DevCluster.Document
