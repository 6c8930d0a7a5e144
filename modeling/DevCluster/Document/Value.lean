import DevCluster.Document.Table

/-!
The text of values: strings, arrays and inline tables by their first character, all others as one
word. Arrays and inline tables may be nested in each other up to a fixed depth.
-/

namespace DevCluster.Document

open Reader

def deepestValue : Nat := 79

def isWordEnd (c : Char) : Bool :=
  isSpace c || c = '\n' || c = '\r' || c = ',' || c = ']' || c = '}' || c = '#'

def scalar? (word : List Char) : Option Item :=
  if word = "true".toList then some (.boolean true)
  else if word = "false".toList then some (.boolean false)
  else match integer? word with
    | some value => some (.integer value)
    | none => match float? word with
      | some value => some (.float value)
      | none => (moment? word).map .moment

/-- A value of one word. A date and a time of day may be joined by a space. -/
def word : Reader Item := do
  let first ← run (!isWordEnd ·)
  let text ← match date? first, (← ahead) with
    | some (_, []), ' ' :: c :: _ =>
      if c.isDigit then do
        expect ' '
        let second ← run (!isWordEnd ·)
        pure (first ++ ' ' :: second)
      else pure first
    | _, _ => pure first
  match scalar? text with
  | some item => pure item
  | none => refuse

def arrayRest (value : Reader Item) : Reader Item := do
  gap
  let items ← many (· ≠ ']') do
    let item ← value
    gap
    match (← ahead).head? with
    | some ',' => do expect ','; gap
    | some ']' => pure ()
    | _ => refuse
    pure item
  expect ']'
  pure (.array items)

structure Assignment where
  key : Key
  item : Item
  extent : Extent

def assignment (value : Reader Item) : Reader Assignment := do
  let key ← key
  expect '='
  spaces
  let (item, extent) ← withExtent value
  spaces
  pure { key, item, extent }

def inlineTableRest (value : Reader Item) : Reader Item := do
  spaces
  let assignments ← do
    if (← ahead).head? = some '\x7d' then pure []
    else
      let first ← assignment value
      let others ← many (· = ',') do
        expect ','
        assignment value
      pure (first :: others)
  expect '\x7d'
  let assign (table : Table) (assignment : Assignment) : Option Table :=
    table.assign none assignment.key.path assignment.key.name assignment.item
  match assignments.foldlM assign [] with
  | some table => pure (.inlineTable table)
  | none => refuse

/-- A value with room for `depth` arrays and inline tables around each other. -/
def valueWithin : Nat → Reader Item
  | 0 => do
    match (← ahead).head? with
    | some '"' | some '\'' => return .text (String.ofList (← quotation))
    | some '[' | some '\x7b' => refuse
    | _ => word
  | depth + 1 => do
    match (← ahead).head? with
    | some '"' | some '\'' => return .text (String.ofList (← quotation))
    | some '[' => do expect '['; arrayRest (valueWithin depth)
    | some '\x7b' => do expect '\x7b'; inlineTableRest (valueWithin depth)
    | _ => word

def value : Reader Item := valueWithin deepestValue

end DevCluster.Document
