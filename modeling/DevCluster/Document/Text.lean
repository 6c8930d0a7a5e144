import DevCluster.Document.Value

/-!
The text of a whole document: lines that hold a header, an assignment, or neither, each with a
comment behind it or not. Assignments go to the table of the last header before them.
-/

namespace DevCluster.Document

open Reader

inductive Statement
  | assign (assignment : Assignment)
  /-- The header of a table, with the extent of all of it. -/
  | header (key : Key) (extent : Extent)
  | arrayHeader (key : Key) (extent : Extent)

/-- The key of a header, and whether it is that of one of several tables. -/
def headerKey : Reader (Key × Bool) := do
  expect '['
  if (← ahead).head? = some '[' then
    expect '['
    let name ← key
    expect ']'
    expect ']'
    pure (name, true)
  else
    let name ← key
    expect ']'
    pure (name, false)

def headerStatement : Reader Statement := do
  let ((key, isArray), extent) ← withExtent headerKey
  pure (if isArray then .arrayHeader key extent else .header key extent)

def line : Reader (Option Statement) := do
  spaces
  let statement ← match (← ahead).head? with
    | none | some '#' | some '\n' | some '\r' => pure none
    | some '[' => some <$> headerStatement
    | some _ => do pure (some (.assign (← assignment value)))
  spaces
  remark
  lineEnd
  pure statement

/-- All statements of a text. A byte order mark before them is skipped. -/
def statements? (text : List Char) : Option (List Statement) := do
  let text := if text.head? = some '\uFEFF' then text.tail else text
  let (lines, _) ← many (fun _ => true) line text
  some (lines.filterMap id)

/-- Where an entry of a document stands: its name, and its value if that is in one piece. -/
structure Mark where
  name : Extent
  value : Option Extent

abbrev Marks := List (String × Mark)

namespace Marks

def note (marks : Marks) (name : String) (mark : Mark) : Marks :=
  if (marks.lookup name).isSome then marks else marks ++ [(name, mark)]

def renew (marks : Marks) (name : String) (mark : Mark) : Marks :=
  marks.filter (·.1 ≠ name) ++ [(name, mark)]

/-- Extends the value of an entry up to the end of a part behind it. -/
def extend (marks : Marks) (name : String) (part : Extent) : Marks :=
  marks.map fun (other, mark) =>
    if other = name then
      (other, { mark with value := mark.value.map ({ · with atEnd := part.atEnd }) })
    else (other, mark)

/-- Marks what a statement behind the header of a table adds to the document. The header of a table
takes the place of those that only implied it. -/
def apply (marks : Marks) (current : List String) : Statement → Marks
  | .assign { key, extent, .. } =>
    match current with
    | [] =>
      let value := if key.path.isEmpty then some extent else none
      marks.note key.first { name := key.extent, value }
    | [table] => marks.extend table extent
    | _ => marks
  | .header key extent =>
    if key.path.isEmpty then marks.renew key.name { name := key.extent, value := some extent }
    else marks.note key.first { name := key.extent, value := none }
  | .arrayHeader key extent =>
    if key.path.isEmpty then
      (marks.note key.name { name := key.extent, value := some extent }).extend key.name extent
    else marks.note key.first { name := key.extent, value := none }

end Marks

/-- A document in the making: its entries, where they stand, and the path of the table that
assignments go to. -/
structure Draft where
  root : Table := []
  marks : Marks := []
  current : List String := []

def Draft.apply (draft : Draft) (statement : Statement) : Option Draft := do
  let marks := draft.marks.apply draft.current statement
  match statement with
  | .assign { key, item, .. } =>
    let extend (table : Table) := table.assign none key.path key.name item
    some { draft with root := ← Table.reach extend draft.current draft.root, marks }
  | .header key _ =>
    let root ← Table.reach (·.declare key.name) key.path draft.root
    some { root, marks, current := key.path ++ [key.name] }
  | .arrayHeader key _ =>
    let root ← Table.reach (·.declareAnother key.name) key.path draft.root
    some { root, marks, current := key.path ++ [key.name] }

/-- The entries of a document, if its text is one, and where they stand. -/
def ofText? (text : String) : Option (Table × Marks) := do
  let draft ← (← statements? text.toList).foldlM Draft.apply {}
  some (draft.root, draft.marks)

end DevCluster.Document
