import DevCluster.Document.Key
import DevCluster.Document.Moment

/-!
Values and tables of a document, and how assignments and headers extend a table. Entries keep the
order in which their names first appear, except that a table that was only implied moves to the end
when its header comes.
-/

namespace DevCluster.Document

/-- How a table came to be: by its own header, by the header of a table inside it, or by a dotted
name. -/
inductive Origin
  | declared
  | implied
  | dotted
deriving DecidableEq, Repr

/-- The value of a name. Only tables and the last of several tables can still be extended. -/
inductive Item
  | text (value : String)
  | integer (value : Int)
  | float (value : Binary64)
  | boolean (value : Bool)
  | moment (value : Moment)
  | array (items : List Item)
  | inlineTable (entries : List (String × Item))
  | table (origin : Origin) (entries : List (String × Item))
  | tables (earlier : List (List (String × Item))) (last : List (String × Item))

abbrev Table := List (String × Item)

namespace Table

def get? (table : Table) (name : String) : Option Item :=
  List.lookup name table

def replace (table : Table) (name : String) (item : Item) : Table :=
  table.map fun entry => if entry.1 = name then (name, item) else entry

def add (table : Table) (name : String) (item : Item) : Table :=
  table ++ [(name, item)]

def remove (table : Table) (name : String) : Table :=
  table.filter fun entry => entry.1 ≠ name

/-- Adds a value under a dotted name. Tables on the way must not have a header of their own, and the
one that gets the value must have come to be by a dotted name, unless it is the starting table
(`within` is none). -/
def assign (table : Table) (within : Option Origin) :
    (path : List String) → (name : String) → Item → Option Table
  | [], name, item =>
    if within.any (· ≠ .dotted) then none
    else if (table.get? name).isSome then none
    else some (table.add name item)
  | step :: path, name, item =>
    match table.get? step with
    | none => do
      some (table.add step (.table .dotted (← assign [] (some .dotted) path name item)))
    | some (.table origin inner) =>
      if origin = .declared then none
      else do
        some (table.replace step (.table origin (← assign inner (some origin) path name item)))
    | some (.tables earlier last) => do
      some (table.replace step (.tables earlier (← assign last (some .declared) path name item)))
    | some _ => none

/-- Changes the table at a path of headers, making implied tables on the way. Of several tables, the
last is meant. -/
def reach (change : Table → Option Table) : List String → Table → Option Table
  | [], table => change table
  | step :: path, table =>
    match table.get? step with
    | none => do some (table.add step (.table .implied (← reach change path [])))
    | some (.table origin inner) => do
      some (table.replace step (.table origin (← reach change path inner)))
    | some (.tables earlier last) => do
      some (table.replace step (.tables earlier (← reach change path last)))
    | some _ => none

/-- Opens the table of a header. A table implied by earlier headers becomes a declared one. -/
def declare (table : Table) (name : String) : Option Table :=
  match table.get? name with
  | none => some (table.add name (.table .declared []))
  | some (.table .implied inner) => some ((table.remove name).add name (.table .declared inner))
  | some _ => none

def declareAnother (table : Table) (name : String) : Option Table :=
  match table.get? name with
  | none => some (table.add name (.tables [] []))
  | some (.tables earlier last) => some (table.replace name (.tables (earlier ++ [last]) []))
  | some _ => none

end Table

end DevCluster.Document
