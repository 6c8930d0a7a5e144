import DevCluster.Diagnostics.Event

/-!
The written form of a record: one line of text, with colours or without, or one JSON object.
-/

namespace DevCluster

inductive LogStyle
  | plain
  | coloured
  | json
deriving DecidableEq, Repr

structure Clock where
  stamp : String
  elapsed : String
deriving DecidableEq, Repr

def Level.name : Level → String
  | trace => "TRACE"
  | debug => "DEBUG"
  | info => "INFO"
  | warn => "WARN"
  | error => "ERROR"

def Level.colour : Level → Nat
  | trace => 35
  | debug => 34
  | info => 32
  | warn => 33
  | error => 31

namespace LogStyle

/-- A text between a terminal's switch and the one that undoes all, where colours are shown. -/
def painted (style : LogStyle) (number : Nat) (text : String) : String :=
  match style with
  | coloured => s!"\x1b[{number}m{text}\x1b[0m"
  | _ => text

def bold (style : LogStyle) (text : String) : String := style.painted 1 text
def dim (style : LogStyle) (text : String) : String := style.painted 2 text
def italic (style : LogStyle) (text : String) : String := style.painted 3 text

end LogStyle

namespace FieldValue

def text (clock : Clock) : FieldValue → String
  | quoted value => shown value
  | bare value => value
  | number value => toString value
  | flag value => toString value
  | elapsed => clock.elapsed

def json (clock : Clock) : FieldValue → String
  | quoted value | bare value => jsonText value
  | number value => toString value
  | flag value => toString value
  | elapsed => jsonText clock.elapsed

end FieldValue

namespace Record

def fieldText (style : LogStyle) (clock : Clock) (field : String × FieldValue) : String :=
  style.italic field.1 ++ style.dim "=" ++ field.2.text clock

def fieldsText (style : LogStyle) (clock : Clock) (fields : List (String × FieldValue)) : String :=
  " ".intercalate (fields.map (fieldText style clock))

/-- The line of a record: time, level, spans, message and fields, and the fields of the spans. -/
def line (style : LogStyle) (clock : Clock) (spans : List Span) (record : Record) : String :=
  let level := record.level.name
  let level := String.ofList (List.replicate (5 - level.length) ' ') ++ level
  let names := String.join (spans.map fun span => style.bold span.name ++ ":")
  let place := if spans.isEmpty then "" else names ++ " "
  let own := " ".intercalate (record.message.toList ++ record.fields.map (fieldText style clock))
  let around := (spans.map fun span => fieldsText style clock span.fields).filter (· ≠ "")
  let around := String.join (around.map fun fields => " " ++ style.dim fields)
  let level := style.painted record.level.colour level
  s!"{style.dim clock.stamp} {level} {place}{own}{around}\n"

def jsonObject (members : List (String × String)) : String :=
  let listed := ",".intercalate (members.map fun (name, value) => jsonText name ++ ":" ++ value)
  s!"\x7b{listed}\x7d"

def jsonFields (clock : Clock) (fields : List (String × FieldValue)) : List (String × String) :=
  fields.map fun (name, value) => (name, value.json clock)

def jsonSpan (clock : Clock) (span : Span) : String :=
  jsonObject (jsonFields clock span.fields ++ [("name", jsonText span.name)])

/-- The object of a record, where the innermost span is told twice. -/
def object (clock : Clock) (spans : List Span) (record : Record) : String :=
  let own := record.message.toList.map (("message", jsonText ·)) ++ jsonFields clock record.fields
  let inner := spans.getLast?.toList.map (("span", jsonSpan clock ·))
  let all := if spans.isEmpty then []
    else [("spans", "[" ++ ",".intercalate (spans.map (jsonSpan clock)) ++ "]")]
  jsonObject ([("timestamp", jsonText clock.stamp), ("level", jsonText record.level.name),
    ("fields", jsonObject own)] ++ inner ++ all) ++ "\n"

def render (style : LogStyle) (clock : Clock) (spans : List Span) (record : Record) : String :=
  match style with
  | .json => record.object clock spans
  | _ => record.line style clock spans

end Record

end DevCluster
