import DevCluster.Decimal.Spelling
import DevCluster.Diagnostics.Event
import DevCluster.Pattern.Notation

/-!
Directives let events through down to a level, by target, by the span they happen in, and by their
fields.
-/

namespace DevCluster

inductive Wanted
  /-- A truth value or a number, which no text is. -/
  | exactly (spelling : String)
  | matching (spelling : String) (pattern : Pattern)
deriving DecidableEq, Repr

/-- Lets through all levels down to `depth` where everything else that it says applies. -/
structure Directive where
  depth : Nat := Level.trace.depth
  target : Option String := none
  span : Option String := none
  /-- The fields that have to be there, with their values if these are said. -/
  fields : List (String × Option Wanted) := []
deriving DecidableEq, Repr

inductive DirectiveFault
  | malformed
  | unknownLevel
  | malformedPattern
  /-- The pattern has conditions on words of all scripts. -/
  | broadPattern
deriving DecidableEq, Repr

def DirectiveFault.text : DirectiveFault → String
  | malformed => "invalid filter directive"
  | unknownLevel => "error parsing level filter: expected one of \"off\", \"error\", \"warn\", " ++
    "\"info\", \"debug\", \"trace\", or a number 0-5"
  | malformedPattern => "invalid field filter: error building NFA"
  | broadPattern => "invalid field filter: unsupported regex feature for DFAs: cannot build " ++
    "DFAs for regexes with Unicode word boundaries; switch to ASCII word boundaries, or " ++
    "heuristically enable Unicode word boundaries or use a different regex engine"

namespace Wanted

def ofText (text : String) : Except DirectiveFault Wanted :=
  if text = "true" || text = "false" || spellsNumber text then .ok (exactly text)
  else match Pattern.ofText? text with
    | none => .error .malformedPattern
    | some pattern =>
      if pattern.looksBroadly then .error .broadPattern else .ok (matching text pattern)

def admits (text : String) : Wanted → Bool
  | exactly _ => false
  | matching _ pattern => pattern.matchesTail text

end Wanted

namespace Directive

/-- A level by its number, be it with a plus sign or leading zeros, or by its name in any case. -/
def depth? (text : String) : Option Nat :=
  let digits := match text.toList with
    | '+' :: digits => digits
    | digits => digits
  if !digits.isEmpty && digits.all Char.isDigit then
    let number := digits.foldl (fun number c => number * 10 + (c.toNat - '0'.toNat)) 0
    if number ≤ 5 then some number else none
  else match text.toLower with
    | "off" => some 0
    | "error" => some 1
    | "warn" => some 2
    | "info" => some 3
    | "debug" => some 4
    | "trace" => some 5
    | _ => none

/-- How far a directive is read, with the place where its present part begins. -/
inductive State
  | start
  | levelOrTarget (first : Nat)
  | span (first : Nat)
  | field (first : Nat)
  | fields
  | afterSpan
  | level (first : Nat)
deriving DecidableEq, Repr

def mayBegin (c : Char) : Bool :=
  c = '-' || c = ':' || c = '_' || Text.isAlphanumeric c

def field? (text : String) : Except DirectiveFault (String × Option Wanted) :=
  if text.isEmpty then .error .malformed
  else
    match text.splitOn "=" with
    | name :: value :: _ => do .ok (name, some (← Wanted.ofText value))
    | _ => .ok (text, none)

/-- One character at its place. `part first` is the text from `first` up to that place. -/
def step (part : Nat → String) (place : Nat) (directive : Directive) :
    State → Char → Except DirectiveFault (Directive × State)
  | .start, c =>
    if c = '[' then .ok (directive, .span (place + 1))
    else if mayBegin c then .ok (directive, .levelOrTarget place)
    else .error .malformed
  | .levelOrTarget first, c =>
    if c = '=' then .ok ({ directive with target := some (part first) }, .level (place + 1))
    else if c = '[' then .ok ({ directive with target := some (part first) }, .span (place + 1))
    else .ok (directive, .levelOrTarget first)
  | .span first, c =>
    if c = ']' then .ok ({ directive with span := some (part first) }, .afterSpan)
    else if c = '\x7b' then
      let name := if (part first).isEmpty then none else some (part first)
      .ok ({ directive with span := name }, .field (place + 1))
    else .ok (directive, .span first)
  | .field first, c =>
    if c = '\x7d' then do
      .ok ({ directive with fields := directive.fields ++ [← field? (part first)] }, .fields)
    else .ok (directive, .field first)
  | .fields, c => if c = ']' then .ok (directive, .afterSpan) else .error .malformed
  | .afterSpan, c => if c = '=' then .ok (directive, .level (place + 1)) else .error .malformed
  | .level first, _ => .ok (directive, .level first)

/-- What the end of the text adds. A word alone is a level if it can be one, else a target. -/
def finish (rest : Nat → String) (directive : Directive) : State → Except DirectiveFault Directive
  | .levelOrTarget first =>
    match depth? (rest first) with
    | some depth => .ok { directive with depth }
    | none => .ok { directive with target := some (rest first) }
  | .level first =>
    if (rest first).isEmpty then .ok directive
    else match depth? (rest first) with
      | some depth => .ok { directive with depth }
      | none => .error .unknownLevel
  | .afterSpan => .ok directive
  | .start | .span _ | .field _ | .fields => .error .malformed

def readFrom (part : Nat → Nat → String) (rest : Nat → String) :
    Nat → Directive → State → List Char → Except DirectiveFault Directive
  | _, directive, state, [] => finish rest directive state
  | place, directive, state, c :: text => do
    let (directive, state) ← step (fun first => part first place) place directive state c
    readFrom part rest (place + 1) directive state text

/-- Reads one directive. Blanks around it are skipped when its parts are told apart, but places are
counted from the first character after them and parts are cut out of the whole text. -/
def ofText (text : String) : Except DirectiveFault Directive :=
  let characters := text.toList
  let part (first place : Nat) := String.ofList ((characters.drop first).take (place - first))
  let rest (first : Nat) := String.ofList (characters.drop first)
  readFrom part rest 0 {} .start (Text.trim characters)

/-- Whether the directive is about spans, and so about all that happens in them. -/
def concernsSpans (directive : Directive) : Bool :=
  directive.span.isSome || !directive.fields.isEmpty

def concernsEvents (directive : Directive) : Bool :=
  directive.span.isNone && directive.fields.all (·.2.isNone)

def matchesTarget (directive : Directive) (target : String) : Bool :=
  directive.target.all fun start => start.toList.isPrefixOf target.toList

/-- Whether a span is of the kind that the directive is about, whatever its fields hold. -/
def concernsSpan (directive : Directive) (span : Span) : Bool :=
  directive.concernsSpans && directive.matchesTarget Span.target &&
    directive.span.all (· = span.name) &&
    directive.fields.all fun (name, _) => (span.fields.lookup name).isSome

def matchesSpan (directive : Directive) (span : Span) : Bool :=
  directive.concernsSpan span &&
    directive.fields.all fun (name, value) =>
      match span.fields.lookup name with
      | some (.bare text) => value.all (·.admits text)
      | _ => false

def concernsSame (left right : Directive) : Bool :=
  left.target = right.target && left.span = right.span && left.fields = right.fields

/-- The octets of a text as numbers, in whose order texts are compared. -/
def octetsOf (text : String) : List Nat :=
  text.toUTF8.toList.map (·.toNat)

/-- What says how specific a directive is: the length of its target, if it has one, the number of
its fields, and then the texts of both. -/
def rank (directive : Directive) : List Nat × List (List Nat) :=
  let target := directive.target.getD ""
  ([if directive.target.isSome then target.utf8ByteSize + 1 else 0, directive.fields.length],
    octetsOf target :: directive.fields.map (octetsOf ·.1))

/-- Of two directives, whether the first is at least as specific. -/
def atLeastAsSpecific (left right : Directive) : Bool :=
  let (leftSizes, leftTexts) := left.rank
  let (rightSizes, rightTexts) := right.rank
  let isBelow (left right : List Nat) : Bool := left.lex right (· < ·)
  isBelow rightSizes leftSizes || (leftSizes = rightSizes && !leftTexts.lex rightTexts isBelow)

end Directive

end DevCluster
