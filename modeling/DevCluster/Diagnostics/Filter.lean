import DevCluster.Diagnostics.Directive

/-!
Which events are shown, by all directives together.
-/

namespace DevCluster

abbrev Filter := List Directive

namespace Filter

def pieces (text : String) : List String :=
  (text.splitOn ",").filter (· ≠ "")

def ofText? (text : String) : Option Filter :=
  match (pieces text).mapM Directive.ofText with
  | .ok filter => some filter
  | .error _ => none

/-- The filter of all pieces that can be read, and what is wrong with the others. -/
def ofTextLossy (text : String) : Filter × List String :=
  (pieces text).foldr (fun piece (filter, complaints) =>
    match Directive.ofText piece with
    | .ok directive => (directive :: filter, complaints)
    | .error fault => (filter, s!"ignoring `{piece}`: {fault.text}" :: complaints)) ([], [])

/-- The directive that decides about an event alone. Of equal ones, the last is meant. -/
def deciding (filter : Filter) (applies : Directive → Bool) : Option Directive :=
  (filter.filter fun directive => directive.concernsEvents && applies directive).foldl
    (fun best directive => match best with
      | none => some directive
      | some other => if directive.atLeastAsSpecific other then some directive else best) none

def passesAlone (filter : Filter) (target : String) (level : Level)
    (hasField : String → Bool) : Bool :=
  let applies (directive : Directive) :=
    directive.matchesTarget target && directive.fields.all (hasField ·.1)
  (filter.deciding applies).any (level.depth ≤ ·.depth)

/-- The directives in force: the last of those that say the same but for their level. -/
def inForce : Filter → List Directive
  | [] => []
  | directive :: rest =>
    if rest.any directive.concernsSame then inForce rest else directive :: inForce rest

/-- Whether the directives about spans let a level through within a span. -/
def passesWithin (filter : Filter) (span : Span) (level : Level) : Bool :=
  filter.inForce.any fun directive => directive.matchesSpan span && level.depth ≤ directive.depth

/-- Whether some directive goes down to a level, be it in force or not. One that asks for a value
goes down to all. -/
def reaches (filter : Filter) (level : Level) : Bool :=
  filter.any fun directive =>
    level.depth ≤ directive.depth || directive.fields.any (·.2.isSome)

/-- A span is shown if a directive is about it, and else like an event of its own. It has a level
like an event, which some directive has to go down to. -/
def showsSpan (filter : Filter) (span : Span) : Bool :=
  filter.reaches .info &&
    (filter.any (·.concernsSpan span) || filter.passesAlone Span.target .info fun _ => true)

def shows (filter : Filter) (spans : List Span) (record : Record) : Bool :=
  spans.any (filter.passesWithin · record.level) ||
    filter.passesAlone record.target record.level fun name =>
      (name = "message" && record.message.isSome) || (record.fields.lookup name).isSome

end Filter

end DevCluster
