import DevCluster.Pattern.Brackets
import DevCluster.Text.Alphanumeric

/-!
The notation of patterns: characters and sets, alternatives between bars, groups in parentheses,
repetitions behind what they repeat, and flags that hold up to the end of their group.
-/

namespace DevCluster.Pattern

def deepestPattern : Nat := 250

/-- An open group: the parts of its present alternative, its finished alternatives, and the flags
that hold again behind it. A part that only sets flags has no pattern. -/
structure Group where
  parts : List (Nested (Option Pattern)) := []
  alternatives : List (Nested Pattern) := []
  flagsBehind : Flags := [.allScripts]

def inRow : List Pattern → Pattern
  | [] => .empty
  | [pattern] => pattern
  | pattern :: rest => .sequence pattern (inRow rest)

def anyOf : List Pattern → Pattern
  | [] => .empty
  | [pattern] => pattern
  | pattern :: rest => .either pattern (anyOf rest)

namespace Group

def add (group : Group) (part : Nested (Option Pattern)) : Group :=
  { group with parts := group.parts ++ [part] }

def addPattern (group : Group) (pattern : Pattern) : Group :=
  group.add { value := some pattern }

def alternate (group : Group) : Group :=
  let finished : Nested Pattern := {
    value := inRow (group.parts.filterMap (·.value))
    depth := depthOfRow (group.parts.map (·.depth)) }
  { group with parts := [], alternatives := group.alternatives ++ [finished] }

def close (group : Group) : Nested Pattern :=
  let alternatives := group.alternate.alternatives
  { value := anyOf (alternatives.map (·.value)), depth := depthOfRow (alternatives.map (·.depth)) }

/-- Repeats the last part, which must be there and not only set flags. -/
def repeat? (group : Group) (repetition : Pattern → Pattern) : Option Group := do
  let part ← group.parts.getLast?
  let repeated := { value := some (repetition (← part.value)), depth := part.depth + 1 }
  some { group with parts := group.parts.dropLast ++ [repeated] }

end Group

/-- A pattern in the making: the flags in force, the names of groups so far, the innermost open
group, and the groups around it. -/
structure Draft where
  flags : Flags := [.allScripts]
  names : List (List Char) := []
  group : Group := {}
  around : List Group := []

/-- The flags before a colon or a closing parenthesis, which of both it is, and what follows it. No
flag comes twice, and only one hyphen, which turns the flags behind it off and is not the last. -/
def flags? (given : List Char) (flags : Flags) : List Char → Option (Flags × Bool × List Char)
  | ':' :: rest => if given.head? = some '-' then none else some (flags, true, rest)
  | ')' :: rest =>
    if given.isEmpty || given.head? = some '-' then none else some (flags, false, rest)
  | c :: rest => do
    if c ∈ given then none
    else if c = '-' then flags? (c :: given) flags rest
    else flags? (c :: given) (flags.set (← Flag.ofLetter? c) ('-' ∉ given)) rest
  | [] => none

def mayBeginName (c : Char) : Bool :=
  c = '_' || (Text.isAlphanumeric c && !c.isDigit)

def mayContinueName (c : Char) : Bool :=
  c = '_' || c = '.' || c = '[' || c = ']' || Text.isAlphanumeric c

def name? (text : List Char) : Option (List Char × List Char) :=
  match text.span (· ≠ '>') with
  | (first :: others, _ :: rest) =>
    if mayBeginName first && others.all mayContinueName then some (first :: others, rest) else none
  | _ => none

namespace Draft

def openGroup (draft : Draft) (flags : Flags) : Draft :=
  { draft with
    flags
    group := { flagsBehind := draft.flags }
    around := draft.group :: draft.around }

def openNamed? (draft : Draft) (text : List Char) : Option (Draft × List Char) := do
  let (name, rest) ← name? text
  if name ∈ draft.names then none
  else some ({ draft with names := name :: draft.names }.openGroup draft.flags, rest)

/-- What stands behind an opening parenthesis. There are no conditions on the text around. -/
def parenthesis? (draft : Draft) (text : List Char) : Option (Draft × List Char) :=
  match draft.flags.skip text with
  | '?' :: '=' :: _ | '?' :: '!' :: _ | '?' :: '<' :: '=' :: _ | '?' :: '<' :: '!' :: _ => none
  | '?' :: 'P' :: '<' :: rest | '?' :: '<' :: rest => draft.openNamed? rest
  | '?' :: rest => do
    let (flags, isGroup, rest) ← flags? [] draft.flags rest
    if isGroup then some (draft.openGroup flags, rest)
    else some ({ draft with flags, group := draft.group.add { value := none } }, rest)
  | text => some (draft.openGroup draft.flags, text)

def closeGroup? (draft : Draft) : Option Draft :=
  match draft.around with
  | [] => none
  | outer :: around =>
    let closed := draft.group.close
    some { draft with
      flags := draft.group.flagsBehind
      group := outer.add { value := some closed.value, depth := closed.depth + 1 }
      around }

/-- A repetition, and what follows it. A question mark right behind it swaps greed. -/
def repeat? (draft : Draft) (repetition : Bool → Pattern → Pattern) (text : List Char) :
    Option (Draft × List Char) := do
  let (swapped, rest) := match text with
    | '?' :: rest => (true, rest)
    | text => (false, text)
  let greedy := swapped == draft.flags.has .lazy
  some ({ draft with group := ← draft.group.repeat? (repetition greedy) }, rest)

def add? (draft : Draft) (pattern : Option Pattern) : Option Draft := do
  some { draft with group := draft.group.addPattern (← pattern) }

def addAtom? (draft : Draft) : Atom → Option Draft
  | .char c => draft.add? (draft.flags.literal? c)
  | .set found => draft.add? (some (.one found))
  | .look condition => draft.add? (some (.look condition))

/-- Reads one part, and gives what follows it. Counted repetitions are not known. -/
def step? (draft : Draft) : List Char → Option (Draft × List Char)
  | [] => none
  | '(' :: rest => draft.parenthesis? rest
  | ')' :: rest => do some (← draft.closeGroup?, rest)
  | '|' :: rest => some ({ draft with group := draft.group.alternate }, rest)
  | '[' :: rest => do
    let (found, rest) ← brackets? draft.flags rest
    let part := { value := some (.one found.value), depth := found.depth }
    some ({ draft with group := draft.group.add part }, rest)
  | '?' :: rest =>
    let optional (greedy : Bool) (body : Pattern) : Pattern :=
      if greedy then .either body .empty else .either .empty body
    draft.repeat? optional rest
  | '*' :: rest => draft.repeat? (fun greedy body => .star body greedy) rest
  | '+' :: rest => draft.repeat? (fun greedy body => .plus body greedy) rest
  | '\x7B' :: _ => none
  | '\\' :: rest => do
    let (atom, rest) ← escape? draft.flags rest
    some (← draft.addAtom? atom, rest)
  | '.' :: rest => do some (← draft.add? draft.flags.dot?, rest)
  | '^' :: rest => do some (← draft.add? (some (.look draft.flags.lineStart)), rest)
  | '$' :: rest => do some (← draft.add? (some (.look draft.flags.lineStop)), rest)
  | c :: rest => do some (← draft.addAtom? (.char c), rest)

def finish? (draft : Draft) : Option Pattern :=
  let closed := draft.group.close
  if draft.around.isEmpty && closed.depth ≤ deepestPattern then some closed.value else none

/-- Reads up to so many parts, and finishes the pattern where the text ends. -/
def readWithin : Nat → Draft → List Char → Option Pattern
  | 0, _, _ => none
  | rounds + 1, draft, text =>
    match draft.flags.skip text with
    | [] => draft.finish?
    | text => do
      let (draft, rest) ← draft.step? text
      readWithin rounds draft rest

end Draft

/-- The pattern that a text spells. Each part takes a character, so there are no more parts than
characters. -/
def ofText? (text : String) : Option Pattern :=
  Draft.readWithin (text.length + 1) {} text.toList

end DevCluster.Pattern
