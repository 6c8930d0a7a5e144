import DevCluster.Pattern.Escape

/-!
Sets of characters between brackets: characters, ranges, named sets and sets in brackets of their
own, joined by operations of sets, which all bind alike. Every reading comes with its depth, the
number of sets, unions and operations around each other.
-/

namespace DevCluster.Pattern

/-- Something that was read, and how deep its parts are nested in each other. -/
structure Nested (α : Type) where
  value : α
  depth : Nat := 0

/-- The depth of parts in a row: one that is alone needs no room of its own. -/
def depthOfRow : List Nat → Nat
  | [] => 0
  | [depth] => depth
  | depths => depths.foldl max 0 + 1

inductive SetOperator
  | intersection
  | difference
  | symmetricDifference
deriving DecidableEq, Repr

def SetOperator.apply : SetOperator → CharSet → CharSet → CharSet
  | intersection => .intersection
  | difference => .difference
  | symmetricDifference => .symmetricDifference

structure Bracket where
  negated : Bool
  left : Option (Nested CharSet × SetOperator) := none
  items : List (Nested CharSet) := []

namespace Bracket

def add (bracket : Bracket) (item : Nested CharSet) : Bracket :=
  { bracket with items := bracket.items ++ [item] }

def union (bracket : Bracket) : Nested CharSet where
  value := bracket.items.foldl (fun set item => .union set item.value) .none
  depth := depthOfRow (bracket.items.map (·.depth))

/-- All that has been read, with the last operator applied. -/
def operated? (bracket : Bracket) (flags : Flags) : Option (Nested CharSet) :=
  match bracket.left with
  | none => some bracket.union
  | some (left, operator) => do
    let right := bracket.union
    let value := operator.apply (← flags.fold? left.value) (← flags.fold? right.value)
    some { value, depth := max left.depth right.depth + 1 }

def operate? (bracket : Bracket) (flags : Flags) (operator : SetOperator) : Option Bracket := do
  some { bracket with left := some (← bracket.operated? flags, operator), items := [] }

def close? (bracket : Bracket) (flags : Flags) : Option (Nested CharSet) := do
  let inner ← bracket.operated? flags
  some { value := ← flags.foldAndNegate? bracket.negated inner.value, depth := inner.depth + 1 }

end Bracket

/-- The hyphens at the start of a set, which stand for themselves, and what follows them. -/
def leadingHyphens (flags : Flags) : Nat → List Char → Nat × List Char
  | rounds + 1, '-' :: rest =>
    let (count, text) := leadingHyphens flags rounds (flags.skip rest)
    (count + 1, text)
  | _, text => (0, text)

/-- The start of a set behind its opening bracket. A closing bracket in the first place stands for
itself. -/
def openBracket? (flags : Flags) (text : List Char) : Option (Bracket × List Char) :=
  let (negated, text) := match flags.skip text with
    | '^' :: rest => (true, flags.skip rest)
    | text => (false, text)
  let (hyphens, text) := leadingHyphens flags text.length text
  let items := List.replicate hyphens { value := CharSet.single '-' }
  match hyphens, text with
  | 0, ']' :: rest => some ({ negated, items := [{ value := .single ']' }] }, rest)
  | _, text => some ({ negated, items }, text)

/-- A named set between colons, behind its opening bracket, and whether it is negated. -/
def colonSet? : List Char → Option (CharSet × Bool × List Char)
  | ':' :: text => do
    let (negated, text) := match text with
      | '^' :: rest => (true, rest)
      | text => (false, text)
    match text.dropWhile (· ≠ ':') with
    | ':' :: ']' :: rest =>
      let set ← CharSet.named? (String.ofList (text.takeWhile (· ≠ ':')))
      some (set, negated, rest)
    | _ => none
  | _ => none

def bracketAtom? (flags : Flags) : List Char → Option (Atom × List Char)
  | [] => none
  | '\\' :: rest => escape? flags rest
  | c :: rest => some (.char c, rest)

def allowed? (flags : Flags) (c : Char) : Option Char :=
  if flags.has .allScripts || c.toNat ≤ 0x7F then some c else none

/-- The next part behind a hyphen, as far as it decides whether the hyphen makes a range. A remark
hides no more than its mark. -/
def aheadOfHyphen (flags : Flags) (text : List Char) : Option Char :=
  if !flags.has .spaced then text.head?
  else
    match text.dropWhile Text.isBlank with
    | '#' :: rest => (rest.dropWhile Text.isBlank).head?
    | text => text.head?

def Atom.item? (flags : Flags) : Atom → Option CharSet
  | .char c => (allowed? flags c).map .single
  | .set found => some found
  | .look _ => none

/-- A character, a range or a set behind a backslash, and what follows it. -/
def bracketItem? (flags : Flags) (text : List Char) : Option (CharSet × List Char) := do
  let (first, rest) ← bracketAtom? flags text
  let single : Option (CharSet × List Char) := (first.item? flags).map (·, flags.skip rest)
  match flags.skip rest with
  | [] => none
  | '-' :: rest =>
    let ahead := aheadOfHyphen flags rest
    if ahead = some ']' || ahead = some '-' then single
    else
      let (last, rest) ← bracketAtom? flags (flags.skip rest)
      match first, last with
      | .char first, .char last =>
        if first ≤ last then some (.range (← allowed? flags first) (← allowed? flags last), rest)
        else none
      | _, _ => none
  | _ => single

/-- Reads up to so many parts of a set with the sets around it, innermost first. -/
def bracketsWithin (flags : Flags) :
    Nat → Bracket → List Bracket → List Char → Option (Nested CharSet × List Char)
  | 0, _, _, _ => none
  | rounds + 1, bracket, around, text =>
    match flags.skip text with
    | [] => none
    | '[' :: rest =>
      match colonSet? rest with
      | some (set, negated, rest) => do
        let item := { value := ← flags.foldAndNegate? negated set }
        bracketsWithin flags rounds (bracket.add item) around rest
      | none => do
        let (inner, rest) ← openBracket? flags rest
        bracketsWithin flags rounds inner (bracket :: around) rest
    | ']' :: rest => do
      let closed ← bracket.close? flags
      match around with
      | [] => some (closed, rest)
      | outer :: around => bracketsWithin flags rounds (outer.add closed) around rest
    | '&' :: '&' :: rest => do
      bracketsWithin flags rounds (← bracket.operate? flags .intersection) around rest
    | '-' :: '-' :: rest => do
      bracketsWithin flags rounds (← bracket.operate? flags .difference) around rest
    | '~' :: '~' :: rest => do
      bracketsWithin flags rounds (← bracket.operate? flags .symmetricDifference) around rest
    | text => do
      let (item, rest) ← bracketItem? flags text
      bracketsWithin flags rounds (bracket.add { value := item }) around rest

/-- A set behind its opening bracket, and what follows it. Each part takes a character, so there are
no more parts than characters. -/
def brackets? (flags : Flags) (text : List Char) : Option (Nested CharSet × List Char) := do
  let (bracket, rest) ← openBracket? flags text
  bracketsWithin flags (rest.length + 1) bracket [] rest

end DevCluster.Pattern
