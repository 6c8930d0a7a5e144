import DevCluster.Pattern.CharSet

/-!
Patterns of texts, and how a pattern is searched in a text. Of several ways to match, the first one
in order is meant: the earliest place, then the earlier of two alternatives, then more rounds of a
greedy repetition and fewer of a lazy one. A thread is what is still to be matched on one way, and
the threads of a place stand in that order.
-/

namespace DevCluster

inductive Look
  | start
  | stop
  | lineStart
  | lineStop
  /-- Lines may also end at carriage returns, but not between one and its line feed. -/
  | carriageLineStart
  | carriageLineStop
  /-- Between a word character of ASCII and what is none. -/
  | edge
  | noEdge
  | wordStart
  | wordStop
  /-- A condition like the four before, with word characters of all scripts. -/
  | broad
deriving DecidableEq, Repr

inductive Pattern
  | empty
  | one (set : CharSet)
  | look (condition : Look)
  | sequence (first second : Pattern)
  /-- The first alternative comes before the second. -/
  | either (first second : Pattern)
  | star (body : Pattern) (greedy : Bool)
  | plus (body : Pattern) (greedy : Bool)
  /-- A repetition behind a round of its body. -/
  | again (body : Pattern) (greedy : Bool)
deriving DecidableEq, Repr

structure Surroundings where
  before : Option Char
  after : Option Char

namespace Look

def isWordCharacter (c : Char) : Bool := CharSet.wordCharacters.contains c

/-- Whether a condition holds whatever comes after the place. -/
def holdsAfter (before : Option Char) : Look → Bool
  | start => before.isNone
  | lineStart | carriageLineStart => before.all (· = '\n')
  | _ => false

def holds (place : Surroundings) : Look → Bool
  | start => place.before.isNone
  | stop => place.after.isNone
  | lineStart => place.before.all (· = '\n')
  | lineStop => place.after.all (· = '\n')
  | carriageLineStart =>
    place.before.all (· = '\n') || (place.before = some '\r' && place.after ≠ some '\n')
  | carriageLineStop =>
    place.after.all (· = '\r') || (place.after = some '\n' && place.before ≠ some '\r')
  | edge => place.before.any isWordCharacter != place.after.any isWordCharacter
  | noEdge => place.before.any isWordCharacter == place.after.any isWordCharacter
  | wordStart => !place.before.any isWordCharacter && place.after.any isWordCharacter
  | wordStop => place.before.any isWordCharacter && !place.after.any isWordCharacter
  | broad => false

end Look

namespace Pattern

/-- The number of places in a pattern, with one more behind each round of a repetition. -/
def size : Pattern → Nat
  | empty | one _ | look _ => 1
  | sequence first second | either first second => first.size + second.size + 1
  | star body _ | plus body _ | again body _ => body.size + 2

def looksBroadly : Pattern → Bool
  | look condition => condition = .broad
  | empty | one _ => false
  | sequence first second | either first second => first.looksBroadly || second.looksBroadly
  | star body _ | plus body _ | again body _ => body.looksBroadly

abbrev Thread := List Pattern

namespace Thread

/-- Whether a thread can go on only by a character or behind a condition, or is complete. -/
def waits : Thread → Bool
  | [] | .one _ :: _ | .look _ :: _ => true
  | _ => false

/-- The threads that a thread leads to at the same place. -/
def branches (holds : Look → Bool) : Thread → List Thread
  | [] | .one _ :: _ => []
  | .empty :: rest => [rest]
  | .look condition :: rest => if holds condition then [rest] else []
  | .sequence first second :: rest => [first :: second :: rest]
  | .either first second :: rest => [first :: rest, second :: rest]
  | .plus body greedy :: rest => [body :: .again body greedy :: rest]
  | .star body greedy :: rest | .again body greedy :: rest =>
    let round := body :: .again body greedy :: rest
    if greedy then [round, rest] else [rest, round]

def advance (c : Char) : Thread → Option Thread
  | .one set :: rest => if set.contains c then some rest else none
  | _ => none

/-- As many rounds as the thread can take part in below: it leads to no more threads than it has
places, and each of them has at most two branches. -/
def room (thread : Thread) : Nat := 2 * (thread.map size).foldr (· + ·) 0 + 3

end Thread

/-- All threads that some threads lead to, in the order in which they are first met. -/
def meet (holds : Look → Bool) : Nat → List Thread → List Thread → List Thread
  | 0, met, _ => met
  | _, met, [] => met
  | rounds + 1, met, thread :: others =>
    if thread ∈ met then meet holds rounds met others
    else meet holds rounds (met ++ [thread]) (thread.branches holds ++ others)

def waiting (holds : Look → Bool) (threads : List Thread) : List Thread :=
  (meet holds ((threads.map (·.room)).foldr (· + ·) 0) [] threads).filter (·.waits)

/-- The waiting threads at a place. Conditions that the character before it decides come first; the
others are looked at only if one of them holds. -/
def waitingAt (place : Surroundings) (threads : List Thread) : List Thread :=
  let early := waiting (·.holdsAfter place.before) threads
  let holdsNow (thread : Thread) : Bool :=
    match thread with
    | .look condition :: _ => condition.holds place && !condition.holdsAfter place.before
    | _ => false
  if early.any holdsNow then waiting (·.holds place) early else early

def endsAt (pattern : Pattern) (place : Surroundings) : Bool :=
  (waitingAt place [[pattern]]).contains []

/-- Whether the match that is meant ends where the text ends. Matches begin at each place until one
has ended, be it between the octets of a character. -/
def reachesEnd (pattern : Pattern) (searching : Bool) (threads : List Thread)
    (before : Option Char) : List Char → Bool
  | [] => (waitingAt ⟨before, none⟩ (threads ++ if searching then [[pattern]] else [])).contains []
  | c :: rest =>
    let threads := waitingAt ⟨before, some c⟩ (threads ++ if searching then [[pattern]] else [])
    let better := threads.takeWhile (!·.isEmpty)
    let searching := searching && !threads.contains [] &&
      !(1 < c.utf8Size && pattern.endsAt ⟨some c, some c⟩)
    reachesEnd pattern searching (better.filterMap (·.advance c)) (some c) rest

def matchesTail (pattern : Pattern) (text : String) : Bool :=
  pattern.reachesEnd true [] none text.toList

end Pattern

end DevCluster
