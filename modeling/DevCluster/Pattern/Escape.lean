import DevCluster.Pattern.Basic
import DevCluster.Text.Blank
import DevCluster.Text.Hexadecimal

/-!
What stands behind a backslash in the notation of patterns, and the flags that change what the
notation means. Tables of all scripts are not at hand: what would need one is refused.
-/

namespace DevCluster.Pattern

inductive Flag
  | anyCase
  | lines
  /-- The dot stands for newlines, too. -/
  | wideDot
  /-- Repetitions are lazy, and greedy with a question mark. -/
  | lazy
  | allScripts
  | carriageReturns
  | spaced
deriving DecidableEq, Repr

def Flag.ofLetter? : Char → Option Flag
  | 'i' => some .anyCase
  | 'm' => some .lines
  | 's' => some .wideDot
  | 'U' => some .lazy
  | 'u' => some .allScripts
  | 'R' => some .carriageReturns
  | 'x' => some .spaced
  | _ => none

abbrev Flags := List Flag

/-- A text from its first character on that is neither a blank nor in a remark. -/
def dropRemarks : (inRemark : Bool) → List Char → List Char
  | _, [] => []
  | true, c :: rest => dropRemarks (c ≠ '\n') rest
  | false, c :: rest =>
    if Text.isBlank c then dropRemarks false rest
    else if c = '#' then dropRemarks true rest
    else c :: rest

namespace Flags

def has (flags : Flags) (flag : Flag) : Bool := flags.contains flag

def set (flags : Flags) (flag : Flag) (on : Bool) : Flags :=
  if on then flag :: flags else flags.filter (· ≠ flag)

def skip (flags : Flags) (text : List Char) : List Char :=
  if flags.has .spaced then dropRemarks false text else text

/-- A set with the other case of its letters where case does not count. -/
def fold? (flags : Flags) (set : CharSet) : Option CharSet :=
  if !flags.has .anyCase then some set
  else if !flags.has .allScripts then some (.anyCase set)
  else if set.isVoid then some set
  else none

/-- A set or, if it is negated, all other characters. Among ASCII alone there is no such set. -/
def foldAndNegate? (flags : Flags) (negated : Bool) (set : CharSet) : Option CharSet := do
  let set ← flags.fold? set
  if !negated then some set
  else if flags.has .allScripts then some (.complement set)
  else none

def literal? (flags : Flags) (c : Char) : Option Pattern :=
  if !flags.has .anyCase then some (.one (.single c))
  else if flags.has .allScripts then none
  else if c.isAlpha then some (.one (.anyCase (.single c)))
  else some (.one (.single c))

/-- The pattern of the dot. It is never a single octet of a character. -/
def dot? (flags : Flags) : Option Pattern :=
  let newlines : CharSet :=
    if flags.has .wideDot then .none
    else if flags.has .carriageReturns then .union (.single '\n') (.single '\r')
    else .single '\n'
  if flags.has .allScripts then some (.one (.complement newlines)) else none

def lineStart (flags : Flags) : Look :=
  if !flags.has .lines then .start
  else if flags.has .carriageReturns then .carriageLineStart
  else .lineStart

def lineStop (flags : Flags) : Look :=
  if !flags.has .lines then .stop
  else if flags.has .carriageReturns then .carriageLineStop
  else .lineStop

def wordLook (flags : Flags) (look : Look) : Look :=
  if flags.has .allScripts then .broad else look

end Flags

inductive Atom
  | char (c : Char)
  | set (set : CharSet)
  | look (look : Look)

/-- A number of exactly so many hexadecimal digits, and what follows it. -/
def hexNumber? (flags : Flags) : (count value : Nat) → List Char → Option (Nat × List Char)
  | 0, value, text => some (value, text)
  | count + 1, value, text =>
    match flags.skip text with
    | [] => none
    | c :: rest => do hexNumber? flags count (value * 16 + (← Text.hexValue c)) rest

/-- A character by its number. Where only ASCII counts, two digits would give an octet, which must
be a character of its own. -/
def numbered? (flags : Flags) (digits : Nat) (text : List Char) : Option (Atom × List Char) := do
  let (value, rest) ← hexNumber? flags digits 0 text
  if digits = 2 && !flags.has .allScripts && 0x7F < value then none
  else if value.isValidChar then some (.char (Char.ofNat value), flags.skip rest)
  else none

def asciiSet? (flags : Flags) (set : CharSet) : Option Atom :=
  if flags.has .allScripts then none else some (.set set)

def letterAtom? (flags : Flags) : Char → Option Atom
  | 'a' => some (.char '\x07')
  | 'f' => some (.char '\x0C')
  | 't' => some (.char '\t')
  | 'n' => some (.char '\n')
  | 'r' => some (.char '\r')
  | 'v' => some (.char '\x0B')
  | 'A' => some (.look .start)
  | 'z' => some (.look .stop)
  | 'b' => some (.look (flags.wordLook .edge))
  | 'B' => some (.look (flags.wordLook .noEdge))
  | '<' => some (.look (flags.wordLook .wordStart))
  | '>' => some (.look (flags.wordLook .wordStop))
  | 'd' => asciiSet? flags .digits
  | 's' => asciiSet? flags .blanks
  | 'w' => asciiSet? flags .wordCharacters
  | _ => none

/-- Characters of ASCII that stand for themselves behind a backslash. -/
def standsForItself (c : Char) : Bool :=
  c.toNat < 0x80 && !c.isAlphanum && c ≠ '<' && c ≠ '>'

def escape? (flags : Flags) : List Char → Option (Atom × List Char)
  | [] => none
  | 'x' :: rest => numbered? flags 2 rest
  | 'u' :: rest => numbered? flags 4 rest
  | 'U' :: rest => numbered? flags 8 rest
  | c :: rest =>
    if standsForItself c then some (.char c, rest)
    else (letterAtom? flags c).map (·, rest)

end DevCluster.Pattern
