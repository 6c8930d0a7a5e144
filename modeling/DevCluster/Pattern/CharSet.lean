/-!
Sets of characters, built from ranges by the operations of sets.
-/

namespace DevCluster

inductive CharSet
  | none
  | range (first last : Char)
  | union (left right : CharSet)
  | intersection (left right : CharSet)
  | difference (left right : CharSet)
  | complement (set : CharSet)
  | anyCase (set : CharSet)
deriving DecidableEq, Repr

namespace CharSet

def otherCase (c : Char) : Char := if c.isUpper then c.toLower else c.toUpper

def contains (c : Char) : CharSet → Bool
  | none => false
  | range first last => first ≤ c && c ≤ last
  | union left right => left.contains c || right.contains c
  | intersection left right => left.contains c && right.contains c
  | difference left right => left.contains c && !right.contains c
  | complement set => !set.contains c
  | anyCase set => set.contains c || set.contains (otherCase c)

/-- Whether it can be seen from the parts that no character is in the set. -/
def isVoid : CharSet → Bool
  | none => true
  | range _ _ | complement _ => false
  | union left right => left.isVoid && right.isVoid
  | intersection left right => left.isVoid || right.isVoid
  | difference left _ => left.isVoid
  | anyCase set => set.isVoid

def single (c : Char) : CharSet := range c c

def ofRanges (ranges : List (Char × Char)) : CharSet :=
  ranges.foldr (fun (first, last) set => union (range first last) set) none

def symmetricDifference (left right : CharSet) : CharSet :=
  union (difference left right) (difference right left)

def digits : CharSet := range '0' '9'
def lower : CharSet := range 'a' 'z'
def upper : CharSet := range 'A' 'Z'
def letters : CharSet := union upper lower
def wordCharacters : CharSet := union (union digits letters) (single '_')

def blanks : CharSet := union (range '\t' '\r') (single ' ')

def named? : String → Option CharSet
  | "alnum" => some (union digits letters)
  | "alpha" => some letters
  | "ascii" => some (range '\x00' '\x7F')
  | "blank" => some (union (single '\t') (single ' '))
  | "cntrl" => some (union (range '\x00' '\x1F') (single '\x7F'))
  | "digit" => some digits
  | "graph" => some (range '!' '~')
  | "lower" => some lower
  | "print" => some (range ' ' '~')
  | "punct" => some (ofRanges [('!', '/'), (':', '@'), ('[', '\x60'), ('\x7B', '~')])
  | "space" => some blanks
  | "upper" => some upper
  | "word" => some wordCharacters
  | "xdigit" => some (ofRanges [('0', '9'), ('A', 'F'), ('a', 'f')])
  | _ => none

end CharSet

end DevCluster
