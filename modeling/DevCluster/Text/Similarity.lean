/-!
The Jaro similarity of two texts, between 0 and 1. Two equal characters match when they stand less
than half the longer text apart, and each character is matched at most once.
-/

namespace DevCluster.Text

/-- Marks the first unmarked position from `low` up to `high` of a text that holds `c`. -/
def claim (c : Char) (low high : Nat) : Nat → List (Char × Bool) → Option (List (Char × Bool))
  | _, [] => none
  | position, (d, marked) :: rest =>
    if high ≤ position then none
    else if low ≤ position && c == d && !marked then some ((d, true) :: rest)
    else (claim c low high (position + 1) rest).map ((d, marked) :: ·)

/-- The characters of the first text that found a match, and the second text with its marks. -/
def claimAll (reach : Nat) :
    Nat → List Char → List (Char × Bool) → List Char × List (Char × Bool)
  | _, [], marks => ([], marks)
  | position, c :: rest, marks =>
    match claim c (position - reach) (position + reach + 1) 0 marks with
    | none => claimAll reach (position + 1) rest marks
    | some marked =>
      let (found, final) := claimAll reach (position + 1) rest marked
      (c :: found, final)

def jaro (left right : List Char) : Float :=
  if left.isEmpty && right.isEmpty then 1
  else
    let reach := max left.length right.length / 2 - 1
    let (found, marks) := claimAll reach 0 left (right.map (·, false))
    let partners := (marks.filter (·.2)).map (·.1)
    let moved := ((found.zip partners).filter fun (c, d) => c != d).length / 2
    let matched := found.length
    if matched = 0 then 0
    else
      (matched.toFloat / left.length.toFloat + matched.toFloat / right.length.toFloat +
        (matched - moved).toFloat / matched.toFloat) / 3

/-- The candidates more similar to `text` than 0.7, the most similar last. -/
def similar (text : String) (candidates : List String) : List String :=
  let scored := candidates.map fun candidate => (jaro text.toList candidate.toList, candidate)
  ((scored.filter fun (score, _) => score > 0.7).mergeSort fun a b => a.1 ≤ b.1).map (·.2)

end DevCluster.Text
