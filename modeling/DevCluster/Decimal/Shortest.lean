import DevCluster.Decimal.Binary64

/-!
The decimal text of a binary number: the fewest digits that read back as the same number, the
nearest of those, written without an exponent.
-/

namespace DevCluster.Decimal

/-- A number with the ends of the interval that rounds to it, all over one denominator. -/
structure Neighbourhood where
  low : Nat
  value : Nat
  high : Nat
  denominator : Nat
  /-- Whether the two ends round to the number as well. -/
  closed : Bool

/-- The interval reaches halfway to the next numbers, which are denser below a power of two. -/
def neighbourhood (mantissa : Nat) (exponent : Int) : Neighbourhood :=
  let unit := Nat.pow 2 exponent.toNat
  let below := if mantissa = Nat.pow 2 52 && Binary64.leastExponent < exponent then 1 else 2
  { low := (4 * mantissa - below) * unit
    value := 4 * mantissa * unit
    high := (4 * mantissa + 2) * unit
    denominator := 4 * Nat.pow 2 (-exponent).toNat
    closed := mantissa % 2 = 0 }

def Neighbourhood.holds (n : Neighbourhood) (numerator denominator : Nat) : Bool :=
  let point := numerator * n.denominator
  let low := n.low * denominator
  let high := n.high * denominator
  if n.closed then low ≤ point && point ≤ high else low < point && point < high

/-- The multiple of a power of ten that rounds to the number and lies nearest to it, from halfway
the greater one. -/
def Neighbourhood.gridPoint (n : Neighbourhood) (power : Int) : Option Nat :=
  let up := Nat.pow 10 power.toNat
  let down := Nat.pow 10 (-power).toNat
  let below := n.value * down / (n.denominator * up)
  let remainder := n.value * down % (n.denominator * up)
  match n.holds (below * up) down, n.holds ((below + 1) * up) down with
  | true, true => some (if 2 * remainder < n.denominator * up then below else below + 1)
  | true, false => some below
  | false, true => some (below + 1)
  | false, false => none

/-- The point of the coarsest grid that has one, of `steps` grids down to that of 10 ^ -344. -/
def Neighbourhood.shortest (n : Neighbourhood) : Nat → Nat × Int
  | 0 => (0, 0)
  | steps + 1 =>
    let power : Int := steps - 344
    match n.gridPoint power with
    | some digits => (digits, power)
    | none => n.shortest steps

/-- `digits * 10 ^ power` in positional notation, with at least one digit on both sides of the
point. -/
def positional (digits : Nat) (power : Int) : List Char :=
  let plain := Nat.toDigits 10 digits
  if 0 ≤ power then plain ++ List.replicate power.toNat '0' ++ ['.', '0']
  else
    let places := (-power).toNat
    let padded := List.replicate (places + 1 - plain.length) '0' ++ plain
    let whole := padded.length - places
    padded.take whole ++ '.' :: padded.drop whole

end DevCluster.Decimal

namespace DevCluster.Binary64

def text : Binary64 → String
  | .nan => "NaN"
  | .infinite negative => if negative then "-inf" else "inf"
  | .finite negative mantissa exponent =>
    let (digits, power) :=
      if mantissa = 0 then (0, 0) else (Decimal.neighbourhood mantissa exponent).shortest 655
    String.ofList ((if negative then ['-'] else []) ++ Decimal.positional digits power)

end DevCluster.Binary64
