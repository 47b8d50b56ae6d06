import CrudForge.Decimal.Real64

/-!
# The shortest decimal of a number

The text of a 64-bit floating-point number: the fewest significant digits that read back as the
same number, and of those the nearest, written without an exponent.
-/

namespace CrudForge.Real64

/-- A positive number `value / unit` with the distances, in the same unit, down and up to the ends
of the interval of decimals that read back as it. -/
structure Neighbourhood where
  value : Nat
  unit : Nat
  below : Nat
  above : Nat
  closed : Bool

/-- The interval that belongs to `mantissa * 2 ^ exponent`. It reaches half way to each neighbour,
and the neighbour below a power of two is only half as far away. -/
def neighbourhood (mantissa : Nat) (exponent : Int) : Neighbourhood :=
  let (step, unit) :=
    if 0 ≤ exponent then (Nat.pow 2 exponent.toNat, 4)
    else (1, 4 * Nat.pow 2 (-exponent).toNat)
  { value := 4 * mantissa * step
    unit := unit
    below := if mantissa = Nat.pow 2 52 ∧ -1074 < exponent then step else 2 * step
    above := 2 * step
    closed := mantissa % 2 = 0 }

/-- The exponent of the greatest power of ten that is at most `num / den`. -/
def floorLog10 (num den : Nat) : Int :=
  let guess : Int := (Nat.toDigits 10 num).length - (Nat.toDigits 10 den).length
  let reaches :=
    if 0 ≤ guess then den * Nat.pow 10 guess.toNat ≤ num
    else den ≤ num * Nat.pow 10 (-guess).toNat
  if reaches then guess else guess - 1

/-- The multiple of `10 ^ place` nearest to the number, if it lies in the interval. -/
def nearestAt? (n : Neighbourhood) (place : Int) : Option Nat :=
  let up := Nat.pow 10 (-place).toNat
  let unit := n.unit * Nat.pow 10 place.toNat
  let value := n.value * up
  let low := value / unit
  let inside (d : Nat) : Bool :=
    let at_ := d * unit
    if n.closed then
      value ≤ at_ + n.below * up && at_ ≤ value + n.above * up
    else
      value < at_ + n.below * up && at_ < value + n.above * up
  let lowNearer := 2 * (value % unit) < unit || (2 * (value % unit) = unit && low % 2 = 0)
  if inside low && (lowNearer || !inside (low + 1)) then some low
  else if inside (low + 1) then some (low + 1)
  else none

/-- The digits and the place of the last one: the first of the `fuel` finer and finer places at
which a multiple lies in the interval. -/
def shortestFrom (n : Neighbourhood) (place : Int) : Nat → Nat × Int
  | 0 => (n.value / n.unit, 0)
  | fuel + 1 =>
    match nearestAt? n place with
    | some digits => (digits, place)
    | none => shortestFrom n (place - 1) fuel

/-- `digits * 10 ^ place` without an exponent. -/
def positional (digits : Nat) (place : Int) : String :=
  let text := Nat.toDigits 10 digits
  if 0 ≤ place then
    String.ofList (text ++ List.replicate place.toNat '0')
  else
    let places := (-place).toNat
    let padded := List.replicate (places + 1 - text.length) '0' ++ text
    let whole := padded.take (padded.length - places)
    let part := padded.drop (padded.length - places)
    let part := (part.reverse.dropWhile (· = '0')).reverse
    String.ofList (if part.isEmpty then whole else whole ++ '.' :: part)

/-- The shortest decimal; no point if there is nothing behind it. -/
def toText : Real64 → String
  | .nan => "NaN"
  | .infinite negative => if negative then "-inf" else "inf"
  | .finite negative mantissa exponent =>
    let text :=
      if mantissa = 0 then "0"
      else
        let n := neighbourhood mantissa exponent
        let (digits, place) := shortestFrom n (floorLog10 n.value n.unit) 18
        positional digits place
    if negative then "-" ++ text else text

end CrudForge.Real64
