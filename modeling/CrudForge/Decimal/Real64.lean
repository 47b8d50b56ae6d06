/-!
# Numbers with 53 significant bits

Reading a decimal as the nearest 64-bit floating-point number, in exact arithmetic.

## Main definitions

* `Real64` — a number `± mantissa * 2 ^ exponent`, an infinity, or no number.
* `Real64.ofDecimal` — the nearest such number to `digits * 10 ^ exponent`; of two, the one with the
  even mantissa.
* `Real64.parse?` — reads a decimal with a point and an exponent.
-/

namespace CrudForge

inductive Real64
  | finite (negative : Bool) (mantissa : Nat) (exponent : Int)
  | infinite (negative : Bool)
  | nan
  deriving DecidableEq

namespace Real64

/-- The integer nearest to `num / den`; of two, the even one. -/
def roundEven (num den : Nat) : Nat :=
  let low := num / den
  let rest := 2 * (num % den)
  if rest < den || (rest = den && low % 2 = 0) then low else low + 1

/-- `num / (den * 2 ^ shift)`, as a fraction. -/
def unscale (num den : Nat) (shift : Int) : Nat × Nat :=
  if 0 ≤ shift then (num, den * Nat.pow 2 shift.toNat) else (num * Nat.pow 2 (-shift).toNat, den)

/-- The nearest number to `num / den`. The exponent is the least that leaves 53 bits, and no less
than -1074. -/
def ofFraction (negative : Bool) (num den : Nat) : Real64 :=
  let guess : Int := max ((num.log2 : Int) - den.log2 - 53) (-1074)
  let (n, d) := unscale num den guess
  let exponent := if Nat.pow 2 53 ≤ n / d then guess + 1 else guess
  let (n, d) := unscale num den exponent
  let mantissa := roundEven n d
  let (mantissa, exponent) :=
    if mantissa = Nat.pow 2 53 then (Nat.pow 2 52, exponent + 1) else (mantissa, exponent)
  if 971 < exponent then .infinite negative else .finite negative mantissa exponent

/-- The nearest number to `digits * 10 ^ exponent`. Far outside the range of the exponents the
power of ten is not computed. -/
def ofDecimal (negative : Bool) (digits : Nat) (exponent : Int) : Real64 :=
  let size := (Nat.toDigits 10 digits).length + exponent
  if digits = 0 || size < -400 then .finite negative 0 0
  else if 400 < size then .infinite negative
  else if 0 ≤ exponent then ofFraction negative (digits * Nat.pow 10 exponent.toNat) 1
  else ofFraction negative digits (Nat.pow 10 (-exponent).toNat)

def ofDigits (cs : List Char) : Nat :=
  cs.foldl (fun n c => 10 * n + (c.toNat - '0'.toNat)) 0

def takeSign : List Char → Bool × List Char
  | '-' :: cs => (true, cs)
  | '+' :: cs => (false, cs)
  | cs => (false, cs)

/-- The exponent that follows the digits: none at the end of the text. -/
def parseExponent? : List Char → Option Int
  | [] => some 0
  | c :: cs =>
    if c = 'e' || c = 'E' then
      let (negative, digits) := takeSign cs
      if digits.isEmpty || !digits.all Char.isDigit then none
      else some (if negative then -(ofDigits digits : Int) else ofDigits digits)
    else
      none

/-- Reads `[sign] digits [. digits] [e [sign] digits]`, where the digits may lack on one side of the
point, or `inf`, `infinity` or `nan` in any case. -/
def parse? (cs : List Char) : Option Real64 :=
  let (negative, cs) := takeSign cs
  let whole := cs.takeWhile Char.isDigit
  let behind := cs.dropWhile Char.isDigit
  let (part, behind) :=
    match behind with
    | '.' :: rest => (rest.takeWhile Char.isDigit, rest.dropWhile Char.isDigit)
    | rest => ([], rest)
  if whole.isEmpty && part.isEmpty then
    let word := String.ofList (cs.map Char.toLower)
    if word = "inf" || word = "infinity" then some (.infinite negative)
    else if word = "nan" then some .nan
    else none
  else
    (parseExponent? behind).map fun exponent =>
      ofDecimal negative (ofDigits (whole ++ part)) (exponent - part.length)

end Real64
end CrudForge
