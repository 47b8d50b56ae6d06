import CrudForge.Decimal.Real64
import CrudForge.Toml.Reader

/-!
# Numbers, dates and times in TOML

## Main definitions

* `Toml.integer?` — a decimal, hexadecimal, octal or binary integer of 64 bits.
* `Toml.real?` — a number with a point or an exponent, an infinity, or no number.
* `Toml.moment?` — a date, a time, or both. Its value is not kept, only its form is checked.
-/

namespace CrudForge.Toml

/-- The value of a digit in any base up to 16. -/
def digitValue (c : Char) : Nat :=
  if c.isDigit then c.toNat - '0'.toNat else c.toLower.toNat - 'a'.toNat + 10

def isDigitIn (base : Nat) (c : Char) : Bool :=
  (c.isDigit || ('a' ≤ c.toLower && c.toLower ≤ 'f')) && digitValue c < base

/-- One digit that may have an underscore before it. -/
def nextDigit? (base : Nat) : Reader Char
  | '_' :: c :: cs => if isDigitIn base c then some (c, cs) else none
  | c :: cs => if isDigitIn base c then some (c, cs) else none
  | [] => none

/-- Digits with single underscores between them. -/
def digits? (base : Nat) : Reader (List Char)
  | c :: cs =>
    if isDigitIn base c then
      let (others, rest) := Reader.many (nextDigit? base) cs
      some (c :: others, rest)
    else
      none
  | [] => none

def valueIn (base : Nat) (digits : List Char) : Nat :=
  digits.foldl (fun n c => base * n + digitValue c) 0

/-- Decimal digits; a zero at the start is the only one. -/
def wholeDigits? : Reader (List Char)
  | '0' :: cs => some (['0'], cs)
  | cs => digits? 10 cs

/-- The integers of 64 bits. -/
def fits (n : Int) : Bool :=
  -(Nat.pow 2 63 : Nat) ≤ n && n < (Nat.pow 2 63 : Nat)

/-- An integer behind the two characters that tell its base. -/
def basedInteger? (base : Nat) : Reader Int := fun cs => do
  let (digits, cs) ← digits? base cs
  let n : Int := valueIn base digits
  if fits n then some (n, cs) else none

def integer? : Reader Int
  | '0' :: 'x' :: cs => basedInteger? 16 cs
  | '0' :: 'o' :: cs => basedInteger? 8 cs
  | '0' :: 'b' :: cs => basedInteger? 2 cs
  | cs => do
    let (negative, cs) := Real64.takeSign cs
    let (digits, cs) ← wholeDigits? cs
    let n : Int := if negative then -valueIn 10 digits else valueIn 10 digits
    if fits n then some (n, cs) else none

def fraction? : Reader (List Char)
  | '.' :: cs => digits? 10 cs
  | _ => none

def exponent? : Reader Int
  | c :: cs =>
    if c = 'e' || c = 'E' then do
      let (negative, cs) := Real64.takeSign cs
      let (digits, cs) ← digits? 10 cs
      some (if negative then -(valueIn 10 digits : Int) else valueIn 10 digits, cs)
    else
      none
  | [] => none

/-- An infinity or no number, behind the sign. -/
def specialReal? (negative : Bool) : Reader Real64
  | 'i' :: 'n' :: 'f' :: cs => some (.infinite negative, cs)
  | 'n' :: 'a' :: 'n' :: cs => some (.nan, cs)
  | _ => none

/-- A number with a point, an exponent, or both. One that is too great has to be negative. -/
def decimal? : Reader Real64 := fun cs => do
  let (negative, cs) := Real64.takeSign cs
  let (whole, cs) ← wholeDigits? cs
  let (part, exponent, rest) ←
    match exponent? cs, fraction? cs with
    | some (exponent, rest), _ => some ([], exponent, rest)
    | none, none => none
    | none, some (part, rest) =>
      match exponent? rest with
      | some (exponent, rest) => some (part, exponent, rest)
      | none => some (part, 0, rest)
  let x := Real64.ofDecimal negative (valueIn 10 (whole ++ part)) (exponent - part.length)
  if x = .infinite false then none else some (x, rest)

def real? : Reader Real64 :=
  Reader.orElse decimal? fun cs =>
    let (negative, cs) := Real64.takeSign cs
    specialReal? negative cs

/-- A number of exactly `size` decimal digits that lies between the bounds. -/
def fixed? (size low high : Nat) : Reader Nat := fun cs =>
  let digits := (cs.take size).takeWhile Char.isDigit
  let n := valueIn 10 digits
  if digits.length = size && low ≤ n && n ≤ high then some (n, cs.drop size) else none

def daysIn (year month : Nat) : Nat :=
  let isLeap := year % 4 = 0 && (year % 100 ≠ 0 || year % 400 = 0)
  if month = 2 then (if isLeap then 29 else 28)
  else if month = 4 || month = 6 || month = 9 || month = 11 then 30
  else 31

/-- A date that exists. -/
def date? : Reader Unit := fun cs => do
  let (year, cs) ← fixed? 4 0 9999 cs
  let (_, cs) ← Reader.exactly "-" cs
  let (month, cs) ← fixed? 2 1 12 cs
  let (_, cs) ← Reader.exactly "-" cs
  let (_, cs) ← fixed? 2 1 (daysIn year month) cs
  some ((), cs)

def secondPart? : Reader Unit
  | '.' :: cs => (Reader.run Char.isDigit cs).map fun (_, rest) => ((), rest)
  | _ => none

/-- A time of day; a minute may have a leap second. -/
def time? : Reader Unit := fun cs => do
  let (_, cs) ← fixed? 2 0 23 cs
  let (_, cs) ← Reader.exactly ":" cs
  let (_, cs) ← fixed? 2 0 59 cs
  let (_, cs) ← Reader.exactly ":" cs
  let (_, cs) ← fixed? 2 0 60 cs
  match secondPart? cs with
  | some result => some result
  | none => some ((), cs)

/-- The distance from universal time. -/
def offset? : Reader Unit
  | 'Z' :: cs => some ((), cs)
  | 'z' :: cs => some ((), cs)
  | c :: cs =>
    if c = '+' || c = '-' then do
      let (_, cs) ← fixed? 2 0 23 cs
      let (_, cs) ← Reader.exactly ":" cs
      let (_, cs) ← fixed? 2 0 59 cs
      some ((), cs)
    else
      none
  | [] => none

def timeBehind? : Reader Unit
  | c :: cs =>
    if c = 'T' || c = 't' || c = ' ' then do
      let (_, cs) ← time? cs
      some ((), (offset? cs).elim cs (·.2))
    else
      none
  | [] => none

/-- A date, a date and a time, or a time. -/
def moment? : Reader Unit :=
  Reader.orElse
    (fun cs => do
      let (_, cs) ← date? cs
      some ((), (timeBehind? cs).elim cs (·.2)))
    time?

end CrudForge.Toml
