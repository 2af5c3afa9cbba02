/-!
# Binary floating point numbers

A 64-bit floating point number is its bit pattern. Its text has the fewest digits that read back as
the same number, the nearest such digits, and never an exponent.
-/

namespace StreamQuery

structure Binary64 where
  bits : UInt64
deriving DecidableEq, Inhabited

namespace Binary64

/-- The bit above the fraction, which is understood in all but the smallest numbers. -/
def hiddenBit : Nat := 0x10000000000000

def isNegative (x : Binary64) : Bool :=
  0x8000000000000000 ≤ x.bits.toNat

def exponentField (x : Binary64) : Nat :=
  x.bits.toNat / hiddenBit % 2048

def fraction (x : Binary64) : Nat :=
  x.bits.toNat % hiddenBit

def isNaN (x : Binary64) : Bool :=
  x.exponentField = 2047 && x.fraction ≠ 0

def isInfinite (x : Binary64) : Bool :=
  x.exponentField = 2047 && x.fraction = 0

def isZero (x : Binary64) : Bool :=
  x.exponentField = 0 && x.fraction = 0

/-- Numeric equality: the two zeros are equal, and what is not a number differs from everything. -/
def same (x y : Binary64) : Bool :=
  !x.isNaN && !y.isNaN && (x.bits = y.bits || (x.isZero && y.isZero))

/-- A finite number has magnitude `significand * 2 ^ power`. -/
def significand (x : Binary64) : Nat :=
  if x.exponentField = 0 then x.fraction else x.fraction + hiddenBit

def power (x : Binary64) : Int :=
  if x.exponentField = 0 then -1074 else (x.exponentField : Int) - 1075

/-- The decimal number `digits * 10 ^ exponent`. -/
structure Digits where
  digits : Nat
  exponent : Int

/-- The reals that round to one number, in quarters of its last binary place: the open interval
from `low` to `high`, or the closed one if `closed`. -/
structure Rounding where
  low : Nat
  center : Nat
  high : Nat
  power : Int
  closed : Bool

def rounding (x : Binary64) : Rounding :=
  let gap := if x.fraction = 0 && 1 < x.exponentField then 1 else 2
  { low := 4 * x.significand - gap
    center := 4 * x.significand
    high := 4 * x.significand + 2
    power := x.power - 2
    closed := x.significand % 2 = 0 }

def Rounding.numerator (r : Rounding) (quarters : Nat) (exponent : Int) : Nat :=
  quarters * Nat.pow 2 r.power.toNat * Nat.pow 10 (-exponent).toNat

def Rounding.denominator (r : Rounding) (exponent : Int) : Nat :=
  Nat.pow 2 (-r.power).toNat * Nat.pow 10 exponent.toNat

/-- Whether `digits * 10 ^ exponent` lies in the interval. -/
def Rounding.contains (r : Rounding) (point : Digits) : Bool :=
  let low := r.numerator r.low point.exponent
  let high := r.numerator r.high point.exponent
  let value := point.digits * r.denominator point.exponent
  if r.closed then low ≤ value && value ≤ high else low < value && value < high

/-- The point of the interval on the grid of multiples of `10 ^ exponent` that is nearest to the
centre, the upper one if two are equally near. -/
def Rounding.nearest? (r : Rounding) (exponent : Int) : Option Digits :=
  let center := r.numerator r.center exponent
  let unit := r.denominator exponent
  let below : Digits := ⟨center / unit, exponent⟩
  let above : Digits := ⟨center / unit + 1, exponent⟩
  let candidates := if unit ≤ 2 * (center % unit) then [above, below] else [below, above]
  candidates.find? r.contains

/-- The decimal exponent of the leading digit of the centre. -/
def Rounding.leading (r : Rounding) : Int :=
  let center := r.numerator r.center 0
  let unit := r.denominator 0
  let guess : Int := (Nat.toDigits 10 center).length - (Nat.toDigits 10 unit).length
  if r.denominator guess ≤ r.numerator r.center guess then guess else guess - 1

/-- Removes the zeros at the end of `digits`, at most `fuel` of them. -/
def Digits.normalize : Nat → Digits → Digits
  | 0, d => d
  | fuel + 1, d =>
    if d.digits ≠ 0 && d.digits % 10 = 0 then normalize fuel ⟨d.digits / 10, d.exponent + 1⟩ else d

/-- The nearest decimal with the fewest digits; seventeen always suffice. -/
def Rounding.shortest (r : Rounding) : Digits :=
  let found := (List.range 17).findSome? fun (count : Nat) => r.nearest? (r.leading - (count : Int))
  (found.getD ⟨0, 0⟩).normalize 17

/-- Positional notation. -/
def Digits.text (d : Digits) : String :=
  let digits := Nat.toDigits 10 d.digits
  if 0 ≤ d.exponent then
    String.ofList (digits ++ List.replicate d.exponent.toNat '0')
  else
    let places := (-d.exponent).toNat
    let padded := List.replicate (places + 1 - digits.length) '0' ++ digits
    let whole := padded.length - places
    String.ofList (padded.take whole ++ '.' :: padded.drop whole)

def magnitudeText (x : Binary64) : String :=
  if x.isInfinite then "inf" else if x.isZero then "0" else x.rounding.shortest.text

def text (x : Binary64) : String :=
  if x.isNaN then "NaN" else if x.isNegative then "-" ++ x.magnitudeText else x.magnitudeText

end Binary64

end StreamQuery
