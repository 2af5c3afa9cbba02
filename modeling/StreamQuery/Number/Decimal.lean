/-!
# Decimal numbers

A decimal keeps the number of places it was written with: 12.5 and 12.50 are equal as numbers and
have different texts.
-/

namespace StreamQuery

/-- The number `mantissa / 10 ^ scale`, written with `scale` places. -/
structure Decimal where
  mantissa : Int
  scale : Nat
deriving DecidableEq, Inhabited

namespace Decimal

/-- Numeric equality. -/
def same (x y : Decimal) : Bool :=
  x.mantissa * Int.pow 10 y.scale = y.mantissa * Int.pow 10 x.scale

/-- The digits of `n` with a point before the last `places` of them. -/
def pointed (n places : Nat) : List Char :=
  let digits := Nat.toDigits 10 n
  let padded := List.replicate (places + 1 - digits.length) '0' ++ digits
  if places = 0 then padded
  else padded.take (padded.length - places) ++ '.' :: padded.drop (padded.length - places)

def text (x : Decimal) : String :=
  let digits := String.ofList (pointed x.mantissa.natAbs x.scale)
  if x.mantissa < 0 then "-" ++ digits else digits

end Decimal

end StreamQuery
