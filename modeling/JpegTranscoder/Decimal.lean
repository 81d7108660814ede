/-
**Decimals with one place.**

A binary fraction is written with one digit after the point. The exact value of the fraction is
rounded, a half goes to the even neighbour, and a minus sign is kept also before zero.
-/

namespace JpegTranscoder.Decimal

/-- The quotient of two numbers, the second positive, rounded to the nearest integer; a half goes to
the even neighbour. -/
def roundHalfEven (number divisor : Nat) : Nat :=
  let quotient := number / divisor
  let twice := 2 * (number % divisor)
  if twice < divisor then quotient
  else if divisor < twice then quotient + 1
  else quotient + quotient % 2

/-- The fraction `mantissa * 2 ^ exponent / 2 ^ 1074` in tenths, rounded. -/
def tenths (mantissa exponent : Nat) : Nat :=
  roundHalfEven (mantissa * Nat.pow 2 exponent * 10) (Nat.pow 2 1074)

/-- A number of tenths as text. -/
def tenthsText (negative : Bool) (tenths : Nat) : String :=
  (if negative then "-" else "") ++ s!"{tenths / 10}.{tenths % 10}"

/-- A finite double with one digit after the point. -/
def oneDecimal (value : Float) : String :=
  let bits := value.toBits.toNat
  let fraction := bits % Nat.pow 2 52
  let exponent := bits / Nat.pow 2 52 % Nat.pow 2 11
  let magnitude :=
    if exponent = 0 then tenths fraction 0 else tenths (Nat.pow 2 52 + fraction) (exponent - 1)
  tenthsText (Nat.pow 2 63 ≤ bits) magnitude

end JpegTranscoder.Decimal
