/-!
# Nearest binary64 values

A positive rational is rounded to the nearest number of the form `m * 2 ^ q` that binary64 can hold,
a tie going to the even `m`. All arithmetic is exact on natural numbers.
-/

namespace GoBindings.Decimal

/-- A power of two. -/
def powTwo (exponent : Nat) : Nat := Nat.pow 2 exponent

/-- A power of ten. -/
def powTen (exponent : Nat) : Nat := Nat.pow 10 exponent

/-- The quotient of two naturals rounded to the nearest, a tie to the even one. -/
def roundDiv (num den : Nat) : Nat :=
  let floor := num / den
  let twice := 2 * (num % den)
  if twice < den then floor
  else if den < twice then floor + 1
  else if floor % 2 = 0 then floor else floor + 1

/-- The positive binary64 number `significand * 2 ^ (power - 1074)`. -/
structure Binary64 where
  /-- The integer significand, below `2 ^ 53`. -/
  significand : Nat
  /-- The power of two above the least one, `-1074`. -/
  power : Nat
  deriving DecidableEq, Repr

namespace Binary64

/-- Numerator and denominator of the number. -/
def toFraction (b : Binary64) : Nat × Nat :=
  if b.power ≤ 1074 then (b.significand, powTwo (1074 - b.power))
  else (b.significand * powTwo (b.power - 1074), 1)

/-- The least power of two at which the quotient has at most 53 binary digits. -/
def powerFor (num den : Nat) : Nat :=
  let scaled := num * powTwo 1074 / den
  if scaled < powTwo 53 then 0 else scaled.log2 - 52

/-- The binary64 number nearest to a quotient; `none` where it is out of range. -/
def nearest (num den : Nat) : Option Binary64 :=
  let power := powerFor num den
  let significand := roundDiv (num * powTwo 1074) (den * powTwo power)
  let rounded : Binary64 :=
    if significand = powTwo 53 then ⟨powTwo 52, power + 1⟩ else ⟨significand, power⟩
  if rounded.power ≤ 2045 then some rounded else none

end Binary64

end GoBindings.Decimal
