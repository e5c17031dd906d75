import GoBindings.Decimal.Binary64

/-!
# Shortest decimals

A binary64 number is written with the fewest decimal digits that read back as the same number. On
the grid of decimals with a given number of digits only the two neighbours of the number can do so;
of two that do, the nearer is taken, and of two at the same distance the one whose last digit is
even.
-/

namespace GoBindings

/-- A decimal as it stands in a text: a sign, and digits scaled by a power of ten, or one of the
values beyond all numbers. -/
inductive Decimal where
  /-- The number `digits * 10 ^ exponent`, negated on demand. -/
  | finite (negative : Bool) (digits : Nat) (exponent : Int)
  /-- An infinity. -/
  | infinite (negative : Bool)
  /-- No number at all. -/
  | undefined
  deriving DecidableEq, Repr

namespace Decimal

/-- Numerator and denominator of `digits * 10 ^ exponent`. -/
def fraction (digits : Nat) (exponent : Int) : Nat × Nat :=
  if exponent < 0 then (digits, powTen exponent.natAbs)
  else (digits * powTen exponent.toNat, 1)

/-- The binary64 number nearest to `digits * 10 ^ exponent`. -/
def toBinary64? (digits : Nat) (exponent : Int) : Option Binary64 :=
  let (num, den) := fraction digits exponent
  Binary64.nearest num den

/-- Numerator and denominator of the binary64 number that a decimal stands for, if it is finite. -/
def quotient? : Decimal → Option (Int × Nat)
  | .finite negative digits exponent =>
    (toBinary64? digits exponent).map fun b =>
      let (num, den) := b.toFraction
      (if negative then -num else num, den)
  | _ => none

/-- The whole number that a decimal stands for, if it is one. -/
def whole? (decimal : Decimal) : Option Int :=
  match decimal.quotient? with
  | some (num, den) => if num % den = 0 then some (num / den) else none
  | none => none

/-- The number of decimal digits of a natural. -/
def digitCount (n : Nat) : Nat := (Nat.toDigits 10 n).length

/-- The exponent of the leading decimal digit of a positive quotient. -/
def leadingExponent (num den : Nat) : Int :=
  if den ≤ num then (digitCount (num / den) : Int) - 1
  else
    let guess := (digitCount den : Int) - digitCount num
    if den ≤ num * powTen guess.toNat then -guess else -guess - 1

/-- The neighbours of a quotient on the grid of multiples of `10 ^ exponent`: the digits below it,
and whether the one above goes before it, being nearer, or as near and even. -/
def gridBelow (num den : Nat) (exponent : Int) : Nat × Bool :=
  let (n, d) :=
    if exponent < 0 then (num * powTen exponent.natAbs, den)
    else (num, den * powTen exponent.toNat)
  let below := n / d
  let remainder := 2 * (n % d)
  (below, d < remainder || (d == remainder && below % 2 == 1))

/-- The shortest digits of a number, trying one digit more at each step. -/
def shortestFrom (b : Binary64) (num den : Nat) (exponent : Int) : Nat → Nat × Int
  | 0 => ((gridBelow num den exponent).1, exponent)
  | more + 1 =>
    let (below, aboveFirst) := gridBelow num den exponent
    let fits := fun digits => toBinary64? digits exponent = some b
    if fits below && !(aboveFirst && fits (below + 1)) then (below, exponent)
    else if fits (below + 1) then (below + 1, exponent)
    else shortestFrom b num den (exponent - 1) more

/-- Digits without trailing zeros, which move into the exponent. -/
def dropZeros (digits : Nat) (exponent : Int) : Nat → Nat × Int
  | 0 => (digits, exponent)
  | more + 1 =>
    if digits ≠ 0 ∧ digits % 10 = 0 then dropZeros (digits / 10) (exponent + 1) more
    else (digits, exponent)

/-- The shortest decimal that reads back as the same binary64 number as `digits * 10 ^ exponent`.
Far beyond the range of the exponents no exact arithmetic is needed. -/
def ofScientific (negative : Bool) (digits : Nat) (exponent : Int) : Decimal :=
  if digits = 0 then .finite negative 0 0
  else
    let magnitude := (digitCount digits : Int) + exponent
    if magnitude < -330 then .finite negative 0 0
    else if 310 < magnitude then .infinite negative
    else
      match toBinary64? digits exponent with
      | none => .infinite negative
      | some b =>
        if b.significand = 0 then .finite negative 0 0
        else
          let (num, den) := b.toFraction
          let (shortest, e) := shortestFrom b num den (leadingExponent num den) 17
          let (shortest, e) := dropZeros shortest e 20
          .finite negative shortest e

/-- How decimals are written: which exponents are positional, and the texts of the values that are
not finite. -/
structure Style where
  /-- The least exponent of the leading digit that is written positionally. -/
  minPositional : Int
  /-- The greatest exponent of the leading digit that is written positionally. -/
  maxPositional : Int
  /-- The text of infinity. -/
  infinity : String
  /-- The text of the undefined value. -/
  undefined : String

/-- The exponent with a sign and at least two digits. -/
def exponentText (exponent : Int) : String :=
  let digits := toString exponent.natAbs
  (if exponent < 0 then "-" else "+") ++ (if digits.length < 2 then "0" ++ digits else digits)

/-- Digits with a point after the first `whole` of them, and at least one digit on each side. -/
def positionalText (digits : List Char) (whole : Int) : String :=
  if whole ≤ 0 then "0." ++ String.ofList (List.replicate whole.natAbs '0' ++ digits)
  else
    let padded := digits ++ List.replicate (whole.toNat - digits.length) '0'
    let rest := padded.drop whole.toNat
    String.ofList (padded.take whole.toNat) ++ "." ++
      (if rest.isEmpty then "0" else String.ofList rest)

/-- The text of a decimal in a style. -/
def write (style : Style) : Decimal → String
  | .undefined => style.undefined
  | .infinite negative => (if negative then "-" else "") ++ style.infinity
  | .finite negative digits exponent =>
    let ds := Nat.toDigits 10 digits
    let leading := if digits = 0 then 0 else exponent + ds.length - 1
    (if negative then "-" else "") ++
      if style.minPositional ≤ leading && leading ≤ style.maxPositional then
        positionalText ds (leading + 1)
      else
        String.ofList (ds.take 1) ++
          (if ds.length ≤ 1 then "" else "." ++ String.ofList (ds.drop 1)) ++
          "e" ++ exponentText leading

end Decimal

end GoBindings
