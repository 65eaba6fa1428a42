/-!
# Nearest Binary64 Numbers

A finite number of the binary64 format is a **mantissa** below `2 ^ 53` times a power of
two of exponent at least `-1074`. `nearest?` finds the one closest to a decimal numeral,
in exact arithmetic on natural numbers; of two equally close ones it takes the even
mantissa. Numerals beyond the largest finite number have none.
-/

namespace ThemedPage.Decimal

/-- The **magnitude** of a finite binary64 number, `mantissa * 2 ^ exponent`. The mantissa
has its 53rd bit set unless the exponent is the least one. -/
structure Magnitude where
  /-- The binary digits. -/
  mantissa : Nat
  /-- The power of two they are multiplied by. -/
  exponent : Int
  deriving DecidableEq

namespace Magnitude

/-- The least exponent. -/
def leastExponent : Int := -1074

/-- The greatest exponent. -/
def greatestExponent : Int := 971

/-- The number zero. -/
def zero : Magnitude := ⟨0, leastExponent⟩

/-- `b ^ e` as a fraction, for a whole number `e` of either sign. -/
def power (b : Nat) (e : Int) : Nat × Nat :=
  if 0 ≤ e then (b.pow e.toNat, 1) else (1, b.pow (-e).toNat)

/-- The nearest whole number to `num / den`, the even one of two equally near. -/
def roundHalfEven (num den : Nat) : Nat :=
  let q := num / den
  let r := num % den
  if 2 * r < den then q
  else if 2 * r = den then q + q % 2
  else q + 1

/-- The magnitude nearest to `num / den`, for positive `num` and `den`. -/
def ofFraction? (num den : Nat) : Option Magnitude :=
  let guess : Int := num.log2 - den.log2 - 53
  let quotient (e : Int) : Nat × Nat :=
    let (n, d) := power 2 (-e)
    (num * n, den * d)
  let fits (e : Int) : Bool :=
    let (n, d) := quotient e
    n / d < Nat.pow 2 53
  let first := max guess leastExponent
  let exponent := if fits first then first else first + 1
  let (n, d) := quotient exponent
  let m := roundHalfEven n d
  let result : Magnitude :=
    if m = Nat.pow 2 53 then ⟨Nat.pow 2 52, exponent + 1⟩ else ⟨m, exponent⟩
  if result.exponent ≤ greatestExponent then some result else none

/-- The magnitude nearest to `digits * 10 ^ scale`. Scales that put the numeral far outside
the range of the format are answered from the number of digits alone. -/
def nearest? (digits : Nat) (scale : Int) : Option Magnitude :=
  let order : Int := (Nat.toDigits 10 digits).length + scale
  if digits = 0 then some zero
  else if order < -330 then some zero
  else if 310 < order then none
  else
    let (n, d) := power 10 scale
    ofFraction? (digits * n) d

example : nearest? 15 (-1) = some ⟨3 * 2 ^ 51, -52⟩ := by decide +kernel

end Magnitude

end ThemedPage.Decimal
