import ThemedPage.Decimal.Binary64

/-!
# Shortest Decimal Texts

The text of a binary64 number is the shortest decimal numeral that reads back as the same
number and, of those with equally few digits, the nearest to it. A numeral reads back as a
number if it lies in the interval of values that round to that number; the ends belong to
the interval if the mantissa is even. The text is always positional, and a whole number
keeps one zero after the point.
-/

namespace ThemedPage.Decimal

/-- A decimal numeral `digits * 10 ^ scale`. -/
structure Numeral where
  /-- The significant digits. -/
  digits : Nat
  /-- The power of ten they are multiplied by. -/
  scale : Int

namespace Magnitude

/-- The **rounding interval** of a number, its low end, the number itself and its high end,
counted in quarters of the last place. The low end is nearer where the next number below
lies in a finer binade. -/
def interval (x : Magnitude) : Nat × Nat × Nat :=
  let below := if x.mantissa = Nat.pow 2 52 && x.exponent != leastExponent then 1 else 2
  (4 * x.mantissa - below, 4 * x.mantissa, 4 * x.mantissa + 2)

/-- The number of digits before the point of `num / den`, counted from one for values from
`1` below `10`, and going on below one for smaller ones. -/
def decimalOrder (num den : Nat) : Int :=
  if den ≤ num then (Nat.toDigits 10 (num / den)).length
  else
    let j := (Nat.toDigits 10 den).length - (Nat.toDigits 10 num).length
    if den ≤ num * Nat.pow 10 j then 1 - (j : Int) else -(j : Int)

/-- The numeral on the grid of multiples of `10 ^ scale` that reads back as `x`, the nearer
of two and the greater of two equally near, if there is one. -/
def onGrid? (x : Magnitude) (scale : Int) : Option Numeral :=
  let (low, mid, high) := x.interval
  let (p, r) := power 2 (x.exponent - 2)
  let (gn, gd) := power 10 scale
  let unit := p * gd
  let grid := gn * r
  let isIn (c : Nat) : Bool :=
    if x.mantissa % 2 = 0 then low * unit ≤ c * grid && c * grid ≤ high * unit
    else low * unit < c * grid && c * grid < high * unit
  let c := mid * unit / grid
  let nearer := if 2 * (mid * unit - c * grid) < grid then [c, c + 1] else [c + 1, c]
  (nearer.find? isIn).map (⟨·, scale⟩)

/-- The shortest numeral that reads back as a positive number; seventeen digits always
do. -/
def shortest (x : Magnitude) : Numeral :=
  let (p, r) := power 2 x.exponent
  let order := decimalOrder (x.mantissa * p) r
  ((List.range 17).findSome? fun n : Nat => x.onGrid? (order - (n + 1 : Nat))).getD ⟨0, 0⟩

end Magnitude

/-- The positional text of a numeral, with at least one digit on either side of the
point. -/
def Numeral.text (n : Numeral) : List Char :=
  let all := (Nat.toDigits 10 n.digits).reverse
  let kept := if n.digits = 0 then ['0'] else all.dropWhile (· = '0')
  let scale := if n.digits = 0 then 0 else n.scale + (all.length - kept.length : Nat)
  if 0 ≤ scale then kept.reverse ++ List.replicate scale.toNat '0' ++ ['.', '0']
  else
    let places := (-scale).toNat
    let padded := kept ++ List.replicate (places + 1 - kept.length) '0'
    (padded.drop places).reverse ++ '.' :: (padded.take places).reverse

/-- The positional text of a finite binary64 number. -/
def Magnitude.text (x : Magnitude) : List Char :=
  if x.mantissa = 0 then (Numeral.mk 0 0).text else x.shortest.text

/-- A **binary64 number**. -/
inductive Binary64 where
  /-- A finite number and its sign. -/
  | finite (negative : Bool) (magnitude : Magnitude)
  /-- Infinity and its sign. -/
  | infinite (negative : Bool)
  /-- The value that is no number. -/
  | notANumber
  deriving DecidableEq

/-- The text of a binary64 number; a zero keeps its sign. -/
def Binary64.text : Binary64 → String
  | finite negative m => (if negative then "-" else "") ++ String.ofList m.text
  | infinite negative => if negative then "-inf" else "inf"
  | notANumber => "NaN"

example : (Magnitude.nearest? 15 (-1)).map Magnitude.text = some ['1', '.', '5'] := by
  decide +kernel

end ThemedPage.Decimal
