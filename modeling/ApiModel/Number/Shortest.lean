import ApiModel.Number.Binary64

/-!
# Shortest decimals

The decimal that stands for a magnitude in text: among the decimals that round to the magnitude, one
with the fewest digits, and of those the nearest.  The search goes through the grids of one digit,
two digits and so on and tests the two neighbours of the magnitude on each grid.
-/

namespace ApiModel.Number

/-- The number `coefficient * 10 ^ exponent`. -/
structure Decimal where
  /-- The digits. -/
  coefficient : Nat
  /-- The power of ten. -/
  exponent : Int
  deriving DecidableEq, Repr

namespace Decimal

/-- Moves the zeros at the end of the coefficient into the exponent; `fuel` bounds their number. -/
def stripZeros : Nat → Decimal → Decimal
  | 0, d => d
  | fuel + 1, d =>
    if d.coefficient ≠ 0 ∧ d.coefficient % 10 = 0 then
      stripZeros fuel ⟨d.coefficient / 10, d.exponent + 1⟩
    else d

/-- Whether a decimal rounds to a magnitude. -/
def readsAs (d : Decimal) (m : Magnitude) : Bool :=
  let (num, den) := Magnitude.decimalRatio d.coefficient d.exponent
  Magnitude.ofRatio? num den == some m

/-- The exponent of the greatest power of ten that is at most `num / den`, both being positive. -/
def leadingExponent (num den : Nat) : Int :=
  let k : Int := ((Nat.toDigits 10 num).length : Int) - (Nat.toDigits 10 den).length
  let (p, q) := Magnitude.decimalRatio 1 k
  if p * den ≤ num * q then k else k - 1

/-- The decimal for a magnitude among its two neighbours on the grid of `10 ^ exponent`, the nearer
one first and of two equally near the even one. -/
def onGrid? (m : Magnitude) (exponent : Int) : Option Decimal :=
  let (num, den) := m.ratio
  let (p, q) := Magnitude.decimalRatio 1 exponent
  let n := num * q
  let d := den * p
  let below := n / d
  let rest := n % d
  let first := if 2 * rest < d ∨ (2 * rest = d ∧ below % 2 = 0) then below else below + 1
  let second := if first = below then below + 1 else below
  [Decimal.mk first exponent, Decimal.mk second exponent].find? (·.readsAs m)

/-- A shortest decimal for a magnitude. -/
def shortest (m : Magnitude) : Decimal :=
  if m.mantissa = 0 then ⟨0, 0⟩
  else
    let (num, den) := m.ratio
    let top := leadingExponent num den
    match (List.range 17).findSome? (fun n : Nat => onGrid? m (top - n)) with
    | some d => stripZeros 20 d
    | none => ⟨num * Nat.pow 10 1074 / den, -1074⟩

end Decimal

end ApiModel.Number
