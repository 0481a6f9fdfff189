/-!
# Binary64 numbers

A `Magnitude` is a mantissa below `2 ^ 53` times a power of two from `2 ^ -1074` to `2 ^ 971`; the
mantissa is at least `2 ^ 52` unless the exponent is least, so that a magnitude has one form.
`Magnitude.ofRatio?` rounds a ratio of naturals to the nearest magnitude, a tie to the even
mantissa. Everything is computed on naturals, so the results are exact and can be reasoned about.
-/

namespace ApiModel.Number

/-- A number `mantissa * 2 ^ exponent`. -/
structure Magnitude where
  /-- The significant bits. -/
  mantissa : Nat
  /-- The power of two. -/
  exponent : Int
  deriving DecidableEq, Repr

namespace Magnitude

/-- The least exponent of two. -/
def minExponent : Int := -1074

/-- The greatest exponent of two. -/
def maxExponent : Int := 971

/-- Zero. -/
def zero : Magnitude := ⟨0, minExponent⟩

/-- The ratio `num / den` divided by `2 ^ e`. -/
def scaleDown (num den : Nat) (e : Int) : Nat × Nat :=
  if 0 ≤ e then (num, den * Nat.pow 2 e.toNat) else (num * Nat.pow 2 (-e).toNat, den)

/-- The exponent of the greatest power of two that is at most `num / den`, both being positive. -/
def leadingExponent (num den : Nat) : Int :=
  let k : Int := (num.log2 : Int) - den.log2
  let (n, d) := scaleDown num den k
  if d ≤ n then k else k - 1

/-- The integer nearest to `num / den`, the even one of two. -/
def roundHalfEven (num den : Nat) : Nat :=
  let q := num / den
  let r := num % den
  if 2 * r < den then q
  else if den < 2 * r then q + 1
  else if q % 2 = 0 then q else q + 1

/-- The magnitude nearest to `num / den`, or nothing when that is too large. -/
def ofRatio? (num den : Nat) : Option Magnitude :=
  if num = 0 then some zero
  else
    let e := max (leadingExponent num den - 52) minExponent
    let (n, d) := scaleDown num den e
    let q := roundHalfEven n d
    let m : Magnitude := if q = Nat.pow 2 53 then ⟨Nat.pow 2 52, e + 1⟩ else ⟨q, e⟩
    if maxExponent < m.exponent then none else some m

/-- A magnitude as a ratio. -/
def ratio (m : Magnitude) : Nat × Nat :=
  if 0 ≤ m.exponent then (m.mantissa * Nat.pow 2 m.exponent.toNat, 1)
  else (m.mantissa, Nat.pow 2 (-m.exponent).toNat)

/-- The rounded product. -/
def mul? (a b : Magnitude) : Option Magnitude :=
  ofRatio? (a.ratio.1 * b.ratio.1) (a.ratio.2 * b.ratio.2)

/-- The rounded quotient by a number other than zero. -/
def div? (a b : Magnitude) : Option Magnitude :=
  ofRatio? (a.ratio.1 * b.ratio.2) (a.ratio.2 * b.ratio.1)

/-- The ratio `coefficient * 10 ^ exponent`. -/
def decimalRatio (coefficient : Nat) (exponent : Int) : Nat × Nat :=
  if 0 ≤ exponent then (coefficient * Nat.pow 10 exponent.toNat, 1)
  else (coefficient, Nat.pow 10 (-exponent).toNat)

/-- The magnitude nearest to `coefficient * 10 ^ exponent`, or nothing when that is too large.  Far
beyond the range of magnitudes no power of ten is computed. -/
def ofDecimal? (coefficient : Nat) (exponent : Int) : Option Magnitude :=
  let top := exponent + (Nat.toDigits 10 coefficient).length
  if coefficient = 0 ∨ top < -330 then some zero
  else if 320 < top then none
  else
    let (num, den) := decimalRatio coefficient exponent
    ofRatio? num den

end Magnitude

/-- A binary64 number. -/
inductive Binary64 where
  /-- A signed magnitude; zero has two signs. -/
  | finite (negative : Bool) (magnitude : Magnitude)
  /-- A signed infinity. -/
  | infinite (negative : Bool)
  /-- The value that is no number. -/
  | notANumber
  deriving DecidableEq, Repr

namespace Binary64

/-- The number nearest to an integer. -/
def ofInt (i : Int) : Binary64 :=
  match Magnitude.ofRatio? i.natAbs 1 with
  | some m => .finite (i < 0) m
  | none => .infinite (i < 0)

/-- The number nearest to a signed decimal. -/
def ofDecimal (negative : Bool) (coefficient : Nat) (exponent : Int) : Binary64 :=
  match Magnitude.ofDecimal? coefficient exponent with
  | some m => .finite negative m
  | none => .infinite negative

/-- Whether a number is neither infinite nor missing. -/
def isFinite : Binary64 → Bool
  | finite .. => true
  | _ => false

end Binary64

end ApiModel.Number
