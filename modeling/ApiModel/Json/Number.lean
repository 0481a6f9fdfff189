import ApiModel.Number.Text

/-!
# Numbers of JSON texts

A number is a whole number of 64 bits or a binary64.  `Literal` is the written form: a sign, digits,
and possibly a fraction and an exponent.  Its value is computed from the leading digits that fit 64
bits, rounded once, and one exact-as-stored power of ten, rounded again; digits beyond those only
move the power.
-/

namespace ApiModel.Json

open ApiModel.Number

/-- A number value. -/
inductive Number where
  /-- A whole number between `-2 ^ 63` and `2 ^ 64 - 1`. -/
  | int (i : Int)
  /-- Any other number. -/
  | float (x : Binary64)
  deriving DecidableEq, Repr

/-- The text of a number; a float that is not finite has none and stands as `null`. -/
def Number.text : Number → String
  | .int i => toString i
  | .float x => x.text?.getD "null"

/-- A number as it is written. -/
structure Literal where
  /-- Whether a minus sign stands first. -/
  negative : Bool
  /-- The digits before the point. -/
  whole : List Nat
  /-- The digits after the point. -/
  fraction : Option (List Nat) := none
  /-- Whether the exponent is negative, and its digits. -/
  exponent : Option (Bool × List Nat) := none
  deriving Repr

namespace Literal

/-- The greatest value of 64 bits. -/
def maxWord : Nat := Nat.pow 2 64 - 1

/-- Appends digits to a significand as long as it fits 64 bits; gives back those that do not. -/
def accumulate : Nat → List Nat → Nat × List Nat
  | s, [] => (s, [])
  | s, d :: rest =>
    if s * 10 + d ≤ maxWord then accumulate (s * 10 + d) rest else (s, d :: rest)

/-- The value of digits. -/
def digitsValue (ds : List Nat) : Nat :=
  ds.foldl (fun n d => 10 * n + d) 0

/-- Multiplies by powers of ten of at most 308 digits until the exponent is used up. -/
def applyPower : Nat → Magnitude → Int → Option Magnitude
  | 0, m, _ => some m
  | fuel + 1, m, e =>
    if e.natAbs ≤ 308 then
      (Magnitude.ofRatio? (Nat.pow 10 e.natAbs) 1).bind fun p =>
        if 0 ≤ e then m.mul? p else m.div? p
    else if m.mantissa = 0 then some m
    else if 0 ≤ e then none
    else
      ((Magnitude.ofRatio? (Nat.pow 10 308) 1).bind m.div?).bind fun m' =>
        applyPower fuel m' (e + 308)

/-- The float `significand * 10 ^ power`, or nothing when it is too large. -/
def scaled (negative : Bool) (significand : Nat) (power : Int) : Option Number :=
  ((Magnitude.ofRatio? significand 1).bind (applyPower 8 · power)).map fun m =>
    .float (.finite negative m)

/-- The value of a literal, or nothing when it is too large. -/
def value? (l : Literal) : Option Number :=
  let (significand, dropped) := accumulate 0 l.whole
  match l.fraction, l.exponent with
  | none, none =>
    if !dropped.isEmpty then scaled l.negative significand dropped.length
    else if !l.negative then some (.int significand)
    else if 0 < significand ∧ significand ≤ Nat.pow 2 63 then some (.int (-significand))
    else scaled true significand 0
  | fraction, exponent =>
    let digits := fraction.getD []
    let (significand, left) := accumulate significand digits
    let power : Int := (dropped.length : Int) - ((digits.length : Int) - left.length)
    match exponent with
    | none => scaled l.negative significand power
    | some (down, ds) =>
      if Nat.pow 2 31 ≤ digitsValue ds then
        if significand ≠ 0 ∧ !down then none else some (.float (.finite l.negative .zero))
      else
        let e : Int := digitsValue ds
        scaled l.negative significand (if down then power - e else power + e)

end Literal

end ApiModel.Json
