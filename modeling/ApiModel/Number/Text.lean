import ApiModel.Number.Shortest

/-!
# Text of binary64 numbers

A finite number is written with its shortest digits: in positional notation from `10 ^ -5` up to,
but not including, `10 ^ 16`, where a whole number keeps the fraction `.0`, and otherwise in
exponent notation with the sign of the exponent always given.
-/

namespace ApiModel.Number

/-- The digits of a decimal in positional or exponent notation. -/
def Decimal.text (d : Decimal) : String :=
  let digits := Nat.toDigits 10 d.coefficient
  let count : Int := digits.length
  let top := count + d.exponent - 1
  if d.coefficient = 0 then "0.0"
  else if -5 ≤ top ∧ top < 16 then
    if 0 ≤ d.exponent then
      String.ofList (digits ++ List.replicate d.exponent.toNat '0') ++ ".0"
    else if 0 ≤ top then
      let whole := (top + 1).toNat
      String.ofList (digits.take whole ++ '.' :: digits.drop whole)
    else
      "0." ++ String.ofList (List.replicate (-top - 1).toNat '0' ++ digits)
  else
    let fraction := if digits.length = 1 then [] else '.' :: digits.drop 1
    let sign := if top < 0 then "-" else "+"
    String.ofList (digits.take 1 ++ fraction) ++ "e" ++ sign ++ toString top.natAbs

/-- The text of a finite number. -/
def Binary64.text? : Binary64 → Option String
  | .finite negative m =>
    let digits := (Decimal.shortest m).text
    some (if negative then "-" ++ digits else digits)
  | _ => none

end ApiModel.Number
