import ApiModel.Tree.Basic

/-!
# Scalars without quotes

The type that a bare scalar has when nothing else decides it, by the core rules of YAML 1.2: a word
for the missing value or a truth value, a whole number in base ten, sixteen, eight or two, a
decimal, and otherwise a text.  A number with a leading zero before another digit is a text.
-/

namespace ApiModel.Yaml.Scalar

open ApiModel.Number

/-- The words for the missing value. -/
def isNullWord (s : String) : Bool :=
  s ∈ ["null", "Null", "NULL", "~"]

/-- The truth value that a word stands for. -/
def bool? (s : String) : Option Bool :=
  if s ∈ ["true", "True", "TRUE"] then some true
  else if s ∈ ["false", "False", "FALSE"] then some false
  else none

/-- The value of a digit in a base. -/
def digit? (base : Nat) (c : Char) : Option Nat :=
  let n := c.toNat
  let v :=
    if 0x30 ≤ n ∧ n ≤ 0x39 then n - 0x30
    else if 0x41 ≤ n ∧ n ≤ 0x5A then n - 0x37
    else if 0x61 ≤ n ∧ n ≤ 0x7A then n - 0x57
    else base
  if v < base then some v else none

/-- The value of one digit or more in a base. -/
def digits? (base : Nat) : List Char → Option Nat
  | [] => none
  | cs => cs.foldlM (fun n c => (digit? base c).map (n * base + ·)) 0

/-- Whether a text is a number whose digits start with a needless zero. -/
def hasLeadingZero (s : List Char) : Bool :=
  let digits := match s with
    | '-' :: rest => rest
    | '+' :: rest => rest
    | _ => s
  match digits with
  | '0' :: c :: rest => (c :: rest).all Char.isDigit
  | _ => false

/-- The base that a marked number starts with, and its digits. -/
def marked? : List Char → Option (Nat × List Char)
  | '0' :: 'x' :: rest => some (16, rest)
  | '0' :: 'o' :: rest => some (8, rest)
  | '0' :: 'b' :: rest => some (2, rest)
  | _ => none

/-- The natural number that a text writes, possibly after a plus sign. -/
def natural? (s : List Char) : Option Nat :=
  let body := match s with
    | '+' :: rest => rest
    | _ => s
  match marked? body with
  | some (base, ds) => digits? base ds
  | none => if hasLeadingZero s then none else digits? 10 body

/-- The natural number that a text writes after a minus sign. -/
def negated? : List Char → Option Nat
  | '-' :: body =>
    match marked? body with
    | some (base, ds) => digits? base ds
    | none => if hasLeadingZero ('-' :: body) then none else digits? 10 body
  | _ => none

/-- The whole number that a text writes.  One of more than 64 bits has no value, and one of more
than 128 bits is no whole number. -/
def int? (s : List Char) : Option Tree :=
  match natural? s, negated? s with
  | some n, _ =>
    if n < Nat.pow 2 64 then some (.number (.int n))
    else if n < Nat.pow 2 128 then some .unreadable else none
  | none, some n =>
    if n ≤ Nat.pow 2 63 then some (.number (.int (-n)))
    else if n ≤ Nat.pow 2 127 then some .unreadable else none
  | none, none => none

/-- The value of decimal digits. -/
def decimalValue (cs : List Char) : Nat :=
  cs.foldl (fun n c => 10 * n + (c.toNat - 0x30)) 0

/-- The exponent after the digits of a decimal: nothing, or a mark, a sign and digits. -/
def exponent? : List Char → Option Int
  | [] => some 0
  | mark :: rest =>
    if mark ≠ 'e' ∧ mark ≠ 'E' then none
    else
      let (down, ds) := match rest with
        | '+' :: ds => (false, ds)
        | '-' :: ds => (true, ds)
        | _ => (false, rest)
      if ds.isEmpty ∨ !ds.all Char.isDigit then none
      else
        let e : Int := decimalValue ds
        some (if down then -e else e)

/-- The finite number that a text writes in decimal, with a digit before or after the point. -/
def decimal? (s : List Char) : Option Binary64 := do
  let (negative, body) := match s with
    | '+' :: rest => (false, rest)
    | '-' :: rest => (true, rest)
    | _ => (false, s)
  let whole := body.takeWhile Char.isDigit
  let (fraction, rest) := match body.dropWhile Char.isDigit with
    | '.' :: rest => (rest.takeWhile Char.isDigit, rest.dropWhile Char.isDigit)
    | rest => ([], rest)
  if whole.isEmpty ∧ fraction.isEmpty then none
  let e ← exponent? rest
  let x := Binary64.ofDecimal negative (decimalValue (whole ++ fraction)) (e - fraction.length)
  if x.isFinite then some x else none

/-- The number that a text writes in decimal or as a word for infinity or no number. -/
def float? (s : String) : Option Binary64 :=
  if s ∈ [".inf", ".Inf", ".INF", "+.inf", "+.Inf", "+.INF"] then some (.infinite false)
  else if s ∈ ["-.inf", "-.Inf", "-.INF"] then some (.infinite true)
  else if s ∈ [".nan", ".NaN", ".NAN"] then some .notANumber
  else decimal? s.toList

/-- The value of a bare scalar. -/
def value (s : String) : Tree :=
  if s = "" ∨ isNullWord s then .null
  else
    match bool? s with
    | some b => .bool b
    | none =>
      match int? s.toList with
      | some t => t
      | none =>
        if hasLeadingZero s.toList then .text s
        else
          match float? s with
          | some x => .number (.float x)
          | none => .text s

/-- The value of a scalar with a tag, which may be without quotes.  A kind that only the text knows
has no value. -/
def taggedValue? (tag : Tag) (bare : Bool) (s : String) : Option Tree :=
  match tag with
  | .bool => (bool? s).map Tree.bool
  | .int => int? s.toList
  | .float => (float? s).map fun x => .number (.float x)
  | .null => if isNullWord s then some .null else none
  | .named _ => none
  | .illegible => some (if bare then value s else .text s)
  | .other => some (.text s)

end ApiModel.Yaml.Scalar
