import ApiModel.Text.CaseTable

/-!
# Upper and lower case forms

The full case maps: a character may have a form of several characters, as `ß` has `SS`.  A character
without the wanted case maps to itself.
-/

namespace ApiModel.Text

namespace CaseTable

/-- The code points that a code point maps to. -/
def find (long : List (Nat × List Nat)) (shifts : List Shift) (n : Nat) : List Nat :=
  match long.find? (·.1 == n) with
  | some (_, form) => form
  | none =>
    match shifts.find? (·.span.mem n) with
    | some shift => [(n + shift.offset).toNat]
    | none => [n]

/-- The form of a character: that of an ASCII character is given by `ascii`, and the others are
looked up. -/
def form (ascii : Char → Char) (long : List (Nat × List Nat)) (shifts : List Shift) (c : Char) :
    List Char :=
  if c.toNat < 0x80 then [ascii c] else (find long shifts c.toNat).map Char.ofNat

end CaseTable

/-- The lower case form of a character. -/
def lowerForm (c : Char) : List Char :=
  CaseTable.form Char.toLower CaseTable.lowerLong CaseTable.lower c

/-- The upper case form of a character. -/
def upperForm (c : Char) : List Char :=
  CaseTable.form Char.toUpper CaseTable.upperLong CaseTable.upper c

end ApiModel.Text
