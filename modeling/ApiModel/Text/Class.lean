import ApiModel.Text.ClassTable

/-!
# Character classes

Which characters are letters or numbers, which have upper or lower case, and which are blank.  Below
U+0080 the classes are given by ASCII ranges, and beyond it by tables.
-/

namespace ApiModel.Text

/-- Letters, marks that act as letters, and numbers of every script. -/
def isAlphanumeric (c : Char) : Bool :=
  if c.toNat < 0x80 then c.isAlphanum else Span.table ClassTable.alphanumeric c.toNat

/-- Upper case letters of every script. -/
def isUpper (c : Char) : Bool :=
  if c.toNat < 0x80 then c.isUpper else Span.table ClassTable.uppercase c.toNat

/-- Lower case letters of every script. -/
def isLower (c : Char) : Bool :=
  if c.toNat < 0x80 then c.isLower else Span.table ClassTable.lowercase c.toNat

/-- White space: the ASCII blanks with vertical tab and form feed, next line, and the spaces and
separators of the general scripts. -/
def isBlank (c : Char) : Bool :=
  let n := c.toNat
  (0x09 ≤ n && n ≤ 0x0D) || n == 0x20 || n == 0x85 || n == 0xA0 || n == 0x1680 ||
    (0x2000 ≤ n && n ≤ 0x200A) || n == 0x2028 || n == 0x2029 || n == 0x202F || n == 0x205F ||
    n == 0x3000

/-- A text without the blanks at either end. -/
def trim (s : List Char) : List Char :=
  ((s.dropWhile isBlank).reverse.dropWhile isBlank).reverse

end ApiModel.Text
