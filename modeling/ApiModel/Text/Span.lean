/-!
# Spans of code points

A `Span` is an arithmetic progression of code points: most letters of a script lie side by side, and
most alphabets that have case alternate capitals and small letters, which are progressions with
steps one and two.  `Span.mem` decides membership and `Span.table` looks a code point up in a list
of spans.
-/

namespace ApiModel.Text

/-- The code points `first`, `first + stride`, … up to `last`. -/
structure Span where
  /-- The least code point. -/
  first : Nat
  /-- No code point lies above this. -/
  last : Nat
  /-- The distance between neighbours. -/
  stride : Nat

/-- Whether a code point belongs to a span. -/
def Span.mem (s : Span) (n : Nat) : Bool :=
  s.first ≤ n && n ≤ s.last && (n - s.first) % s.stride == 0

/-- Whether a code point belongs to some span of a table. -/
def Span.table (spans : List Span) (n : Nat) : Bool :=
  spans.any (·.mem n)

end ApiModel.Text
