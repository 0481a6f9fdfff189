/-!
# Values that may be references

Where an OpenAPI document wants a schema, a parameter, a request body or a response, it may give a
pointer to one among the components instead.
-/

namespace ApiModel

/-- A value, or a pointer to one. -/
inductive OrRef (α : Type) where
  /-- The pointer of a `$ref`. -/
  | ref (pointer : String)
  /-- The value itself. -/
  | inline (value : α)
  deriving DecidableEq, Inhabited

namespace OrRef

variable {α : Type}

/-- The pointer, if this is one. -/
def pointer? : OrRef α → Option String
  | ref p => some p
  | inline _ => none

/-- The value, if it is given here. -/
def value? : OrRef α → Option α
  | ref _ => none
  | inline v => some v

end OrRef

end ApiModel
