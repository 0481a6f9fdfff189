import ApiModel.Document.Schema

/-!
# Kinds of schemas

What a schema describes in the first place.  Unions come before compositions, and those before
enumerations and types.
-/

namespace ApiModel

/-- The keyword of a union. -/
inductive UnionKind where
  | oneOf
  | anyOf
  deriving DecidableEq, Repr, Inhabited

/-- The spelling of a union keyword. -/
def UnionKind.keyword : UnionKind → String
  | oneOf => "oneOf"
  | anyOf => "anyOf"

/-- What a schema describes. -/
inductive Kind where
  /-- What a pointer leads to. -/
  | ref (pointer : String)
  /-- One of several branches. -/
  | union (kind : UnionKind) (branches : List (OrRef Schema))
  /-- All of several branches. -/
  | composition (branches : List (OrRef Schema))
  /-- One of several values. -/
  | enumeration (values : List Json)
  /-- An object. -/
  | object
  /-- A list. -/
  | array
  /-- A value of one type. -/
  | primitive (type : ValueType)
  /-- Any value. -/
  | any

namespace Kind

/-- The kind of a schema by its types alone. -/
def ofTypes : Option TypeSet → Kind
  | some (.single t) => primitive t
  | some (.several ts) =>
    match ts.find? (· ≠ .null) with
    | some t => primitive t
    | none => any
  | none => any

/-- The kind of a schema. -/
def ofSchema (s : Schema) : Kind :=
  if !s.oneOf.isEmpty then union .oneOf s.oneOf
  else if !s.anyOf.isEmpty then union .anyOf s.anyOf
  else if !s.allOf.isEmpty then composition s.allOf
  else if !s.enum.isEmpty then enumeration s.enum
  else if s.isArray then array
  else if s.isObjectLike then object
  else ofTypes s.type

/-- The kind of a schema or a reference to one. -/
def of : OrRef Schema → Kind
  | .ref p => ref p
  | .inline s => ofSchema s

end Kind

end ApiModel
