import ApiModel.Document.Schema

/-!
# Parameters

A declared parameter travels in one of four places of a request.  Those in the path are always
required.  Within an operation a parameter is identified by its name and location.
-/

namespace ApiModel

/-- Where a declared parameter travels. -/
inductive ParameterLocation where
  | query
  | header
  | path
  | cookie
  deriving DecidableEq, Repr, Inhabited

namespace ParameterLocation

/-- The name of a location. -/
def name : ParameterLocation → String
  | query => "query"
  | header => "header"
  | path => "path"
  | cookie => "cookie"

/-- The locations with their names. -/
def names : List (String × ParameterLocation) :=
  [query, header, path, cookie].map fun l => (l.name, l)

/-- The location as that of an input field. -/
def toField : ParameterLocation → FieldLocation
  | query => .query
  | header => .header
  | path => .path
  | cookie => .cookie

end ParameterLocation

/-- A parameter. -/
structure Parameter where
  /-- Its name on the wire. -/
  name : String
  /-- Where it travels. -/
  location : ParameterLocation
  /-- An explanation. -/
  description : Option String := none
  /-- Whether the document declares it as required. -/
  required : Bool := false
  /-- Whether it should no longer be used. -/
  deprecated : Option Bool := none
  /-- What its value looks like. -/
  schema : Option (OrRef Schema) := none
  /-- How its value is written. -/
  style : Option String := none
  /-- Whether the parts of its value are written apart. -/
  explode : Option Bool := none
  deriving DecidableEq, Inhabited

namespace Parameter

/-- What identifies a parameter within an operation. -/
def key (p : Parameter) : String × ParameterLocation :=
  (p.name, p.location)

/-- Whether a request must carry the parameter. -/
def isRequired (p : Parameter) : Bool :=
  p.required || p.location == .path

end Parameter

end ApiModel
