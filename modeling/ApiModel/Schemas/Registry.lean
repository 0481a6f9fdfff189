import ApiModel.Document.Schema
import ApiModel.Model.Error

/-!
# Registry

The named schemas of a model: those that the document declares and those that are synthesized.  A
registry only grows at its end, and no name is given twice.
-/

namespace ApiModel

/-- Named schemas in the order in which they were added. -/
structure Registry where
  /-- The schemas by name. -/
  entries : List (String × OrRef Schema) := []
  /-- The names of the synthesized ones. -/
  synthesized : List String := []
  deriving DecidableEq, Inhabited

namespace Registry

/-- Whether a name is given. -/
def contains (r : Registry) (name : String) : Bool :=
  Entries.has r.entries name

/-- The schema with a name. -/
def find? (r : Registry) (name : String) : Option (OrRef Schema) :=
  Entries.find? name r.entries

/-- Whether the schema with a name is synthesized. -/
def isSynthesized (r : Registry) (name : String) : Bool :=
  r.synthesized.contains name

/-- Adds a schema of the document. -/
def declare (r : Registry) (name : String) (s : OrRef Schema) : Except BuildError Registry :=
  if r.contains name then .error (.nameTaken name)
  else .ok { r with entries := r.entries ++ [(name, s)] }

/-- Adds a synthesized schema. -/
def synthesize (r : Registry) (name : String) (s : OrRef Schema) : Except BuildError Registry :=
  (r.declare name s).map fun r => { r with synthesized := r.synthesized ++ [name] }

/-- Adds schemas of the document in their order. -/
def declareAll (r : Registry) : List (String × OrRef Schema) → Except BuildError Registry
  | [] => .ok r
  | (name, s) :: rest => do
    let r ← r.declare name s
    r.declareAll rest

end Registry

end ApiModel
