import ApiModel.Endpoint.Paging
import ApiModel.Naming.Groups
import ApiModel.Schemas.Registry

/-!
# Models

What a generator of client code needs to know about a service: its endpoints, its named schemas, and
what was found out about them.
-/

namespace ApiModel

/-- A service as client code sees it. -/
structure Model where
  /-- The document with all named schemas among its components. -/
  document : Document
  /-- The endpoints in the order of the document. -/
  endpoints : List Endpoint
  /-- The named schemas. -/
  registry : Registry
  /-- The variants of the named schemas that are unions. -/
  unions : List (String × VariantSet)
  /-- The shapes of the named schemas that are compositions. -/
  compositions : List (String × Shape)
  /-- Whether and how each endpoint is paged. -/
  paging : List (String × PagingHint)
  /-- The endpoints by tag. -/
  groups : List Group
  /-- What was noted. -/
  diagnostics : List Diagnostic

namespace Model

/-- The endpoint with a name. -/
def endpoint? (m : Model) (name : String) : Option Endpoint :=
  m.endpoints.find? (·.canonicalName == name)

/-- Whether the endpoint with a name is paged. -/
def isPaged (m : Model) (name : String) : Bool :=
  (Entries.find? name m.paging).any (·.paged)

end Model

end ApiModel
