import ApiModel.Json.Basic
import ApiModel.Tree.Entries

/-!
# Security schemes

How a client proves who it is.  A requirement names schemes with the scopes that each must grant.
-/

namespace ApiModel

/-- A kind of security scheme. -/
inductive SchemeType where
  | apiKey
  | http
  | oauth2
  | openIdConnect
  | mutualTls
  deriving DecidableEq, Repr, Inhabited

namespace SchemeType

/-- The name of a kind. -/
def name : SchemeType → String
  | apiKey => "apiKey"
  | http => "http"
  | oauth2 => "oauth2"
  | openIdConnect => "openIdConnect"
  | mutualTls => "mutualTLS"

/-- The kinds with their names. -/
def names : List (String × SchemeType) :=
  [apiKey, http, oauth2, openIdConnect, mutualTls].map fun t => (t.name, t)

end SchemeType

/-- Where an API key travels. -/
inductive KeyLocation where
  | query
  | header
  | cookie
  deriving DecidableEq, Repr, Inhabited

namespace KeyLocation

/-- The name of a location. -/
def name : KeyLocation → String
  | query => "query"
  | header => "header"
  | cookie => "cookie"

/-- The locations with their names. -/
def names : List (String × KeyLocation) :=
  [query, header, cookie].map fun l => (l.name, l)

end KeyLocation

/-- A security scheme. -/
structure SecurityScheme where
  /-- Its kind. -/
  type : SchemeType
  /-- An explanation. -/
  description : Option String := none
  /-- The name of the API key. -/
  name : Option String := none
  /-- Where the API key travels. -/
  location : Option KeyLocation := none
  /-- The HTTP authorization scheme. -/
  scheme : Option String := none
  /-- What a bearer token looks like. -/
  bearerFormat : Option String := none
  /-- The OAuth flows, as they are. -/
  flows : Option Json := none
  /-- Where OpenID Connect is described. -/
  openIdConnectUrl : Option String := none
  deriving DecidableEq, Inhabited

/-- The scopes that are wanted, by the name of a scheme. -/
abbrev SecurityRequirement := List (String × List String)

end ApiModel
