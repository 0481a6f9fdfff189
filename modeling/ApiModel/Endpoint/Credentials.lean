import ApiModel.Endpoint.Parameters

/-!
# Credentials of endpoints

Security requirements become parameters.  Of a requirement only the first scheme counts.  Two
credentials take the same slot of a request when their locations and names agree; header names agree
without regard to case.  Within one level the first credential keeps its slot, and those of an
operation replace those of the document.
-/

namespace ApiModel

namespace Credential

/-- The header that carries credentials of all but API keys. -/
def authorizationHeader : String := "authorization"

/-- The credential in the authorization header. -/
def inAuthorization (name : String) (s : SecurityScheme) (httpScheme : Option String) :
    Credential where
  name := authorizationHeader
  location := .header
  scheme := name
  type := s.type
  httpScheme

/-- A name that is not blank. -/
def usable? (name : Option String) : Option String :=
  name.filter fun n => !(Text.trim n.toList).isEmpty

/-- The credential that a scheme asks for; mutual TLS asks for none. -/
def ofScheme (name : String) (s : SecurityScheme) : Except BuildError (Option Credential) :=
  match s.type with
  | .http => .ok (some (inAuthorization name s (s.scheme.map (·.map Char.toLower))))
  | .oauth2 | .openIdConnect => .ok (some (inAuthorization name s (some "bearer")))
  | .apiKey =>
    match s.location, usable? s.name with
    | none, _ => .error (.missingField name "in")
    | some _, none => .error (.missingField name "name")
    | some location, some key =>
      .ok (some { name := key, location, scheme := name, type := s.type })
  | .mutualTls => .ok none

/-- Whether two credentials take the same slot of a request. -/
def sameSlot (c d : Credential) : Bool :=
  c.location == d.location &&
    match c.location with
    | .header => c.name.map Char.toLower == d.name.map Char.toLower
    | .query | .cookie => c.name == d.name

/-- Adds a credential unless its slot is taken. -/
def keepFirst (cs : List Credential) (c : Credential) : List Credential :=
  if cs.any (·.sameSlot c) then cs else cs ++ [c]

/-- What is noted about a scheme without a credential. -/
def mutualTlsNote (operation scheme : String) : Diagnostic where
  kind := .unsupportedSecurityScheme
  operation := some operation
  message := "security scheme \x60" ++ scheme ++ "\x60 is mutualTLS and yields no parameter"

/-- What the scheme with a name asks for. -/
def ofName (r : Resolver) (name : String) : Except BuildError (Option Credential) := do
  let s ← liftRef (r.securityScheme name)
  ofScheme name s

/-- Adds the credentials of requirements.  Besides comes what was noted up to the end or the first
error. -/
def addLevel (r : Resolver) (operation : String) (cs : List Credential) :
    List SecurityRequirement → List Diagnostic × Except BuildError (List Credential)
  | [] => ([], .ok cs)
  | [] :: rest => addLevel r operation cs rest
  | ((scheme, _) :: _) :: rest =>
    match ofName r scheme with
    | .error e => ([], .error e)
    | .ok (some c) => addLevel r operation (keepFirst cs c) rest
    | .ok none =>
      let (notes, result) := addLevel r operation cs rest
      (mutualTlsNote operation scheme :: notes, result)

/-- Credentials with others put over them, each in the place of the one in its slot. -/
def override (cs : List Credential) (others : List Credential) : List Credential :=
  others.foldl (fun cs c => putInPlace sameSlot c cs) cs

/-- The credentials of an operation from the requirements of the document and its own.  Besides
comes what was noted up to the end or the first error. -/
def compose (r : Resolver) (ofDocument : List SecurityRequirement)
    (ofOperation : Option (List SecurityRequirement)) (operation : String) :
    List Diagnostic × Except BuildError (List Credential) :=
  let (notes, shared) := addLevel r operation [] ofDocument
  match shared, ofOperation with
  | .error e, _ => (notes, .error e)
  | .ok cs, none => (notes, .ok cs)
  | .ok cs, some requirements =>
    let (more, own) := addLevel r operation [] requirements
    (notes ++ more, own.map (override cs))

end Credential

end ApiModel
