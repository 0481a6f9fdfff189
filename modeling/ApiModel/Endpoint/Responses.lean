import ApiModel.Endpoint.Basic
import ApiModel.Resolver
import ApiModel.Text.Quoted

/-!
# Responses of endpoints

The responses of an endpoint are those that the document declares, or those that an analyzer finds
in the source of its handler.  Analyzers have names; a later one of a name replaces an earlier one.
-/

namespace ApiModel

namespace ResponseCase

/-- The cases of a response: one for each content type, or one without a body. -/
def ofResponse (status : String) (r : Response) : List ResponseCase :=
  let headers := Entries.keys r.headers
  let description := if r.description = "" then none else some r.description
  if r.content.isEmpty then [{ status, headers, description }]
  else
    r.content.map fun (contentType, media) =>
      { status, contentType := some contentType, headers, body := media.schema, description }

/-- The cases that a document declares. -/
def ofDocument (r : Resolver) :
    List (String × OrRef Response) → Except RefError (List ResponseCase)
  | [] => .ok []
  | (status, declared) :: rest => do
    let response ← r.response declared
    let cases ← ofDocument r rest
    return ofResponse status response ++ cases

/-- Checks the pointers in the bodies of cases. -/
def checkBodies (r : Resolver) : List ResponseCase → Except RefError Unit
  | [] => .ok ()
  | case :: rest => do
    match case.body with
    | some s => r.checkSchema s
    | none => pure ()
    checkBodies r rest

end ResponseCase

/-- What finds responses in the source of a handler. -/
abbrev Analyzer := String → List ResponseCase

/-- Analyzers by name. -/
abbrev Analyzers := List (String × Analyzer)

namespace Analyzers

/-- The analyzers with one more, which replaces one of the same name. -/
def register (name : String) (a : Analyzer) (analyzers : Analyzers) : Analyzers :=
  Entries.insert name a analyzers

/-- The analyzer with the wanted name, if one is wanted. -/
def select (analyzers : Analyzers) : Option String → Except BuildError (Option Analyzer)
  | none => .ok none
  | some name =>
    match Entries.find? name analyzers with
    | some a => .ok (some a)
    | none => .error (.unknownAnalyzer name)

/-- The names of analyzers, as a text. -/
def display (analyzers : Analyzers) : String :=
  Text.quotedList (Entries.keys analyzers)

end Analyzers

end ApiModel
