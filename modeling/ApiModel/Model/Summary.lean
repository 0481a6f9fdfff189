import ApiModel.Document.Print
import ApiModel.Document.Read
import ApiModel.Model.Basic
import ApiModel.Yaml.Printer

/-!
# Summaries of models

A summary lists the endpoints, the named schemas, the groups and the diagnostics of a model.  It is
written in JSON or YAML, with the members of every object ordered by name.
-/

namespace ApiModel

/-- The names of the languages. -/
def Syntax.names : List (String × Syntax) :=
  [("yaml", .yaml), ("json", .json)]

/-- The name of a language, which is also the ending of its files. -/
def Syntax.name : Syntax → String
  | .json => "json"
  | .yaml => "yaml"

/-- A parameter with its location. -/
def EndpointParameter.label (p : EndpointParameter) : String :=
  p.wireName ++ " (" ++ p.location.name ++ ")"

/-- A status with its content type. -/
def ResponseCase.label (case : ResponseCase) : String :=
  match case.contentType with
  | some contentType => case.status ++ " " ++ contentType
  | none => case.status

namespace Summary

/-- An object with its members ordered by name. -/
def sorted (members : List (String × Json)) : Json :=
  .object (Json.sortMembers members)

/-- A list of texts. -/
def texts (ss : List String) : Json :=
  .array (ss.map .string)

/-- The summary of an endpoint. -/
def endpoint (m : Model) (e : Endpoint) : Json :=
  sorted
    [("name", .string e.canonicalName),
      ("method", .string e.method.upperName),
      ("path", .string e.path),
      ("tag", .string e.tag),
      ("parameters", texts (e.parameters.map (·.label))),
      ("security", texts (e.credentials.map (·.name))),
      ("input", sorted (e.inputs.map fun (contentType, name) => (contentType, .string name))),
      ("responses", texts (e.responses.map (·.label))),
      ("paginated", .bool (m.isPaged e.canonicalName))]

/-- What a named schema turned out to be. -/
def schemaKind (m : Model) (name : String) : String :=
  match Entries.find? name m.unions with
  | some u => if u.isDiscriminated then "discriminated_union" else "union"
  | none => if Entries.has m.compositions name then "composition" else "schema"

/-- The summary of a named schema. -/
def schema (m : Model) (name : String) : Json :=
  sorted
    [("name", .string name), ("kind", .string (schemaKind m name)),
      ("synthesized", .bool (m.registry.isSynthesized name))]

/-- The summary of a group. -/
def group (m : Model) (g : Group) : Json :=
  sorted
    [("name", .string g.name.text),
      ("operations", texts (g.members.filterMap fun i => m.endpoints[i]?.map (·.canonicalName)))]

/-- The summary of what a document is about. -/
def info (i : Info) : Json :=
  sorted [("title", .string i.title), ("version", .string i.version)]

end Summary

namespace Model

/-- The summary of a model. -/
def summary (m : Model) : Json :=
  Summary.sorted
    [("info", Summary.info m.document.info),
      ("operations", .array (m.endpoints.map (Summary.endpoint m))),
      ("schemas", .array ((Entries.keys m.registry.entries).map (Summary.schema m))),
      ("modules", .array (m.groups.map (Summary.group m))),
      ("diagnostics", Summary.texts (m.diagnostics.map (·.display)))]

/-- The text of the summary. -/
def summaryText (m : Model) : Syntax → String
  | .json => m.summary.pretty ++ "\n"
  | .yaml => m.summary.toYaml

/-- The name of the file for the summary. -/
def summaryFile (language : Syntax) : String :=
  "ir-summary." ++ language.name

end Model

end ApiModel
