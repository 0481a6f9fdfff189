import ApiModel.Endpoint.Credentials
import ApiModel.Endpoint.Input
import ApiModel.Endpoint.Responses
import ApiModel.Model.Analysis
import ApiModel.Model.Basic
import ApiModel.Naming.Namer
import ApiModel.Schemas.Renaming

/-!
# Building models

How the model of a document is built: reserved schemas are renamed, the component schemas are
registered, the operations are settled one after the other, and the named schemas are analyzed.  In
the end every pointer of the changed document is checked.  Any error ends the building.
-/

namespace ApiModel

/-- What decides how a model is built. -/
structure Options where
  /-- Where the names of operations come from. -/
  strategy : NamingStrategy := .operationId
  /-- Other names for operations. -/
  aliases : List (String × String) := []
  /-- Further names that no schema may take. -/
  reserved : List String := []
  /-- By what paged endpoints are known. -/
  paging : PagingRules := {}
  /-- The name of the analyzer for the sources of handlers. -/
  analyzer : Option String := none
  /-- The sources of handlers by the names of endpoints. -/
  handlers : List (String × String) := []
  deriving Inhabited

namespace Build

/-- What stays the same while operations are settled. -/
structure Setting where
  /-- The components without their schemas. -/
  components : Components
  /-- The security requirements of operations that state none. -/
  security : List SecurityRequirement := []
  /-- The analyzer for the sources of handlers. -/
  analyzer : Option Analyzer := none
  /-- The sources of handlers by the names of endpoints. -/
  handlers : List (String × String) := []

/-- What changes while operations are settled. -/
structure State where
  /-- The schemas and what was noted. -/
  draft : Draft
  /-- The names of operations. -/
  namer : Namer

/-- The endpoint of an operation with a name and parameters. -/
def bareEndpoint (method : Method) (path name : String) (op : Operation)
    (parameters : List Parameter) : Endpoint where
  method := method
  path := path
  tag := tagOf path op.tags
  name := .ofText name
  summary := op.summary
  description := op.description
  deprecated := op.deprecated.getD false
  parameters := parameters.map (·.toEndpoint)

/-- Names an operation and merges its parameters with those of its path.  The name is taken even if
the parameters are bad. -/
def tune (namer : Namer) (r : Resolver) (ofPath : List (OrRef Parameter)) (method : Method)
    (path : String) (op : Operation) : Except BuildError (Endpoint × List Parameter) × Namer :=
  let (name, namer) := namer.assign method path op.operationId
  let merged := liftRef (Parameter.merge r ofPath op.parameters)
  (merged.map fun ps => (bareEndpoint method path name op ps, ps), namer)

/-- The responses of an endpoint: those that the analyzer finds in the source of its handler, if it
has one, or else those of the document. -/
def responses (setting : Setting) (r : Resolver) (name : String) (op : Operation) :
    Except RefError (List ResponseCase) :=
  match setting.analyzer, Entries.find? name setting.handlers with
  | some analyze, some source => do
    let cases := analyze source
    ResponseCase.checkBodies r cases
    return cases
  | _, _ => ResponseCase.ofDocument r op.responses

/-- Settles an operation, and gives it back with its parameters and its request body in their final
form. -/
def operation (setting : Setting) (s : State) (path : String) (ofPath : List (OrRef Parameter))
    (method : Method) (op : Operation) : Except BuildError (Endpoint × Operation × State) := do
  let r := s.draft.resolver setting.components
  let (tuned, namer) := tune s.namer r ofPath method path op
  let (e, parameters) ← tuned
  let (notes, credentials) := Credential.compose r setting.security op.security e.canonicalName
  let credentials ← credentials
  let responses ← liftRef (responses setting r e.canonicalName op)
  let e := { e with credentials, responses }
  let (inputs, body, draft) ← e.registerInputs setting.components (s.draft.note notes) op
  return ({ e with inputs },
    { op with parameters := parameters.map .inline, requestBody := some (.inline body) },
    ⟨draft, namer⟩)

/-- Settles the operations of a path. -/
def operations (setting : Setting) (path : String) (ofPath : List (OrRef Parameter)) (s : State) :
    List (Method × Operation) →
      Except BuildError (List Endpoint × List (Method × Operation) × State)
  | [] => .ok ([], [], s)
  | (method, op) :: rest => do
    let (e, op, s) ← operation setting s path ofPath method op
    let (es, ops, s) ← operations setting path ofPath s rest
    return (e :: es, (method, op) :: ops, s)

/-- Settles the operations of paths. -/
def paths (setting : Setting) (s : State) :
    List (String × PathItem) →
      Except BuildError (List Endpoint × List (String × PathItem) × State)
  | [] => .ok ([], [], s)
  | (path, item) :: rest => do
    let (es, ops, s) ← operations setting path item.parameters s item.operations
    let (more, items, s) ← paths setting s rest
    return (es ++ more, (path, { item with operations := ops }) :: items, s)

/-- The components with all named schemas, if anything is left in them. -/
def finalComponents (c : Components) (r : Registry) : Option Components :=
  let c := { c with schemas := r.entries }
  if c = {} then none else some c

/-- The model after the operations have been settled. -/
def finish (options : Options) (d : Document) (c : Components) (es : List Endpoint)
    (draft : Draft) : Except RefError Model := do
  let r := draft.resolver c
  let analysis ← Analysis.ofEntries r draft.registry.entries
  let document := { d with components := finalComponents c draft.registry }
  document.check
  return {
    document
    endpoints := es
    registry := draft.registry
    unions := analysis.unions
    compositions := analysis.compositions
    paging := Analysis.paging options.paging r es
    groups := Group.ofTags (es.map (·.tag))
    diagnostics := draft.diagnostics }

end Build

/-- The model of a document. -/
def Model.build (options : Options) (analyzers : Analyzers) (document : Document) :
    Except BuildError Model := do
  let analyzer ← analyzers.select options.analyzer
  let draft := Draft.start options.reserved
  let components := document.componentsD
  let renames ← components.newNames draft.reserved
  let (document, components) := { document with components := none }.rename renames components
  let registry ← draft.registry.declareAll components.schemas
  let components := { components with schemas := [] }
  let setting : Build.Setting :=
    ⟨components, document.defaultSecurity, analyzer, options.handlers⟩
  let state : Build.State :=
    ⟨{ draft with registry }, { strategy := options.strategy, aliases := options.aliases }⟩
  let (es, paths, state) ← Build.paths setting state document.paths
  liftRef (Build.finish options { document with paths } components es state.draft)

end ApiModel
