import ApiModel.Endpoint.Basic
import ApiModel.Schemas.Composition
import ApiModel.Text.Casing

/-!
# Paging

Which endpoints give a list in pages.  Such an endpoint fetches a collection, and the body of its
first successful response is an object with a list of items and a cursor to the next page.  What
cannot be resolved counts as not paged.
-/

namespace ApiModel

/-- By what paged endpoints are known. -/
structure PagingRules where
  /-- The methods of paged endpoints. -/
  methods : List String := ["get"]
  /-- What the names of endpoints that fetch collections begin with. -/
  nameStarts : List String := ["list"]
  /-- The names of cursors in snake case. -/
  cursorFields : List String :=
    ["cursor", "next_cursor", "next", "next_token", "next_page_token", "page_token",
      "continuation_token", "after", "starting_after"]
  /-- The names of lists of items, the best first. -/
  itemsFields : List String := ["data", "items", "results"]
  deriving DecidableEq, Repr, Inhabited

/-- Whether and how an endpoint is paged. -/
structure PagingHint where
  /-- The name of the endpoint. -/
  operation : String
  /-- Whether it is paged. -/
  paged : Bool := false
  /-- The property that holds the cursor. -/
  cursor : Option String := none
  /-- The property that holds the items. -/
  items : Option String := none
  deriving DecidableEq, Repr, Inhabited

namespace PagingRules

/-- Whether two ASCII texts agree without regard to case. -/
def agree (s t : String) : Bool :=
  s.map Char.toLower == t.map Char.toLower

/-- Whether endpoints of a method may be paged. -/
def allowsMethod (rules : PagingRules) (method : Method) : Bool :=
  rules.methods.any (agree · method.lowerName)

/-- Whether a name goes on after its beginning with a new word. -/
def startsWord : List Char → Bool
  | [] => true
  | c :: _ => Text.isUpper c || c.isDigit

/-- Whether a name begins with a text as a word of its own. -/
def beginsWith (start name : String) : Bool :=
  (Pointer.afterPrefix? start.toList name.toList).any startsWord

/-- Whether a segment of a path looks like a plural. -/
def isPlural (segment : List Char) : Bool :=
  match (segment.map Char.toLower).reverse with
  | 's' :: 's' :: _ => false
  | 's' :: _ => true
  | _ => false

/-- Whether the last segment of a path that is no parameter is a plural. -/
def endsPlural (segments : List (List Char)) : Bool :=
  (segments.reverse.find? (!Route.isParameter ·)).any isPlural

/-- Whether an endpoint fetches a collection: its path does not end with a parameter, and its name
begins as that of a list does or its path names a plural. -/
def isCollection (rules : PagingRules) (name path : String) : Bool :=
  let segments := Route.segments path
  !segments.getLast?.any Route.isParameter &&
    (rules.nameStarts.any (beginsWith · name) || endsPlural segments)

/-- The statuses of successful responses, the best first. -/
def successStatuses : List String :=
  ["200", "201", "2XX", "default"]

/-- Whether a text holds another one. -/
def holds (part : List Char) : List Char → Bool
  | [] => part.isEmpty
  | c :: rest => part.isPrefixOf (c :: rest) || holds part rest

/-- Whether the body of a response is JSON. -/
def isJson (case : ResponseCase) : Bool :=
  case.contentType.any (holds "json".toList ·.toList)

/-- The body of a response with a status, JSON if possible. -/
def bodyFor? (responses : List ResponseCase) (status : String) : Option (OrRef Schema) :=
  let cases := responses.filter fun case => agree case.status status && case.body.isSome
  ((cases.find? isJson) <|> cases.head?).bind (·.body)

/-- The body of the first successful response. -/
def successBody? (responses : List ResponseCase) : Option (OrRef Schema) :=
  successStatuses.findSome? (bodyFor? responses)

/-- The properties of a page. -/
def properties? (r : Resolver) (body : OrRef Schema) : Option (List (String × OrRef Schema)) :=
  match r.schema body with
  | .error _ => none
  | .ok s =>
    match Kind.ofSchema s with
    | .object => some s.properties
    | .composition _ => (Composition.merge r s).toOption.map (·.properties)
    | _ => none

/-- Whether a property is a list. -/
def isList (r : Resolver) (s : OrRef Schema) : Bool :=
  (r.schema s).toOption.any (·.isArray)

/-- The property that holds the items: one of the known names, or else the first list. -/
def itemsField? (rules : PagingRules) (r : Resolver)
    (properties : List (String × OrRef Schema)) : Option String :=
  (rules.itemsFields.find? fun name => (Entries.find? name properties).any (isList r)) <|>
    (properties.find? fun (_, s) => isList r s).map (·.1)

/-- The property that holds the cursor: the first whose name in snake case is a known one. -/
def cursorField? (rules : PagingRules) (properties : List (String × OrRef Schema)) :
    Option String :=
  (Entries.keys properties).find? fun name =>
    rules.cursorFields.contains (String.ofList (Text.snake name.toList))

/-- The cursor and the items of a page. -/
def page? (rules : PagingRules) (r : Resolver) (body : OrRef Schema) :
    Option (String × String) := do
  let properties ← properties? r body
  let items ← rules.itemsField? r properties
  let cursor ← rules.cursorField? properties
  return (cursor, items)

/-- Whether and how an endpoint is paged. -/
def infer (rules : PagingRules) (r : Resolver) (e : Endpoint) : PagingHint :=
  let page :=
    if rules.allowsMethod e.method && rules.isCollection e.canonicalName e.path then
      (successBody? e.responses).bind (rules.page? r)
    else none
  match page with
  | some (cursor, items) =>
    { operation := e.canonicalName, paged := true, cursor := some cursor, items := some items }
  | none => { operation := e.canonicalName }

end PagingRules

end ApiModel
