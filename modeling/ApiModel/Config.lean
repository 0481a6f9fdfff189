import ApiModel.Document.Read
import ApiModel.Model.Build

/-!
# Project configuration

A project may have a configuration file in YAML that says where its document is and how its model is
built.  Whatever the file leaves out has a default.
-/

namespace ApiModel

open ApiModel.Tree

/-- The strategies with their names. -/
def NamingStrategy.names : List (String × NamingStrategy) :=
  [("use_operation_id", .operationId), ("use_route_based", .route)]

/-- The name of a strategy. -/
def NamingStrategy.name : NamingStrategy → String
  | .operationId => "use_operation_id"
  | .route => "use_route_based"

/-- A project configuration. -/
structure Config where
  /-- Where the document is. -/
  input : String := "openapi.yaml"
  /-- How the model is built. -/
  options : Options := {}
  deriving Inhabited

/-- The fields of paging rules. -/
def PagingRules.outline : Outline :=
  .fields ["methods", "name_prefixes", "cursor_fields", "items_fields"]

/-- Lists of texts in place of the paging rules of the same kind. -/
def PagingRules.ofTree? (t : Tree) : Option PagingRules := do
  let r ← t.record? outline.names
  let rules : PagingRules := {}
  let methods ← r.getD? "methods" (list? string?) rules.methods
  let nameStarts ← r.getD? "name_prefixes" (list? string?) rules.nameStarts
  let cursorFields ← r.getD? "cursor_fields" (list? string?) rules.cursorFields
  let itemsFields ← r.getD? "items_fields" (list? string?) rules.itemsFields
  some { methods, nameStarts, cursorFields, itemsFields }

namespace Config

/-- The fields of the options for naming. -/
def namingOutline : Outline :=
  .fields ["strategy", "aliases", "reserved"]

/-- The options for naming. -/
def naming? (t : Tree) : Option Options := do
  let r ← t.record? namingOutline.names
  let strategy ← r.getD? "strategy" (choice? NamingStrategy.names) .operationId
  let aliases ← r.getD? "aliases" (entriesOf? string?) []
  let reserved ← r.getD? "reserved" (list? string?) []
  some { strategy, aliases, reserved }

/-- The fields of a configuration. -/
def outline : Outline :=
  .record
    [("input", .whole), ("naming", namingOutline), ("pagination", PagingRules.outline),
      ("response_analyzer", .whole)]

/-- A configuration. -/
def ofTree? (t : Tree) : Option Config := do
  let r ← t.record? outline.names
  let default : Config := {}
  let input ← r.getD? "input" string? default.input
  let options ← r.getD? "naming" naming? default.options
  let paging ← r.getD? "pagination" PagingRules.ofTree? default.options.paging
  let analyzer ← r.getD? "response_analyzer" (Tree.optional? string?) none
  some { input, options := { options with paging, analyzer } }

/-- The configuration that a file says. -/
def ofText? (text : String) : Option Config :=
  (Tree.ofYamlText? outline text).bind ofTree?

/-- The name of the configuration file of a project. -/
def fileName : String := ".oasir.yaml"

/-- What a new configuration file says: the defaults. -/
def defaultText : String :=
  "\n".intercalate
    ["# oasir configuration",
      "input: openapi.yaml",
      "",
      "naming:",
      "  strategy: use_operation_id  # use_operation_id | use_route_based",
      "  aliases: \x7b\x7d",
      "    # users.listAll: listUsers     # resolved name -> custom name",
      "  reserved: []                  # extra schema names the allocator must avoid",
      "",
      "pagination:",
      "  methods: [get]",
      "  name_prefixes: [list]",
      "  cursor_fields: [cursor, next_cursor, next, next_token, next_page_token, page_token, " ++
        "continuation_token, after, starting_after]",
      "  items_fields: [data, items, results]",
      "",
      "# response_analyzer: express   # analyzer used for operations with handler sources",
      ""]

end Config

end ApiModel
