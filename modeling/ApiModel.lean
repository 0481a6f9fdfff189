import ApiModel.Cli.Command
import ApiModel.Cli.Directory
import ApiModel.Cli.Run
import ApiModel.Config
import ApiModel.Document.Alike
import ApiModel.Document.Basic
import ApiModel.Document.Operation
import ApiModel.Document.OrRef
import ApiModel.Document.Parameter
import ApiModel.Document.Parse
import ApiModel.Document.Print
import ApiModel.Document.Read
import ApiModel.Document.Schema
import ApiModel.Document.Security
import ApiModel.Document.Walk
import ApiModel.Endpoint.Basic
import ApiModel.Endpoint.Credentials
import ApiModel.Endpoint.Input
import ApiModel.Endpoint.Paging
import ApiModel.Endpoint.Parameters
import ApiModel.Endpoint.Responses
import ApiModel.Json.Basic
import ApiModel.Json.Number
import ApiModel.Json.Printer
import ApiModel.Json.Reader
import ApiModel.Main
import ApiModel.Model.Analysis
import ApiModel.Model.Basic
import ApiModel.Model.Build
import ApiModel.Model.Error
import ApiModel.Model.Summary
import ApiModel.Naming.Groups
import ApiModel.Naming.Name
import ApiModel.Naming.Namer
import ApiModel.Number.Binary64
import ApiModel.Number.Shortest
import ApiModel.Number.Text
import ApiModel.Pointer
import ApiModel.Proofs.Document.Parse
import ApiModel.Proofs.Document.Walk
import ApiModel.Proofs.Endpoint.Body
import ApiModel.Proofs.Endpoint.Credentials
import ApiModel.Proofs.Endpoint.Divided
import ApiModel.Proofs.Endpoint.Input
import ApiModel.Proofs.Endpoint.Kept
import ApiModel.Proofs.Endpoint.Registration
import ApiModel.Proofs.Endpoint.Slots
import ApiModel.Proofs.Entries
import ApiModel.Proofs.Model.Names
import ApiModel.Proofs.Model.Registry
import ApiModel.Proofs.Model.Required
import ApiModel.Proofs.Model.Run
import ApiModel.Proofs.Model.Trace
import ApiModel.Proofs.Naming.Camel
import ApiModel.Proofs.Naming.Namer
import ApiModel.Proofs.Naming.Stable
import ApiModel.Proofs.Naming.Words
import ApiModel.Proofs.Outcome
import ApiModel.Proofs.Resolver
import ApiModel.Proofs.Schemas.Allocation
import ApiModel.Proofs.Schemas.Reach
import ApiModel.Proofs.Schemas.Renaming
import ApiModel.Proofs.Text.Ascii
import ApiModel.Resolver
import ApiModel.Schemas.Allocation
import ApiModel.Schemas.Composition
import ApiModel.Schemas.Kind
import ApiModel.Schemas.Registry
import ApiModel.Schemas.Renaming
import ApiModel.Schemas.Union
import ApiModel.Text.Case
import ApiModel.Text.CaseTable
import ApiModel.Text.Casing
import ApiModel.Text.Class
import ApiModel.Text.ClassTable
import ApiModel.Text.Quoted
import ApiModel.Text.ShapelessTable
import ApiModel.Text.Span
import ApiModel.Text.Words
import ApiModel.Tree.Basic
import ApiModel.Tree.Entries
import ApiModel.Tree.Record
import ApiModel.Tree.Typed
import ApiModel.Yaml.Cursor
import ApiModel.Yaml.Node
import ApiModel.Yaml.Printer
import ApiModel.Yaml.Reader
import ApiModel.Yaml.Scalar
import ApiModel.Yaml.Text
import ApiModel.Yaml.Token
import ApiModel.Proofs.Document.Check
import ApiModel.Proofs.Schemas.Reference
import ApiModel.Proofs.Endpoint.Parameters
import ApiModel.Proofs.Model.Agreement
import ApiModel.Proofs.Schemas.Extends
import ApiModel.Proofs.Schemas.Longer
import ApiModel.Proofs.Endpoint.Extends
import ApiModel.Proofs.Model.Extends
import ApiModel.Proofs.Model.Success
import ApiModel.Proofs.Model.Appended
import ApiModel.Proofs.Document.Replaced
import ApiModel.Proofs.Follow
import ApiModel.Proofs.Schemas.Renamed
import ApiModel.Proofs.Schemas.Meaning
import ApiModel.Proofs.Model.Carried
import ApiModel.Proofs.Model.Dangling
import ApiModel.Proofs.Model.References
import ApiModel.Proofs.Model.Frame
import ApiModel.Proofs.Model.Reached
import ApiModel.Proofs.Places
import ApiModel.Proofs.Pointwise
import ApiModel.Proofs.Model.Coverage
import ApiModel.Proofs.Schemas.Closure
import ApiModel.Proofs.Schemas.LastBranch
import ApiModel.Proofs.Schemas.Exhaustion
import ApiModel.Proofs.Chain
import ApiModel.Proofs.Naming.Groups
import ApiModel.Proofs.Naming.Fresh
import ApiModel.Proofs.Naming.Choice
import ApiModel.Proofs.Endpoint.Shuffled
import ApiModel.Proofs.Model.Shuffled
import ApiModel.Proofs.Json.Printed
import ApiModel.Proofs.Json.Within
import ApiModel.Proofs.Tree.Faithful
import ApiModel.Proofs.Tree.Fields
import ApiModel.Proofs.Document.Inline
import ApiModel.Proofs.Document.Schema
import ApiModel.Proofs.Document.Printed
import ApiModel.Proofs.Endpoint.Appended
import ApiModel.Proofs.Endpoint.Headers
import ApiModel.Proofs.Endpoint.Paging
import ApiModel.Proofs.Schemas.Tags
import ApiModel.Proofs.Schemas.Retagged
import ApiModel.Proofs.Model.Tags
import ApiModel.Proofs.Pointer
import ApiModel.Proofs.Schemas.History
import ApiModel.Proofs.Document.Rewritten
import ApiModel.Proofs.Naming.Snake
import ApiModel.Proofs.Endpoint.Cursors
import ApiModel.Proofs.Spelling
import ApiModel.Proofs.Schemas.Descent
import ApiModel.Proofs.Text.Pieces
import ApiModel.Proofs.Naming.Local
import ApiModel.Proofs.Naming.Identifier
