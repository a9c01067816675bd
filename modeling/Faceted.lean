import Faceted.Backend.Address
import Faceted.Backend.Exchange
import Faceted.Backend.Http
import Faceted.Backend.Response
import Faceted.Catalog
import Faceted.CommandLine
import Faceted.Config.Environment
import Faceted.Config.Layers
import Faceted.Config.Value
import Faceted.Config.Yaml
import Faceted.Config.Yaml.Layout
import Faceted.Config.Yaml.Literal
import Faceted.Config.Yaml.Node
import Faceted.Config.Yaml.Plain
import Faceted.Config.Yaml.Quoted
import Faceted.Config.Yaml.Spot
import Faceted.Config.Yaml.Token
import Faceted.Decimal.Layout
import Faceted.Decimal.Numeral
import Faceted.Decimal.Reading
import Faceted.Decimal.Shortest
import Faceted.Entries
import Faceted.Json.Basic
import Faceted.Json.Node
import Faceted.Json.Overlay
import Faceted.Json.Printer
import Faceted.Json.Token
import Faceted.Main
import Faceted.Proofs.Appearance
import Faceted.Proofs.Backend.Address
import Faceted.Proofs.Backend.Exchange
import Faceted.Proofs.Backend.Refusal
import Faceted.Proofs.Backend.Response
import Faceted.Proofs.Decimal.Halving
import Faceted.Proofs.Decimal.Sign
import Faceted.Proofs.Decimal.Tenths
import Faceted.Proofs.Entries
import Faceted.Proofs.Json.Overlay
import Faceted.Proofs.Json.Path
import Faceted.Proofs.Json.Sequence
import Faceted.Proofs.Query.Condition
import Faceted.Proofs.Query.Gathering
import Faceted.Proofs.Query.Reading
import Faceted.Proofs.Query.Regrouping
import Faceted.Proofs.Reading
import Faceted.Proofs.Search.Aggregations
import Faceted.Proofs.Search.Body
import Faceted.Proofs.Search.Clauses
import Faceted.Proofs.Search.Course
import Faceted.Proofs.Search.Decoding
import Faceted.Proofs.Search.Disjunction
import Faceted.Proofs.Search.Exclusion
import Faceted.Proofs.Search.Fragment
import Faceted.Proofs.Search.Frame
import Faceted.Proofs.Search.Grouping
import Faceted.Proofs.Search.Independence
import Faceted.Proofs.Search.Loading
import Faceted.Proofs.Search.Meaning
import Faceted.Proofs.Search.Paging
import Faceted.Proofs.Search.Passes
import Faceted.Proofs.Search.Ranges
import Faceted.Proofs.Search.Relevance
import Faceted.Proofs.Search.Resolving
import Faceted.Proofs.Search.Scoring
import Faceted.Proofs.Search.Skipping
import Faceted.Proofs.Selection
import Faceted.Proofs.Sort
import Faceted.Proofs.Split
import Faceted.Proofs.Text.Bytes
import Faceted.Proofs.Text.Capitals
import Faceted.Proofs.Text.Ends
import Faceted.Proofs.Text.Operators
import Faceted.Proofs.Text.Utf8
import Faceted.Query.Basic
import Faceted.Query.Clause
import Faceted.Search.Body
import Faceted.Search.Compile
import Faceted.Search.Errors
import Faceted.Search.Hooks
import Faceted.Search.Resolution
import Faceted.Search.Results
import Faceted.Search.Run
import Faceted.Selection
import Faceted.Settings.Basic
import Faceted.Settings.Reading
import Faceted.Source
import Faceted.Text.Blank
import Faceted.Text.CaseIgnorable
import Faceted.Text.Cased
import Faceted.Text.CodeRange
import Faceted.Text.LowerCase
import Faceted.Text.Operators
import Faceted.Text.Utf8
