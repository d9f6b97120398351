import RackInventory.Client.Basic
import RackInventory.Client.Error
import RackInventory.Configuration.Address
import RackInventory.Configuration.Basic
import RackInventory.Configuration.File
import RackInventory.Console.Arguments
import RackInventory.Console.Command
import RackInventory.Console.Execution
import RackInventory.Console.Page
import RackInventory.Console.Program
import RackInventory.Console.Table
import RackInventory.Decimal.Binary
import RackInventory.Decimal.Rounding
import RackInventory.Decimal.Shortest
import RackInventory.Decimal.Written
import RackInventory.Environment.Settings
import RackInventory.Files
import RackInventory.Filter.Criteria
import RackInventory.Filter.Facets
import RackInventory.Filter.Matching
import RackInventory.Http.Basic
import RackInventory.Http.Redirection
import RackInventory.Http.Session
import RackInventory.Http.Wire
import RackInventory.Inventory.Catalog
import RackInventory.Inventory.Category
import RackInventory.Inventory.Datacenter
import RackInventory.Inventory.EquipmentType
import RackInventory.Inventory.Infrastructure
import RackInventory.Json.Basic
import RackInventory.Json.Collection
import RackInventory.Json.Error
import RackInventory.Json.Numeral
import RackInventory.Json.Parser
import RackInventory.Json.Printer
import RackInventory.Json.Reader
import RackInventory.Json.Skip
import RackInventory.Json.Text
import RackInventory.Main
import RackInventory.OrderedSet
import RackInventory.Quantity
import RackInventory.Shape.Basic
import RackInventory.Shape.OfJson
import RackInventory.Shape.OfText
import RackInventory.Simulation.Drafts
import RackInventory.Simulation.Holdings
import RackInventory.Simulation.PathPattern
import RackInventory.Simulation.Received
import RackInventory.Simulation.Scenario
import RackInventory.Simulation.Server
import RackInventory.Simulation.Sheets
import RackInventory.Text.Alphanumeric
import RackInventory.Text.Alphanumeric.Table
import RackInventory.Text.Blank
import RackInventory.Text.CharRanges
import RackInventory.Text.Composed
import RackInventory.Text.Composed.Table
import RackInventory.Text.Direction
import RackInventory.Text.Direction.Table
import RackInventory.Text.Joining
import RackInventory.Text.Joining.Table
import RackInventory.Text.Lowercase
import RackInventory.Text.Lowercase.Table
import RackInventory.Text.Mark
import RackInventory.Text.Mark.Table
import RackInventory.Text.Quoted
import RackInventory.Text.Quoted.Table
import RackInventory.Text.Search
import RackInventory.Text.Utf8
import RackInventory.Text.Width
import RackInventory.Text.Width.Table
import RackInventory.Url.Basic
import RackInventory.Url.Domain
import RackInventory.Url.Domain.Table
import RackInventory.Url.Form
import RackInventory.Url.Host
import RackInventory.Url.Parser
import RackInventory.Url.Percent
import RackInventory.Url.Punycode
import RackInventory.Url.Reference
import RackInventory.Url.Segments
import RackInventory.View.Arrangement
import RackInventory.View.Basic
import RackInventory.View.Details
import RackInventory.View.Listing
import RackInventory.Yaml.Basic
import RackInventory.Yaml.Document
import RackInventory.Yaml.Place
import RackInventory.Yaml.Scalar.Block
import RackInventory.Yaml.Scalar.Gap
import RackInventory.Yaml.Scalar.Plain
import RackInventory.Yaml.Scalar.Quoted
import RackInventory.Yaml.Token.Basic
import RackInventory.Yaml.Token.Lexer
import RackInventory.Yaml.Token.Tag
import RackInventory.Proofs.Client.Address
import RackInventory.Proofs.Client.Diagrams
import RackInventory.Proofs.Client.Endpoints
import RackInventory.Proofs.Client.Outcomes
import RackInventory.Proofs.Configuration.BaseAddress
import RackInventory.Proofs.Configuration.CanonicalAddress
import RackInventory.Proofs.Console.Blocks
import RackInventory.Proofs.Console.Collapse
import RackInventory.Proofs.Console.Drawing
import RackInventory.Proofs.Console.Equipment
import RackInventory.Proofs.Console.Plans
import RackInventory.Proofs.Console.Requests
import RackInventory.Proofs.Decimal.Nearest
import RackInventory.Proofs.Decimal.Rounding
import RackInventory.Proofs.Decimal.Shortest
import RackInventory.Proofs.Files.Writing
import RackInventory.Proofs.Filter.Badges
import RackInventory.Proofs.Filter.Changes
import RackInventory.Proofs.Filter.Dimensions
import RackInventory.Proofs.Filter.Facets
import RackInventory.Proofs.Filter.FirstAppearance
import RackInventory.Proofs.Filter.Matching
import RackInventory.Proofs.Filter.Membership
import RackInventory.Proofs.Http.Calls
import RackInventory.Proofs.Http.Traces
import RackInventory.Proofs.Inventory.Flattening
import RackInventory.Proofs.Json.Collections
import RackInventory.Proofs.Json.Digits
import RackInventory.Proofs.Json.Locality
import RackInventory.Proofs.Json.Numbers
import RackInventory.Proofs.Json.Numerals
import RackInventory.Proofs.Json.Range
import RackInventory.Proofs.Json.Reading
import RackInventory.Proofs.Json.Repeated
import RackInventory.Proofs.Json.Skipping
import RackInventory.Proofs.Json.Strings
import RackInventory.Proofs.Json.Values
import RackInventory.Proofs.Quantity.Ladder
import RackInventory.Proofs.Quantity.Tenths
import RackInventory.Proofs.Quantity.Texts
import RackInventory.Proofs.Quantity.Words
import RackInventory.Proofs.Shape.Given
import RackInventory.Proofs.Shape.Leniency
import RackInventory.Proofs.Shape.ListText
import RackInventory.Proofs.Shape.Locality
import RackInventory.Proofs.Shape.Members
import RackInventory.Proofs.Shape.Printed
import RackInventory.Proofs.Shape.Rereading
import RackInventory.Proofs.Shape.RoundTrip
import RackInventory.Proofs.Simulation.Bookkeeping
import RackInventory.Proofs.Simulation.Drafts
import RackInventory.Proofs.Simulation.Names
import RackInventory.Proofs.Simulation.Paths
import RackInventory.Proofs.Simulation.Sheets
import RackInventory.Proofs.Text.AsciiSearch
import RackInventory.Proofs.Text.ByteOrder
import RackInventory.Proofs.Text.Lowering
import RackInventory.Proofs.Text.Trimming
import RackInventory.Proofs.Text.Utf8
import RackInventory.Proofs.Url.Authority
import RackInventory.Proofs.Url.Blanks
import RackInventory.Proofs.Url.Encoding
import RackInventory.Proofs.Url.Extension
import RackInventory.Proofs.Url.Form
import RackInventory.Proofs.Url.Host
import RackInventory.Proofs.Url.Ipv6
import RackInventory.Proofs.Url.Path
import RackInventory.Proofs.Url.Reading
import RackInventory.Proofs.Url.Tail
import RackInventory.Proofs.View.Arrangement
import RackInventory.Proofs.View.Consistency
import RackInventory.Proofs.View.DetailRows
import RackInventory.Proofs.View.Expansion
import RackInventory.Proofs.View.Filtering
import RackInventory.Proofs.View.Grouping
import RackInventory.Proofs.View.Independence
import RackInventory.Proofs.View.Layout
import RackInventory.Proofs.View.Reloading
import RackInventory.Proofs.View.RoomRacks
import RackInventory.Proofs.View.RoomTotals
import RackInventory.Proofs.View.Searching
import RackInventory.Proofs.View.Undoing
import RackInventory.Proofs.View.Widening
