import TableAtlas.Text.Blank
import TableAtlas.Text.LowerCase
import TableAtlas.Text.Ascii
import TableAtlas.Text.Numeral
import TableAtlas.Text.Percent
import TableAtlas.SortedMap
import TableAtlas.Decimal.Notation
import TableAtlas.Json.Printer
import TableAtlas.Json.Reader
import TableAtlas.Codec.Record
import TableAtlas.Sql.Render
import TableAtlas.Configuration.Codec
import TableAtlas.Query.Codec
import TableAtlas.Database.Script
import TableAtlas.Error
import TableAtlas.Catalog.Reflection
import TableAtlas.Explorer
import TableAtlas.Http.Service
import TableAtlas.Mysql.Server
import TableAtlas.Proofs.Plan.Placeholders
import TableAtlas.Proofs.Catalog.References
import TableAtlas.Proofs.Explorer.Session
import TableAtlas.Proofs.Catalog.WellFormed
import TableAtlas.Proofs.Plan.Lookups
import TableAtlas.Proofs.Explorer.Learning
import TableAtlas.Proofs.Explorer.Coalescing
import TableAtlas.Proofs.Catalog.ListingOrder
import TableAtlas.Proofs.Catalog.KeyListing
import TableAtlas.Proofs.Sql.Clauses
import TableAtlas.Proofs.Sql.Unambiguous
import TableAtlas.Proofs.Explorer.CatalogNames
import TableAtlas.Proofs.Codec.Lawful
import TableAtlas.Proofs.Schema.RoundTrip
import TableAtlas.Proofs.Plan.Values
import TableAtlas.Proofs.Query.RoundTrip
import TableAtlas.Proofs.Explorer.Endings
import TableAtlas.Proofs.Explorer.Answers
import TableAtlas.Proofs.Http.Boundary
import TableAtlas.Proofs.Plan.OutputNames
import TableAtlas.Proofs.Row
import TableAtlas.Proofs.Plan.GroupedRows
import TableAtlas.Proofs.Explorer.LabelOverrides
import TableAtlas.Proofs.Plan.Refusals
import TableAtlas.Proofs.Catalog.Recording
import TableAtlas.Proofs.Plan.Enrichment
import TableAtlas.Proofs.Catalog.KeyOrder
import TableAtlas.Proofs.Catalog.Labels
import TableAtlas.Proofs.Plan.ColumnOrder
import TableAtlas.Proofs.Catalog.Numbers
import TableAtlas.Proofs.Explorer.RowCounts
import TableAtlas.Proofs.Catalog.Faults
import TableAtlas.Proofs.Catalog.Views
import TableAtlas.Proofs.Catalog.Spelling
import TableAtlas.Proofs.Plan.ReferenceCounts
import TableAtlas.Proofs.Explorer.CountMapping
import TableAtlas.Proofs.Plan.PartialMatches
import TableAtlas.Proofs.Plan.Locality
import TableAtlas.Proofs.Mysql.Rows
import TableAtlas.Proofs.Sql.Malformed
import TableAtlas.Proofs.Sql.Quoting
