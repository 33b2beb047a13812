import CertCatalog.Attribute
import CertCatalog.Audit
import CertCatalog.CalendarDate
import CertCatalog.CatalogSource.Basic
import CertCatalog.CatalogSource.Formats
import CertCatalog.CatalogSource.Loading
import CertCatalog.CommandLine.Argument
import CertCatalog.CommandLine.Command
import CertCatalog.CommandLine.Invocation
import CertCatalog.CommandLine.Outcome
import CertCatalog.Search
import CertCatalog.Document
import CertCatalog.Entry.Basic
import CertCatalog.Entry.Normal
import CertCatalog.Entry.Reading
import CertCatalog.Files
import CertCatalog.Goal
import CertCatalog.Catalog
import CertCatalog.Json.Basic
import CertCatalog.Json.Number
import CertCatalog.Json.Printer
import CertCatalog.Json.Reader
import CertCatalog.Query.Basic
import CertCatalog.Vocabulary
import CertCatalog.Main
import CertCatalog.Number.Binary64
import CertCatalog.Number.Decimal
import CertCatalog.Number.Layout
import CertCatalog.Query.Match
import CertCatalog.Query.NumberTest
import CertCatalog.Record
import CertCatalog.Report.Payload
import CertCatalog.Report.Plain
import CertCatalog.Report.Suggestion
import CertCatalog.Settings
import CertCatalog.Text.LetterCase
import CertCatalog.Text.Shorten
import CertCatalog.Text.CaseTable
import CertCatalog.Text.CharacterClass
import CertCatalog.Toml.Quoted
import CertCatalog.Toml.Reader
import CertCatalog.Toml.Scalar
import CertCatalog.Toml.Table
import CertCatalog.Yaml.Block
import CertCatalog.Yaml.Cursor
import CertCatalog.Yaml.Tree
import CertCatalog.Yaml.Layout
import CertCatalog.Yaml.Node
import CertCatalog.Yaml.FlowScalar
import CertCatalog.Yaml.Scalar
import CertCatalog.Yaml.Token
import CertCatalog.Proofs.Query.Concatenation
import CertCatalog.Proofs.Search.Conjunction
import CertCatalog.Proofs.CatalogSource.SingleFile
import CertCatalog.Proofs.Audit.Clean
import CertCatalog.Proofs.Audit.Defaults
import CertCatalog.Proofs.Audit.CheckedValues
import CertCatalog.Proofs.Record.SearchText
import CertCatalog.Proofs.Search.LetterCase
import CertCatalog.Proofs.Query.CanonicalText
import CertCatalog.Proofs.Search.OwnValues
import CertCatalog.Proofs.Search.Views
import CertCatalog.Proofs.Search.HiddenFields
import CertCatalog.Proofs.Search.CatalogEdits
import CertCatalog.Proofs.Search.CriteriaKeys
import CertCatalog.Proofs.Audit.Ids
import CertCatalog.Proofs.Query.Spans
import CertCatalog.Proofs.Query.Partition
import CertCatalog.Proofs.Search.OrderLaws
import CertCatalog.Proofs.Search.DigitTexts
import CertCatalog.Proofs.Record.GoalRules
import CertCatalog.Proofs.Entry.WriteBack
import CertCatalog.Proofs.Number.ReadBack
import CertCatalog.Proofs.Text.Padding
import CertCatalog.Proofs.Entry.LooseWriting
import CertCatalog.Proofs.Entry.DataModel
import CertCatalog.Proofs.DateForms
import CertCatalog.Proofs.Entry.WholeNumbers
import CertCatalog.Proofs.Audit.FileOrder
import CertCatalog.Proofs.Listing.Canonical
import CertCatalog.Proofs.Query.AliasOrder
import CertCatalog.Proofs.Search.NameCriteria
import CertCatalog.Proofs.CatalogSource.EntryFiles
import CertCatalog.Proofs.CatalogSource.Folder
import CertCatalog.Proofs.Query.NumberText
import CertCatalog.Proofs.Text.Slug
