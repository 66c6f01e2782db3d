import LogSearch.Archive
import LogSearch.Console.Editing
import LogSearch.Console.Listing
import LogSearch.Console.Options
import LogSearch.Console.Run
import LogSearch.Console.Session
import LogSearch.Corpus.Basic
import LogSearch.Corpus.Loading
import LogSearch.Folder
import LogSearch.Json.Basic
import LogSearch.Json.Document
import LogSearch.Json.Numeral
import LogSearch.Json.Printer
import LogSearch.Json.Token
import LogSearch.Main
import LogSearch.Mission
import LogSearch.Outcome
import LogSearch.Query.Basic
import LogSearch.Query.Clause
import LogSearch.Query.Keyword
import LogSearch.Query.Pattern
import LogSearch.Record
import LogSearch.Settings
import LogSearch.Text.Case
import LogSearch.Text.CaseTables
import LogSearch.Text.Cluster
import LogSearch.Text.ClusterTables
import LogSearch.Text.Decimal
import LogSearch.Text.Scan
import LogSearch.Proofs.Evaluation
import LogSearch.Proofs.Separators
import LogSearch.Proofs.Checked
import LogSearch.Proofs.Splitting
import LogSearch.Proofs.Joining
import LogSearch.Proofs.Feedback
import LogSearch.Proofs.Search
import LogSearch.Proofs.Encoding
import LogSearch.Proofs.Shapes
import LogSearch.Proofs.Documents
import LogSearch.Proofs.Layout
import LogSearch.Proofs.TrailingSpace
import LogSearch.Proofs.JsonLines
import LogSearch.Proofs.FirstSeen
import LogSearch.Proofs.FieldLists
import LogSearch.Proofs.Verdicts
import LogSearch.Proofs.Kinds
import LogSearch.Proofs.Acceptance
import LogSearch.Proofs.Session
import LogSearch.Proofs.Loaders
import LogSearch.Proofs.Occurrences
import LogSearch.Proofs.StoredValues
import LogSearch.Proofs.Literals
import LogSearch.Proofs.Printing
import LogSearch.Proofs.Lossless
import LogSearch.Proofs.Grammar
import LogSearch.Proofs.Bounds
import LogSearch.Proofs.Wildcards
import LogSearch.Proofs.FreeText
import LogSearch.Proofs.LetterCase
import LogSearch.Proofs.AsciiText
import LogSearch.Proofs.Canonical
import LogSearch.Proofs.DistinctKeys
import LogSearch.Proofs.ExactLoading
import LogSearch.Proofs.Frequency
import LogSearch.Proofs.Integers
import LogSearch.Proofs.WiderQueries
import LogSearch.Proofs.SettingsLayout
