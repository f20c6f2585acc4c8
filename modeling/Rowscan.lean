import Rowscan.Condition.Aliases
import Rowscan.Condition.Basic
import Rowscan.Condition.Compile
import Rowscan.Condition.Holds
import Rowscan.Digest
import Rowscan.Double.Basic
import Rowscan.Double.Layout
import Rowscan.Double.Shortest
import Rowscan.Executor.Basic
import Rowscan.Executor.Canned
import Rowscan.Failure
import Rowscan.FieldMap
import Rowscan.Filter.Basic
import Rowscan.Filter.Json
import Rowscan.Json.Basic
import Rowscan.Json.Reader
import Rowscan.Key
import Rowscan.Literal
import Rowscan.Lookup
import Rowscan.Lua
import Rowscan.Numeral
import Rowscan.Proofs.Accumulators
import Rowscan.Proofs.AliasRegistry
import Rowscan.Proofs.Answers
import Rowscan.Proofs.Comparisons
import Rowscan.Proofs.FieldMaps
import Rowscan.Proofs.FilterMeaning
import Rowscan.Proofs.KeyEncodings
import Rowscan.Proofs.KeyFilters
import Rowscan.Proofs.KeyIdentity
import Rowscan.Proofs.KeySorting
import Rowscan.Proofs.KeyTexts
import Rowscan.Proofs.LookupScan
import Rowscan.Proofs.Numerals
import Rowscan.Proofs.Rounding
import Rowscan.Proofs.ShortestDigits
import Rowscan.Proofs.StoreHistory
import Rowscan.Proofs.Windows
import Rowscan.Query.Answer
import Rowscan.Query.Basic
import Rowscan.Query.Sorting
import Rowscan.Reply.Basic
import Rowscan.Reply.Description
import Rowscan.Reply.Row
import Rowscan.Scan.Program
import Rowscan.Settings
import Rowscan.Store.Basic
import Rowscan.Store.Execution
import Rowscan.Table
import Rowscan.TableQuery
import Rowscan.Text.Blank
import Rowscan.Text.CodePoint
import Rowscan.Text.Lowercase
import Rowscan.Text.Printable
import Rowscan.Text.Quoted
import Rowscan.Text.Utf8
import Rowscan.Toml.Document
import Rowscan.Toml.Scalar
import Rowscan.Toml.Value
import Rowscan.Wire.Decoder
import Rowscan.Wire.Encoder
import Rowscan.Wire.Session
import Rowscan.Proofs.Matches
import Rowscan.Proofs.Pagination
import Rowscan.Proofs.QueryKinds
import Rowscan.Proofs.InsertionOrder
import Rowscan.Proofs.TextSorting
import Rowscan.Proofs.OrderedPages
import Rowscan.Proofs.WireLines
import Rowscan.Proofs.Framing
import Rowscan.Proofs.ReplyFrames
import Rowscan.Proofs.Renderings
import Rowscan.Proofs.Requests
import Rowscan.Proofs.Sessions
import Rowscan.Proofs.StoreViews
import Rowscan.Proofs.TableSeparation
import Rowscan.Proofs.Refusals
import Rowscan.Proofs.CommandTraces
import Rowscan.Proofs.KeyListing
import Rowscan.Proofs.Existence
import Rowscan.Proofs.WholeDoubles
import Rowscan.Proofs.KeyNumbering
import Rowscan.Proofs.MalformedStreams
import Rowscan.Proofs.RefusedReplies
import Rowscan.Proofs.FilterForms
import Rowscan.Proofs.LuaTokens
import Rowscan.Proofs.LuaExpressions
import Rowscan.Proofs.LuaConditions
import Rowscan.Proofs.CompiledConditions
import Rowscan.Proofs.NumericOrder
import Rowscan.Proofs.InsertedRows
import Rowscan.Proofs.ColumnNumbers
import Rowscan.Proofs.TokenBoundaries
import Rowscan.Proofs.ConditionLabels
import Rowscan.Proofs.SourcePieces
import Rowscan.Proofs.QuotedTexts
import Rowscan.Proofs.RequestedKeys
import Rowscan.Proofs.SharedKeys
import Rowscan.Proofs.HashTags
import Rowscan.Proofs.FieldOrder
import Rowscan.Proofs.OrderedRows
import Rowscan.Proofs.ConditionShapes
import Rowscan.Proofs.LocalNames
import Rowscan.Proofs.AliasNames
import Rowscan.Proofs.NumeralGrammar
import Rowscan.Proofs.HexNumerals
import Rowscan.Proofs.TomlTables
import Rowscan.Proofs.AcceptedSettings
import Rowscan.Proofs.WrittenToml
import Rowscan.Proofs.WrittenSettings
