import GameShelf.Binary64.Basic
import GameShelf.Binary64.Rounding
import GameShelf.Catalog
import GameShelf.Game.Basic
import GameShelf.Game.Column
import GameShelf.Game.Reading
import GameShelf.Game.Writing
import GameShelf.Json.Found
import GameShelf.Json.Lexer
import GameShelf.Json.Number
import GameShelf.Json.Quoted
import GameShelf.Json.Skip
import GameShelf.Json.Token
import GameShelf.Numeral.Decimal
import GameShelf.Numeral.Shortest
import GameShelf.Numeral.Signed
import GameShelf.Planner
import GameShelf.Proofs.Binary64.Monotone
import GameShelf.Proofs.Binary64.Order
import GameShelf.Proofs.Binary64.Rounding
import GameShelf.Proofs.Catalog
import GameShelf.Proofs.Game.ColumnName
import GameShelf.Proofs.Game.Draft
import GameShelf.Proofs.Game.FilterSort
import GameShelf.Proofs.Game.Members
import GameShelf.Proofs.Game.NotANumber
import GameShelf.Proofs.Game.Order
import GameShelf.Proofs.Game.Reading
import GameShelf.Proofs.Game.RoundTrip
import GameShelf.Proofs.Game.SortedParts
import GameShelf.Proofs.Game.Sorting
import GameShelf.Proofs.Json.Found
import GameShelf.Proofs.Json.Grammar
import GameShelf.Proofs.Json.Lexer
import GameShelf.Proofs.Json.Number
import GameShelf.Proofs.Json.Quoted
import GameShelf.Proofs.Json.Skip
import GameShelf.Proofs.Json.Token
import GameShelf.Proofs.Numeral.Digits
import GameShelf.Proofs.Numeral.Grammar
import GameShelf.Proofs.Numeral.LetterCase
import GameShelf.Proofs.Numeral.Shortest
import GameShelf.Proofs.Planner
import GameShelf.Proofs.Query.Clause
import GameShelf.Proofs.Query.Coherence
import GameShelf.Proofs.Query.FirstOperator
import GameShelf.Proofs.Query.Join
import GameShelf.Proofs.Query.Kind
import GameShelf.Proofs.Query.LetterCase
import GameShelf.Proofs.Query.MixedOrder
import GameShelf.Proofs.Query.NumberOrder
import GameShelf.Proofs.Query.Order
import GameShelf.Proofs.Query.Printing
import GameShelf.Proofs.Query.StableSort
import GameShelf.Proofs.Query.Substring
import GameShelf.Proofs.Query.WellShaped
import GameShelf.Proofs.Query.WholeNumber
import GameShelf.Proofs.Selection.AddOrder
import GameShelf.Proofs.Selection.Addition
import GameShelf.Proofs.Selection.Address
import GameShelf.Proofs.Selection.History
import GameShelf.Proofs.Selection.NameOrder
import GameShelf.Proofs.Selection.OneByOne
import GameShelf.Proofs.Selection.Reachable
import GameShelf.Proofs.Selection.ReadBack
import GameShelf.Proofs.Selection.Removal
import GameShelf.Proofs.Selection.Resolution
import GameShelf.Proofs.Selection.Spelling
import GameShelf.Proofs.Selection.Union
import GameShelf.Proofs.Selection.Unshadowed
import GameShelf.Proofs.Session.Failure
import GameShelf.Proofs.Session.Save
import GameShelf.Proofs.Storage.Replace
import GameShelf.Proofs.Text.Blank
import GameShelf.Proofs.Text.CodePoint
import GameShelf.Proofs.Text.LetterCase
import GameShelf.Proofs.Text.Occurrence
import GameShelf.Proofs.Text.Order
import GameShelf.Query.Basic
import GameShelf.Query.Clause
import GameShelf.Query.Error
import GameShelf.Query.Expression
import GameShelf.Query.Operator
import GameShelf.Query.Order
import GameShelf.Query.Schema
import GameShelf.Query.Value
import GameShelf.Selection.Address
import GameShelf.Selection.Basic
import GameShelf.Selection.Error
import GameShelf.Selection.NameKey
import GameShelf.Selection.Save
import GameShelf.Session
import GameShelf.Storage.FileTree
import GameShelf.Text.Blank
import GameShelf.Text.Fold
import GameShelf.Text.Occurrence
import GameShelf.Text.Printable
import GameShelf.Text.Quoted
