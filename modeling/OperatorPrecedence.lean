import OperatorPrecedence.Attempts
import OperatorPrecedence.Classes
import OperatorPrecedence.CommandLine
import OperatorPrecedence.Directory
import OperatorPrecedence.DisjointSets
import OperatorPrecedence.Distances
import OperatorPrecedence.Distinct
import OperatorPrecedence.Fault
import OperatorPrecedence.FileError
import OperatorPrecedence.FileSystem
import OperatorPrecedence.Groups
import OperatorPrecedence.Host
import OperatorPrecedence.Invocation
import OperatorPrecedence.Journal
import OperatorPrecedence.Listing
import OperatorPrecedence.Location
import OperatorPrecedence.Main
import OperatorPrecedence.Matrix
import OperatorPrecedence.Matrix.Definition
import OperatorPrecedence.Matrix.Layout
import OperatorPrecedence.OrderingGraph
import OperatorPrecedence.PrecedenceFunctions
import OperatorPrecedence.Proofs.AcceptedTables
import OperatorPrecedence.Proofs.AddedRelations
import OperatorPrecedence.Proofs.AlignedColumns
import OperatorPrecedence.Proofs.CanonicalRoots
import OperatorPrecedence.Proofs.CasedNames
import OperatorPrecedence.Proofs.ClassSymbols
import OperatorPrecedence.Proofs.Delivery
import OperatorPrecedence.Proofs.DerivedTables
import OperatorPrecedence.Proofs.Diagnostics
import OperatorPrecedence.Proofs.EarliestError
import OperatorPrecedence.Proofs.FailingSteps
import OperatorPrecedence.Proofs.FileLabels
import OperatorPrecedence.Proofs.FirstFaults
import OperatorPrecedence.Proofs.GatheredStatements
import OperatorPrecedence.Proofs.GrammarReading
import OperatorPrecedence.Proofs.GroupFaults
import OperatorPrecedence.Proofs.JoinedTexts
import OperatorPrecedence.Proofs.KeyedEntries
import OperatorPrecedence.Proofs.LabelledCells
import OperatorPrecedence.Proofs.LaidOutValues
import OperatorPrecedence.Proofs.LeastSolution
import OperatorPrecedence.Proofs.LongestPiece
import OperatorPrecedence.Proofs.LongestWalk
import OperatorPrecedence.Proofs.LookUps
import OperatorPrecedence.Proofs.MergedGraph
import OperatorPrecedence.Proofs.MergedSets
import OperatorPrecedence.Proofs.PlacedViolations
import OperatorPrecedence.Proofs.PlainRecursion
import OperatorPrecedence.Proofs.QuotientGraph
import OperatorPrecedence.Proofs.RaisedEndMarker
import OperatorPrecedence.Proofs.ReadArrays
import OperatorPrecedence.Proofs.Reordering
import OperatorPrecedence.Proofs.ReportedCycle
import OperatorPrecedence.Proofs.RowNotations
import OperatorPrecedence.Proofs.SearchInvariant
import OperatorPrecedence.Proofs.SearchPasses
import OperatorPrecedence.Proofs.SearchRun
import OperatorPrecedence.Proofs.SeparatedTexts
import OperatorPrecedence.Proofs.SpacedTokens
import OperatorPrecedence.Proofs.StatedTables
import OperatorPrecedence.Proofs.SymbolCover
import OperatorPrecedence.Proofs.SymbolValues
import OperatorPrecedence.Proofs.TokenPlaces
import OperatorPrecedence.Proofs.Transposition
import OperatorPrecedence.Proofs.TraversalLog
import OperatorPrecedence.Proofs.UnbracketedLines
import OperatorPrecedence.Proofs.ValuesInUse
import OperatorPrecedence.Proofs.WrittenFiles
import OperatorPrecedence.Proofs.WrittenTables
import OperatorPrecedence.Relation
import OperatorPrecedence.Report
import OperatorPrecedence.Satisfaction
import OperatorPrecedence.Search
import OperatorPrecedence.Solution
import OperatorPrecedence.Statement
import OperatorPrecedence.Statement.Grammar
import OperatorPrecedence.Statement.Reading
import OperatorPrecedence.Statement.Spelling
import OperatorPrecedence.Table
import OperatorPrecedence.TableError
import OperatorPrecedence.Text.Blank
import OperatorPrecedence.Text.CaseTables
import OperatorPrecedence.Text.CodeRange
import OperatorPrecedence.Text.Field
import OperatorPrecedence.Text.Identifier
import OperatorPrecedence.Text.IdentifierRanges
import OperatorPrecedence.Text.LetterCase
import OperatorPrecedence.Text.Numeral
import OperatorPrecedence.Text.Width
import OperatorPrecedence.Text.WidthRanges
import OperatorPrecedence.Token
import OperatorPrecedence.Token.Scan
import OperatorPrecedence.Token.Spacing
import OperatorPrecedence.Vertex
import OperatorPrecedence.Walk
