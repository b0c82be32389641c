import ShuntingYard.Binding
import ShuntingYard.CharSet
import ShuntingYard.CharSet.Blank
import ShuntingYard.CharSet.DecimalDigit
import ShuntingYard.CharSet.Numeric
import ShuntingYard.CharSet.Unprintable
import ShuntingYard.Demo
import ShuntingYard.Diagnostic
import ShuntingYard.Event
import ShuntingYard.Failure
import ShuntingYard.Grammar
import ShuntingYard.Lexeme
import ShuntingYard.Main
import ShuntingYard.Nesting
import ShuntingYard.Numeral
import ShuntingYard.Parse
import ShuntingYard.Phrase
import ShuntingYard.Proofs.Acceptance
import ShuntingYard.Proofs.Balance
import ShuntingYard.Proofs.Carets
import ShuntingYard.Proofs.Conservation
import ShuntingYard.Proofs.Correspondence
import ShuntingYard.Proofs.Drawing
import ShuntingYard.Proofs.Failures
import ShuntingYard.Proofs.Groups
import ShuntingYard.Proofs.Histories
import ShuntingYard.Proofs.Joints
import ShuntingYard.Proofs.Layout
import ShuntingYard.Proofs.Leftovers
import ShuntingYard.Proofs.Numerals
import ShuntingYard.Proofs.Pieces
import ShuntingYard.Proofs.Places
import ShuntingYard.Proofs.Precedence
import ShuntingYard.Proofs.RankOrder
import ShuntingYard.Proofs.Reasons
import ShuntingYard.Proofs.Record
import ShuntingYard.Proofs.Refinement
import ShuntingYard.Proofs.Respelling
import ShuntingYard.Proofs.RoundTrip
import ShuntingYard.Proofs.Runs
import ShuntingYard.Proofs.Seams
import ShuntingYard.Proofs.Segmentation
import ShuntingYard.Proofs.Symbols
import ShuntingYard.Proofs.Tokens
import ShuntingYard.Quoted
import ShuntingYard.ReversePolish
import ShuntingYard.Row
import ShuntingYard.Span
import ShuntingYard.Token
import ShuntingYard.Traced
import ShuntingYard.Tree
import ShuntingYard.Tree.Order
import ShuntingYard.Tree.Path
import ShuntingYard.Tree.Sheet
import ShuntingYard.Tree.Substitution
import ShuntingYard.Tree.Text
import ShuntingYard.Word
import ShuntingYard.Yard
import ShuntingYard.Tree.Mirror
import ShuntingYard.Proofs.Listings
import ShuntingYard.Proofs.PolishNotation
import ShuntingYard.Proofs.DrawnTrees
import ShuntingYard.Proofs.RankTables
import ShuntingYard.Proofs.LoneNumerals
import ShuntingYard.Proofs.Continuation
import ShuntingYard.Proofs.CaretBounds
import ShuntingYard.Proofs.Track
