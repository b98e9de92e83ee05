import TaxFlow.Chart.Basic
import TaxFlow.Chart.Repair
import TaxFlow.Chart.Step
import TaxFlow.Chart.Variable
import TaxFlow.CommandLine.Folder
import TaxFlow.CommandLine.Help
import TaxFlow.CommandLine.Options
import TaxFlow.CommandLine.Reader
import TaxFlow.CommandLine.Run
import TaxFlow.Decimal.Arithmetic
import TaxFlow.Decimal.Basic
import TaxFlow.Decimal.Operand
import TaxFlow.Decimal.Reader
import TaxFlow.Decimal.Rounding
import TaxFlow.Decimal.Worksheet
import TaxFlow.Dialect.Basic
import TaxFlow.Dialect.Decimals
import TaxFlow.Dialect.Render
import TaxFlow.Fault
import TaxFlow.Formula.Basic
import TaxFlow.Formula.Dump
import TaxFlow.Formula.Expr
import TaxFlow.Formula.Lexer
import TaxFlow.Formula.Literal
import TaxFlow.Formula.Parser
import TaxFlow.Formula.Prepare
import TaxFlow.Formula.Script
import TaxFlow.Formula.Token
import TaxFlow.Main
import TaxFlow.Markup.Document
import TaxFlow.Markup.Event
import TaxFlow.Markup.Name
import TaxFlow.Markup.Node
import TaxFlow.Number.Binary64
import TaxFlow.Number.Reader
import TaxFlow.Number.Shortest
import TaxFlow.Page.Basic
import TaxFlow.Page.Draft
import TaxFlow.Page.Outline
import TaxFlow.Proofs.Acceptance
import TaxFlow.Proofs.ArrayConstants
import TaxFlow.Proofs.BeforeComment
import TaxFlow.Proofs.BlockReader
import TaxFlow.Proofs.Bracketed
import TaxFlow.Proofs.CommentBlocks
import TaxFlow.Proofs.ConstructorChoice
import TaxFlow.Proofs.ControlFlow
import TaxFlow.Proofs.Correspondence
import TaxFlow.Proofs.DecimalValues
import TaxFlow.Proofs.DocumentOrder
import TaxFlow.Proofs.Encoding
import TaxFlow.Proofs.FilledBlocks
import TaxFlow.Proofs.Grouping
import TaxFlow.Proofs.Independence
import TaxFlow.Proofs.Interface
import TaxFlow.Proofs.LastPiece
import TaxFlow.Proofs.Layout
import TaxFlow.Proofs.LevelBounds
import TaxFlow.Proofs.Lexing
import TaxFlow.Proofs.LibraryCalls
import TaxFlow.Proofs.Lines
import TaxFlow.Proofs.ListTexts
import TaxFlow.Proofs.Mentions
import TaxFlow.Proofs.Omissions
import TaxFlow.Proofs.OpenBlocks
import TaxFlow.Proofs.Operands
import TaxFlow.Proofs.OperatorNesting
import TaxFlow.Proofs.OperatorSpacing
import TaxFlow.Proofs.OperatorTexts
import TaxFlow.Proofs.OperatorWords
import TaxFlow.Proofs.OutputFile
import TaxFlow.Proofs.Phrases
import TaxFlow.Proofs.Reading
import TaxFlow.Proofs.Regrouping
import TaxFlow.Proofs.Renaming
import TaxFlow.Proofs.Renesting
import TaxFlow.Proofs.Rescaling
import TaxFlow.Proofs.RoundTrip
import TaxFlow.Proofs.RoundedQuotient
import TaxFlow.Proofs.Rows
import TaxFlow.Proofs.Samples
import TaxFlow.Proofs.Setters
import TaxFlow.Proofs.SizeSuffixes
import TaxFlow.Proofs.Sources
import TaxFlow.Proofs.Stack
import TaxFlow.Proofs.StatementOrder
import TaxFlow.Proofs.StatementShapes
import TaxFlow.Proofs.StatementWalk
import TaxFlow.Proofs.StrayAlternatives
import TaxFlow.Proofs.TextBorders
import TaxFlow.Proofs.TokenBorders
import TaxFlow.Proofs.TokenWalk
import TaxFlow.Proofs.WholeText
import TaxFlow.Release
import TaxFlow.Sample.Document
import TaxFlow.Sample.Phrases
import TaxFlow.Sample.Rounds
import TaxFlow.Sample.Sizes
import TaxFlow.Sample.Survey
import TaxFlow.Session
import TaxFlow.Target.Body
import TaxFlow.Target.CodeSettings
import TaxFlow.Target.Generator
import TaxFlow.Target.Golang
import TaxFlow.Target.Java
import TaxFlow.Target.Javascript
import TaxFlow.Target.Php
import TaxFlow.Target.Python
import TaxFlow.Target.Support.Golang
import TaxFlow.Target.Support.Php
import TaxFlow.Target.Support.Python
import TaxFlow.Text.Blank
import TaxFlow.Text.Casing
import TaxFlow.Text.CasingTable
import TaxFlow.Text.CodeRange
import TaxFlow.Text.CombiningTable
import TaxFlow.Text.CompositionTable
import TaxFlow.Text.DecompositionTable
import TaxFlow.Text.Digit
import TaxFlow.Text.DigitTable
import TaxFlow.Text.Identifier
import TaxFlow.Text.IdentifierTable
import TaxFlow.Text.Normal
import TaxFlow.Text.PrintableTable
import TaxFlow.Text.Quoted
import TaxFlow.Text.Utf8
