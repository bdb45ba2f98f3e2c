import IntExpr.Arithmetic
import IntExpr.Binding
import IntExpr.Bindings
import IntExpr.Calculation
import IntExpr.Calculator
import IntExpr.CommandLine
import IntExpr.CommandLine.Arguments
import IntExpr.CommandLine.Settings
import IntExpr.CommandLine.Usage
import IntExpr.Cursor
import IntExpr.Decimal
import IntExpr.Diagnostic
import IntExpr.EditDistance
import IntExpr.Evaluation
import IntExpr.Expr
import IntExpr.Expr.Depth
import IntExpr.Expr.Meaning
import IntExpr.Expr.Outline
import IntExpr.Expr.Record
import IntExpr.Grammar
import IntExpr.Location
import IntExpr.Main
import IntExpr.Parser
import IntExpr.Proofs.Acceptance
import IntExpr.Proofs.Agreement
import IntExpr.Proofs.Alignment
import IntExpr.Proofs.Batch
import IntExpr.Proofs.BindingText
import IntExpr.Proofs.Blame
import IntExpr.Proofs.Bounds
import IntExpr.Proofs.Calls
import IntExpr.Proofs.Classification
import IntExpr.Proofs.Completeness
import IntExpr.Proofs.Composition
import IntExpr.Proofs.Coverage
import IntExpr.Proofs.Decision
import IntExpr.Proofs.Declarations
import IntExpr.Proofs.Depth
import IntExpr.Proofs.Edits
import IntExpr.Proofs.Evaluation
import IntExpr.Proofs.Failures
import IntExpr.Proofs.FirstFault
import IntExpr.Proofs.Grouping
import IntExpr.Proofs.Keeping
import IntExpr.Proofs.Layout
import IntExpr.Proofs.Lexeme
import IntExpr.Proofs.Lookups
import IntExpr.Proofs.Nearest
import IntExpr.Proofs.Operations
import IntExpr.Proofs.Outline
import IntExpr.Proofs.Parts
import IntExpr.Proofs.Place
import IntExpr.Proofs.Reading
import IntExpr.Proofs.Record
import IntExpr.Proofs.Renaming
import IntExpr.Proofs.Rendering
import IntExpr.Proofs.Reuse
import IntExpr.Proofs.Run
import IntExpr.Proofs.Shape
import IntExpr.Proofs.Simulation
import IntExpr.Proofs.Soundness
import IntExpr.Proofs.Spelling
import IntExpr.Proofs.StatefulParser
import IntExpr.Proofs.Steps
import IntExpr.Proofs.Stuck
import IntExpr.Proofs.Suggestions
import IntExpr.Proofs.Tables
import IntExpr.Proofs.Tape
import IntExpr.Proofs.TapeParser
import IntExpr.Proofs.Tiling
import IntExpr.Proofs.Window
import IntExpr.Proofs.Words
import IntExpr.Report
import IntExpr.Scanner
import IntExpr.Session
import IntExpr.StatefulParser
import IntExpr.Tables
import IntExpr.Text.CaseTable
import IntExpr.Text.CharacterClass
import IntExpr.Text.Escaped
import IntExpr.Text.LetterCase
import IntExpr.Text.Printable
import IntExpr.Token
