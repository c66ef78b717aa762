import LineLexer.CommandLine.Arguments
import LineLexer.CommandLine.Options
import LineLexer.CommandLine.Run
import LineLexer.CommandLine.Setting
import LineLexer.CommandLine.Usage
import LineLexer.Context
import LineLexer.Decimal
import LineLexer.Decimal.Binary
import LineLexer.Decimal.Shortest
import LineLexer.Diagnostic
import LineLexer.Editor
import LineLexer.Excerpt
import LineLexer.FileTree
import LineLexer.Grammar
import LineLexer.Listing
import LineLexer.Main
import LineLexer.Names
import LineLexer.Path
import LineLexer.Proofs.Accounting
import LineLexer.Proofs.ArgumentNames
import LineLexer.Proofs.Classification
import LineLexer.Proofs.Composition
import LineLexer.Proofs.DeclaredNames
import LineLexer.Proofs.Delivery
import LineLexer.Proofs.Diagnostics
import LineLexer.Proofs.DumpReader
import LineLexer.Proofs.Encoding
import LineLexer.Proofs.ExitCodes
import LineLexer.Proofs.FreshScan
import LineLexer.Proofs.JsonListing
import LineLexer.Proofs.KeywordSearch
import LineLexer.Proofs.Layers
import LineLexer.Proofs.Layout
import LineLexer.Proofs.LineEndings
import LineLexer.Proofs.ListingReader
import LineLexer.Proofs.MaximalRuns
import LineLexer.Proofs.Nesting
import LineLexer.Proofs.Placement
import LineLexer.Proofs.Precedence
import LineLexer.Proofs.Pruning
import LineLexer.Proofs.Publication
import LineLexer.Proofs.Reachability
import LineLexer.Proofs.Refusal
import LineLexer.Proofs.Rejection
import LineLexer.Proofs.Reports
import LineLexer.Proofs.Rescan
import LineLexer.Proofs.SessionGrowth
import LineLexer.Proofs.SourceText
import LineLexer.Proofs.SourceWords
import LineLexer.Proofs.SpanFidelity
import LineLexer.Proofs.StandardInput
import LineLexer.Proofs.StateInvariant
import LineLexer.Proofs.TableIndependence
import LineLexer.Proofs.Underlines
import LineLexer.Proofs.WordDecomposition
import LineLexer.Proofs.WordShapes
import LineLexer.Run
import LineLexer.Scanner
import LineLexer.Session
import LineLexer.Table
import LineLexer.Text.Basic
import LineLexer.Text.CharClass
import LineLexer.Text.Quoted
import LineLexer.Text.Utf8
import LineLexer.Token
import LineLexer.Toml.Document
import LineLexer.Toml.Error
import LineLexer.Toml.Lexeme
import LineLexer.Toml.Moment
import LineLexer.Toml.Reader
import LineLexer.Toml.Value
import LineLexer.Word
import LineLexer.Word.Keyword
import LineLexer.Word.Shape
