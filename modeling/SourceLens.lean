import SourceLens.Main
import SourceLens.TokenStream.Session
import SourceLens.Proofs.TokenStream.Progress
import SourceLens.Proofs.TokenStream.Slices
import SourceLens.Proofs.TokenStream.Printing
import SourceLens.Proofs.Lexeme.Respacing
import SourceLens.Proofs.TokenStream.Respacing
import SourceLens.Proofs.TokenStream.Session
import SourceLens.Proofs.TokenStream.Unclosed
import SourceLens.Proofs.TokenStream.Borders
import SourceLens.Proofs.Lexeme.Quoted
import SourceLens.Proofs.Lexeme.Stray
import SourceLens.Proofs.TokenStream.Unknown
import SourceLens.Proofs.TokenStream.Languages
import SourceLens.Proofs.Symbol.Table
import SourceLens.Proofs.Symbol.Places
import SourceLens.Proofs.Symbol.Barrier
import SourceLens.Proofs.Symbol.Extension
import SourceLens.Proofs.Symbol.Skeleton
import SourceLens.Proofs.Symbol.Search
import SourceLens.Proofs.Symbol.Names
import SourceLens.Proofs.Text.Parts
import SourceLens.Proofs.Text.Quoted
import SourceLens.Proofs.Viewer.Command
import SourceLens.Proofs.Pane.Total
import SourceLens.Proofs.Pane.SourceText
import SourceLens.Proofs.Viewer.History
import SourceLens.Proofs.Json.Reader
import SourceLens.Proofs.Viewer.Scrolling
import SourceLens.Proofs.Viewer.Clamping
import SourceLens.Proofs.Json.RoundTrip
import SourceLens.Proofs.Report.Json
import SourceLens.Proofs.Report.TokenTable
import SourceLens.Proofs.Report.SymbolTable
import SourceLens.Proofs.CommandLine.Spelling
import SourceLens.Proofs.Screen.Paint
import SourceLens.Proofs.Pane.Room
import SourceLens.Proofs.Viewer.Parts
import SourceLens.Proofs.Lexeme.Length
import SourceLens.Proofs.Lexeme.Delimited
import SourceLens.Proofs.Lexeme.Number
import SourceLens.Proofs.Language.Path
