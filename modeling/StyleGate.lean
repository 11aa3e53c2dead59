import StyleGate.Decimal.Reading
import StyleGate.Main
import StyleGate.Proofs.Usage.WholeText
import StyleGate.Proofs.Declaration.Signature
import StyleGate.Proofs.Analysis.TrimmedLines
import StyleGate.Proofs.Braces.BodyEnd
import StyleGate.Proofs.Rule.Spacing
import StyleGate.Proofs.Analysis.Catalogue
import StyleGate.Proofs.Analysis.Order
import StyleGate.Proofs.Log.Delivery
import StyleGate.Proofs.Config.Selection
import StyleGate.Proofs.Analysis.Selection
import StyleGate.Proofs.Text.Utf8
import StyleGate.Proofs.Text.Breaks
import StyleGate.Proofs.Files.Overlong
import StyleGate.Proofs.SourceFile.Loading
import StyleGate.Proofs.Yaml.Stream
import StyleGate.Proofs.Yaml.Scanning
import StyleGate.Proofs.Yaml.Tokens
import StyleGate.Proofs.Yaml.Reading
import StyleGate.Proofs.Config.Spelling
import StyleGate.Proofs.Config.Loading
import StyleGate.Proofs.Braces.Matching
import StyleGate.Proofs.Log.Channels
import StyleGate.Proofs.Log.Registry
import StyleGate.Proofs.Rule.EndingLine
import StyleGate.Proofs.Program.ExitStatus
import StyleGate.Proofs.Rule.Repetition
import StyleGate.Proofs.Declaration.Field
import StyleGate.Proofs.Braces.Padding
import StyleGate.Proofs.Rule.Documentation
import StyleGate.Proofs.Rule.Advice
import StyleGate.Proofs.Text.Class
import StyleGate.Proofs.Text.Words
import StyleGate.Proofs.Rule.MagicNumber
import StyleGate.Proofs.Rule.MethodNaming
import StyleGate.Proofs.Analysis.Methods
import StyleGate.Proofs.Document.Splitting
import StyleGate.Proofs.Usage.Loop
import StyleGate.Proofs.Rule.Concatenation
import StyleGate.Proofs.Analysis.BlankTail
import StyleGate.Proofs.Config.Safety
import StyleGate.Proofs.Log.JsonRecord
import StyleGate.Proofs.Log.LevelNames
import StyleGate.Proofs.Analysis.Indexing
import StyleGate.Proofs.Report.Reading
import StyleGate.Proofs.Declaration.FirstMark
import StyleGate.Proofs.Braces.RunningIndex
import StyleGate.Proofs.CommandLine.Asking
import StyleGate.Proofs.Files.NewFile
import StyleGate.Proofs.Config.FirstFile
import StyleGate.Proofs.Config.Bundled
import StyleGate.Proofs.Program.FileSafety
