import DocumentStream.Abbreviation
import DocumentStream.Binary64
import DocumentStream.Binary64.Shortest
import DocumentStream.CommandLine
import DocumentStream.Config
import DocumentStream.Config.Search
import DocumentStream.Config.Standard
import DocumentStream.Conversion
import DocumentStream.Display
import DocumentStream.Escape
import DocumentStream.Event
import DocumentStream.Event.Message
import DocumentStream.Event.Record
import DocumentStream.Event.Stream
import DocumentStream.Failure
import DocumentStream.FilePath
import DocumentStream.FileSystem
import DocumentStream.Json.Printer
import DocumentStream.Json.Reader
import DocumentStream.Library
import DocumentStream.Log
import DocumentStream.Logger
import DocumentStream.MacroCall
import DocumentStream.Main
import DocumentStream.Nesting
import DocumentStream.Options
import DocumentStream.Options.Given
import DocumentStream.Output
import DocumentStream.Printer
import DocumentStream.Program
import DocumentStream.Proofs.AbbreviationDefinitions
import DocumentStream.Proofs.AbbreviationGrammar
import DocumentStream.Proofs.Agreement
import DocumentStream.Proofs.BalancedContent
import DocumentStream.Proofs.BlockComposition
import DocumentStream.Proofs.BlockSeparation
import DocumentStream.Proofs.CodeReading
import DocumentStream.Proofs.ConfigContainment
import DocumentStream.Proofs.ConfigLoading
import DocumentStream.Proofs.ConfigSearch
import DocumentStream.Proofs.ConstructEffects
import DocumentStream.Proofs.DefinitionReading
import DocumentStream.Proofs.DocumentFront
import DocumentStream.Proofs.EscapedMarks
import DocumentStream.Proofs.Escaping
import DocumentStream.Proofs.EventSteps
import DocumentStream.Proofs.ExitStatus
import DocumentStream.Proofs.FallibleSearch
import DocumentStream.Proofs.FlagPrecedence
import DocumentStream.Proofs.FormatMarkers
import DocumentStream.Proofs.Fragmentation
import DocumentStream.Proofs.IndentedCode
import DocumentStream.Proofs.InlineContent
import DocumentStream.Proofs.InlineContexts
import DocumentStream.Proofs.JsonReading
import DocumentStream.Proofs.JsonSteps
import DocumentStream.Proofs.LeafEffects
import DocumentStream.Proofs.LineBeginnings
import DocumentStream.Proofs.LineEnds
import DocumentStream.Proofs.Lockstep
import DocumentStream.Proofs.LoggedFiles
import DocumentStream.Proofs.MacroReading
import DocumentStream.Proofs.MirroredEvents
import DocumentStream.Proofs.Mirroring
import DocumentStream.Proofs.NestedDefinitions
import DocumentStream.Proofs.NestedLists
import DocumentStream.Proofs.NestedQuotations
import DocumentStream.Proofs.NestingEffects
import DocumentStream.Proofs.NoPartialOutput
import DocumentStream.Proofs.Normalisation
import DocumentStream.Proofs.OpenCounts
import DocumentStream.Proofs.OpenStacks
import DocumentStream.Proofs.PatternReading
import DocumentStream.Proofs.Pieces
import DocumentStream.Proofs.PlainFormats
import DocumentStream.Proofs.ProperNesting
import DocumentStream.Proofs.RecordFaults
import DocumentStream.Proofs.RecordReading
import DocumentStream.Proofs.RecordedAbbreviations
import DocumentStream.Proofs.Resumption
import DocumentStream.Proofs.SeparateTracking
import DocumentStream.Proofs.SourceKinds
import DocumentStream.Proofs.Splitting
import DocumentStream.Proofs.StreamRoundTrip
import DocumentStream.Proofs.Streaming
import DocumentStream.Proofs.Surroundings
import DocumentStream.Proofs.TableGeometry
import DocumentStream.Proofs.TableLayout
import DocumentStream.Proofs.TableReading
import DocumentStream.Proofs.TableSeparator
import DocumentStream.Proofs.Templates
import DocumentStream.Proofs.TextFaults
import DocumentStream.Proofs.TextFront
import DocumentStream.Proofs.TypedEvents
import DocumentStream.Proofs.Unescaping
import DocumentStream.Proofs.Writing
import DocumentStream.Reference
import DocumentStream.Reference.Markup
import DocumentStream.Renderer
import DocumentStream.Source
import DocumentStream.Table
import DocumentStream.Text
import DocumentStream.Text.Alphanumeric
import DocumentStream.Text.Case
import DocumentStream.Text.Digit
import DocumentStream.Text.Lines
import DocumentStream.Text.Pattern
import DocumentStream.Text.Printable
import DocumentStream.Text.Utf8
import DocumentStream.Toml
import DocumentStream.Value
import DocumentStream.Value.Literal
import DocumentStream.Yaml
import DocumentStream.Proofs.PrinterCalls
import DocumentStream.Proofs.ListStacks
import DocumentStream.Proofs.LoggerHistory
import DocumentStream.Proofs.PipeEscaping
