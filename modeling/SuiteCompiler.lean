import SuiteCompiler.Text.Lines
import SuiteCompiler.Text.Letters
import SuiteCompiler.Text.Identifier
import SuiteCompiler.Text.Printable
import SuiteCompiler.Text.Utf8
import SuiteCompiler.Number.Shortest
import SuiteCompiler.Document.Key
import SuiteCompiler.Document.Writer
import SuiteCompiler.Document.Reader
import SuiteCompiler.Suite.Snippets
import SuiteCompiler.Suite.Options
import SuiteCompiler.Jest.Composer
import SuiteCompiler.Generation.Generator
import SuiteCompiler.Main
import SuiteCompiler.Proofs.Outcome
import SuiteCompiler.Proofs.Reached
import SuiteCompiler.Proofs.FirstFailure
import SuiteCompiler.Proofs.Stops
import SuiteCompiler.Proofs.Methods
import SuiteCompiler.Proofs.WellFormed
import SuiteCompiler.Proofs.Json
import SuiteCompiler.Proofs.Statements
import SuiteCompiler.Proofs.Listing
import SuiteCompiler.Proofs.Embedding
import SuiteCompiler.Proofs.Exclusion
import SuiteCompiler.Proofs.Encoding
import SuiteCompiler.Proofs.Instruments
import SuiteCompiler.Proofs.Tokens
import SuiteCompiler.Proofs.RoundTrip
import SuiteCompiler.Proofs.Readers
import SuiteCompiler.Proofs.WaitLines
import SuiteCompiler.Proofs.Outline
import SuiteCompiler.Proofs.Fences
import SuiteCompiler.Proofs.Bindings
import SuiteCompiler.Proofs.Constants
import SuiteCompiler.Proofs.Grammar
import SuiteCompiler.Proofs.Registry
import SuiteCompiler.Proofs.Attribution
import SuiteCompiler.Proofs.Remainders
import SuiteCompiler.Proofs.LoadFaults
import SuiteCompiler.Proofs.Traceability
import SuiteCompiler.Proofs.ExitStatus
import SuiteCompiler.Proofs.Lexemes
import SuiteCompiler.Proofs.Segments
import SuiteCompiler.Proofs.Containment
import SuiteCompiler.Proofs.Names
import SuiteCompiler.Proofs.MarkerGrammar
import SuiteCompiler.Proofs.Assignment
import SuiteCompiler.Proofs.Transcripts
import SuiteCompiler.Proofs.Writing
import SuiteCompiler.Proofs.Delivery
import SuiteCompiler.Proofs.Dictionaries
import SuiteCompiler.Proofs.Precedence
import SuiteCompiler.Proofs.TargetIds
import SuiteCompiler.Proofs.DistinctNames
import SuiteCompiler.Proofs.References
import SuiteCompiler.Proofs.RenderFaults
import SuiteCompiler.Proofs.DisabledSnippets
import SuiteCompiler.Proofs.OptionRecords
import SuiteCompiler.Proofs.IntegerParameters
import SuiteCompiler.Proofs.MissedCommands
import SuiteCompiler.Proofs.CommaLists
import SuiteCompiler.Proofs.Pictures
import SuiteCompiler.Proofs.PlainText
import SuiteCompiler.Proofs.Notices
import SuiteCompiler.Proofs.Diagnostics
import SuiteCompiler.Proofs.RunnerChoice
