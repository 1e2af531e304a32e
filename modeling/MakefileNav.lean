import MakefileNav.Text.Basic
import MakefileNav.Text.Whitespace
import MakefileNav.Text.WordCharacter
import MakefileNav.Text.ControlSequence
import MakefileNav.Text.Token
import MakefileNav.Text.Search
import MakefileNav.Position
import MakefileNav.Path
import MakefileNav.Location
import MakefileNav.Line
import MakefileNav.Symbol
import MakefileNav.Cursor
import MakefileNav.Usage
import MakefileNav.Hover
import MakefileNav.Completion
import MakefileNav.Lint.Diagnostic
import MakefileNav.Lint.Checks
import MakefileNav.Toml.Lexeme
import MakefileNav.Toml.StringArrays
import MakefileNav.Settings
import MakefileNav.FileTree.Node
import MakefileNav.FileTree.Disk
import MakefileNav.Workspace
import MakefileNav.Watch
import MakefileNav.Failure
import MakefileNav.Json
import MakefileNav.Report
import MakefileNav.Action
import MakefileNav.Command
import MakefileNav.CommandLine.Refusal
import MakefileNav.CommandLine.Integer
import MakefileNav.CommandLine.Invocation
import MakefileNav.CommandLine.Session
import MakefileNav.Main
import MakefileNav.Proofs.CharacterClasses
import MakefileNav.Proofs.Slices
import MakefileNav.Proofs.MaximalRuns
import MakefileNav.Proofs.SearchCompleteness
import MakefileNav.Proofs.LineGrammar
import MakefileNav.Proofs.LineParts
import MakefileNav.Proofs.UsageSites
import MakefileNav.Proofs.RangeRoundTrip
import MakefileNav.Proofs.UsageSpecification
import MakefileNav.Proofs.DependencyAgreement
import MakefileNav.Proofs.CursorReading
import MakefileNav.Proofs.ReferenceAgreement
import MakefileNav.Proofs.DeclarationsApart
import MakefileNav.Proofs.DeclarationUnderCursor
import MakefileNav.Proofs.UsageUnderCursor
import MakefileNav.Proofs.FileTrees
import MakefileNav.Proofs.Pieces
import MakefileNav.Proofs.PathComponents
import MakefileNav.Proofs.PathFollowing
import MakefileNav.Proofs.Discovery
import MakefileNav.Proofs.WorkspaceUsages
import MakefileNav.Proofs.DiskAgreement
import MakefileNav.Proofs.UnsavedText
import MakefileNav.Proofs.DefinitionLookup
import MakefileNav.Proofs.ActionResults
import MakefileNav.Proofs.MissingDeclarations
import MakefileNav.Proofs.LineEndings
import MakefileNav.Proofs.LineLocality
import MakefileNav.Proofs.LintFindings
import MakefileNav.Proofs.ReferenceAccounting
import MakefileNav.Proofs.UndefinedVariableFixes
import MakefileNav.Proofs.RelativePaths
import MakefileNav.Proofs.DiscoveryExactness
import MakefileNav.Proofs.ReportLines
import MakefileNav.Proofs.PrintedOutput
import MakefileNav.Proofs.WatchedFiles
import MakefileNav.Proofs.CheckReports
import MakefileNav.Proofs.Insertions
import MakefileNav.Proofs.CompletionContexts
import MakefileNav.Proofs.AcceptedCompletions
import MakefileNav.Proofs.VariableHover
import MakefileNav.Proofs.RuleLines
import MakefileNav.Proofs.UndefinedTargetFixes
import MakefileNav.Proofs.CursorAnswers
import MakefileNav.Proofs.PhonyLines
import MakefileNav.Proofs.UsageOrder
import MakefileNav.Proofs.FindingOrder
import MakefileNav.Proofs.JoinedDocuments
import MakefileNav.Proofs.DeclarationHints
import MakefileNav.Proofs.ByteSlices
import MakefileNav.Proofs.Tokenization
