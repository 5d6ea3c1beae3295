import DesignLens.Advice.Defaults
import DesignLens.Advice.Maps
import DesignLens.Analysis.Paths
import DesignLens.Analysis.Probe
import DesignLens.Analysis.Subject
import DesignLens.Analysis.Summary
import DesignLens.Analysis.Survey
import DesignLens.Arguments
import DesignLens.Catalog.Lookup
import DesignLens.Catalog.Shipped
import DesignLens.CommandLine.Ending
import DesignLens.CommandLine.Options
import DesignLens.CommandLine.Pipeline
import DesignLens.CommandLine.Presets
import DesignLens.CommandLine.Server
import DesignLens.Detection.Architectural
import DesignLens.Detection.Behavioural
import DesignLens.Detection.Creational
import DesignLens.Detection.Finding
import DesignLens.Detection.Reading
import DesignLens.Detection.Registry
import DesignLens.Detection.Structural
import DesignLens.Detection.Summaries
import DesignLens.Diff.Matching
import DesignLens.Diff.Unified
import DesignLens.Enforcement.Ranked
import DesignLens.Enforcement.Target
import DesignLens.Failure
import DesignLens.Json.Arithmetic
import DesignLens.Json.Packed
import DesignLens.Json.Reader
import DesignLens.Json.Traits
import DesignLens.Json.Value
import DesignLens.Json.Writer
import DesignLens.Main
import DesignLens.Metrics.Linting
import DesignLens.Metrics.Readings
import DesignLens.Metrics.Report
import DesignLens.Naming
import DesignLens.Number.Binary64
import DesignLens.Number.Decimal
import DesignLens.Number.Literal
import DesignLens.Pipeline.Cache
import DesignLens.Pipeline.Clock
import DesignLens.Pipeline.Config
import DesignLens.Pipeline.Page
import DesignLens.Pipeline.Quality
import DesignLens.Pipeline.Report
import DesignLens.Pipeline.Result
import DesignLens.Pipeline.Run
import DesignLens.Pipeline.Security
import DesignLens.Pipeline.Stages
import DesignLens.Pipeline.Structure
import DesignLens.Pipeline.Testing
import DesignLens.Pipeline.Work
import DesignLens.Presets.Lookup
import DesignLens.Presets.Shipped
import DesignLens.Processes
import DesignLens.Proofs.AdviceLookup
import DesignLens.Proofs.Attempts
import DesignLens.Proofs.DocstringParse
import DesignLens.Proofs.EnforcementEffects
import DesignLens.Proofs.FileTree
import DesignLens.Proofs.FirstSentences
import DesignLens.Proofs.InertTexts
import DesignLens.Proofs.IntroductionEffects
import DesignLens.Proofs.IntroductionFiles
import DesignLens.Proofs.IntroductionRuns
import DesignLens.Proofs.TextPieces
import DesignLens.Proofs.PathNames
import DesignLens.Proofs.PathSurveys
import DesignLens.Proofs.ProposalMerge
import DesignLens.Proofs.RankingOrder
import DesignLens.Proofs.RankingWeights
import DesignLens.Proofs.ScaffoldTexts
import DesignLens.Proofs.ShippedScaffolds
import DesignLens.Proofs.TableEntries
import DesignLens.Proofs.Texts
import DesignLens.Proposal.Advice
import DesignLens.Proposal.Suggestions
import DesignLens.Proposal.Unified
import DesignLens.Ranking.Outline
import DesignLens.Ranking.Targets
import DesignLens.Scaffold.Architectural
import DesignLens.Scaffold.Behavioural
import DesignLens.Scaffold.Creational
import DesignLens.Scaffold.Generator
import DesignLens.Scaffold.Header
import DesignLens.Scaffold.Inspection
import DesignLens.Scaffold.Introduce
import DesignLens.Scaffold.Registry
import DesignLens.Scaffold.Structural
import DesignLens.Scan.Indicators
import DesignLens.Scan.Results
import DesignLens.Setting
import DesignLens.Source.Classic
import DesignLens.Source.Fault
import DesignLens.Source.Grammar
import DesignLens.Source.Grammar.Core
import DesignLens.Source.Grammar.Expression
import DesignLens.Source.Grammar.Literal
import DesignLens.Source.Grammar.Pattern
import DesignLens.Source.Grammar.Statement
import DesignLens.Source.Legality
import DesignLens.Source.Lexer
import DesignLens.Source.Syntax
import DesignLens.Source.Token
import DesignLens.Table
import DesignLens.Text.Blank
import DesignLens.Text.Case
import DesignLens.Text.Dedent
import DesignLens.Text.Digest
import DesignLens.Text.Letters
import DesignLens.Text.Quoted
import DesignLens.Text.RangeSet
import DesignLens.Text.Search
import DesignLens.Text.Template
import DesignLens.Tools.Registry
import DesignLens.TypeHints.ClassicEditor
import DesignLens.TypeHints.Editor
import DesignLens.TypeHints.Import
import DesignLens.TypeHints.Insertion
import DesignLens.TypeHints.Tree
import DesignLens.Workspace.Content
import DesignLens.Workspace.Glob
import DesignLens.Workspace.Path
import DesignLens.Workspace.Tree
import DesignLens.World
import DesignLens.Proofs.JoinedPrograms
import DesignLens.Proofs.IntroductionCompiles
import DesignLens.Proofs.PipelineRuns
import DesignLens.Proofs.ScanOrder
import DesignLens.Proofs.RankedGenerators
import DesignLens.Proofs.EnforcementReports
import DesignLens.Proofs.AppendedText
import DesignLens.Proofs.WrapperDetectors
import DesignLens.Proofs.SurveyParts
import DesignLens.Proofs.ArchitectureSurveys
import DesignLens.Proofs.CacheFiles
import DesignLens.Proofs.CacheRuns
import DesignLens.Proofs.JsonTexts
import DesignLens.Proofs.JsonNumbers
import DesignLens.Proofs.JsonDocuments
import DesignLens.Proofs.ConfigFiles
import DesignLens.Proofs.NameForms
import DesignLens.Proofs.HitSelection
import DesignLens.Proofs.ReportedCategory
import DesignLens.Proofs.ScanOutcomes
import DesignLens.Proofs.SuggestionPlaces
import DesignLens.Proofs.IndicatorOrder
import DesignLens.Proofs.TreeWalks
import DesignLens.Proofs.LongFunctions
import DesignLens.Proofs.HeldAttributes
import DesignLens.Proofs.NamedAttributes
import DesignLens.Proofs.LintCounts
import DesignLens.Proofs.CacheKeys
import DesignLens.Proofs.MatchingBlocks
import DesignLens.Proofs.UnifiedDiffs
import DesignLens.Proofs.IntroductionDiffs
import DesignLens.Proofs.EqualTexts
import DesignLens.Proofs.AdviceSources
import DesignLens.Proofs.StageWork
import DesignLens.Proofs.SecurityGate
import DesignLens.Proofs.TestCounts
import DesignLens.Proofs.TestReports
import DesignLens.Proofs.OutlineWalks
import DesignLens.Proofs.IntroducedCategories
import DesignLens.Proofs.CatalogLookup
import DesignLens.Proofs.HintedTexts
import DesignLens.Proofs.ModuleChecks
import DesignLens.Proofs.SoundScaffolds
