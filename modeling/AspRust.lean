import AspRust.Foundation.Outcome
import AspRust.Foundation.OrderedMap
import AspRust.Foundation.KeepFirst
import AspRust.Foundation.KeepLeast
import AspRust.Foundation.Grouping
import AspRust.Foundation.Wildcard
import AspRust.Foundation.Worklist
import AspRust.Foundation.AdmissionWorklist
import AspRust.Foundation.DependencyOrder
import AspRust.Foundation.DepthFirst
import AspRust.Foundation.ColourSearch
import AspRust.Foundation.PathSearch
import AspRust.Foundation.Separated
import AspRust.Foundation.LabelledFields
import AspRust.Foundation.RelativeText
import AspRust.Foundation.Text
import AspRust.Foundation.Replacement
import AspRust.Foundation.Placeholders
import AspRust.Foundation.MaskedRewriting
import AspRust.Foundation.Words
import AspRust.Foundation.Utf8
import AspRust.Foundation.TextSlices
import AspRust.Foundation.SelfCount
import AspRust.Foundation.Json
import AspRust.Foundation.JsonPieces
import AspRust.Foundation.JsonReader
import AspRust.Foundation.Path
import AspRust.Foundation.LexicalResolution
import AspRust.Foundation.OsPath
import AspRust.Foundation.PathText
import AspRust.Foundation.WrittenPath
import AspRust.Foundation.FileTree
import AspRust.Foundation.FirstMatch
import AspRust.Foundation.LayeredLookup
import AspRust.Foundation.Lookup
import AspRust.Foundation.NearestRank
import AspRust.Foundation.SubsetMask
import AspRust.Foundation.PlainToml
import AspRust.Foundation.Script
import AspRust.Foundation.Toml
import AspRust.Foundation.TreePosition
import AspRust.Foundation.TreeWalk
import AspRust.Foundation.Program
import AspRust.Foundation.Codec
import AspRust.Provider.HttpFraming
import AspRust.Provider.StructuralSelector
import AspRust.Parser.FileResolution
import AspRust.Parser.ModuleReachability
import AspRust.Parser.ModuleTree
import AspRust.Parser.ImportResolution
import AspRust.Parser.UseTree
import AspRust.Parser.ReasoningTree
import AspRust.Parser.ImportFacts
import AspRust.Parser.TokenCompact
import AspRust.Parser.TokenLiterals
import AspRust.Parser.TokenCode
import AspRust.Parser.TokenPreservation
import AspRust.Provider.Syntax
import AspRust.Provider.ParseArtifact
import AspRust.Provider.ExactProjection
import AspRust.Provider.LineColumns
import AspRust.Provider.ItemProjection
import AspRust.Provider.BatchProjection
import AspRust.Provider.SyntaxQuery
import AspRust.Provider.CaptureRanges
import AspRust.Provider.NestedItemFacts
import AspRust.Provider.NestedVisit
import AspRust.Foundation.SelfDelimiting
import AspRust.Provider.NestedIdentity
import AspRust.Provider.ConnectionServer
import AspRust.Provider.WorkspaceSnapshot
import AspRust.Provider.ResolutionRequest
import AspRust.Provider.RuntimeFrames
import AspRust.Provider.ProviderRuns
import AspRust.Verification.Model
import AspRust.Verification.Fingerprint
import AspRust.Verification.Profile
import AspRust.Verification.TaskBuilder
import AspRust.Verification.ModuleLookup
import AspRust.Verification.ProfileGroups
import AspRust.Verification.ProfileIndex
import AspRust.Verification.ProfileAdvice
import AspRust.Verification.Planner
import AspRust.Verification.FingerprintMaterial
import AspRust.Verification.PlannedTasks
import AspRust.Verification.StabilityPicture
import AspRust.Scenario.BenchmarkDocument
import AspRust.Scenario.Contract
import AspRust.Scenario.DurationText
import AspRust.Scenario.DurationGrammar
import AspRust.Scenario.Gate
import AspRust.Scenario.Measurement
import AspRust.Scenario.RoundTrip
import AspRust.Scenario.RunnerGate
import AspRust.Verification.ContractBinding
import AspRust.Verification.PlanCoverage
import AspRust.Verification.ReportBundle
import AspRust.Verification.ReportReceipts
import AspRust.Verification.ReportWrite
import AspRust.Verification.RootCompaction
import AspRust.Verification.FormalProofPilot
import AspRust.Discovery.Config
import AspRust.Discovery.Walk
import AspRust.Discovery.Manifest
import AspRust.Discovery.PackageRoots
import AspRust.Discovery.ManifestWalk
import AspRust.Discovery.DependencyClosure
import AspRust.Discovery.GlobMatching
import AspRust.Discovery.Membership
import AspRust.Resolution.ProjectFacts
import AspRust.Resolution.ProjectResolution
import AspRust.Resolution.Accounting
import AspRust.Resolution.DependencyEdges
import AspRust.Resolution.Containment
import AspRust.Resolution.LexicalNormalization
import AspRust.Workspace.BuildDag
import AspRust.Workspace.Derivation
import AspRust.Workspace.Legality
import AspRust.Workspace.CargoMembership
import AspRust.Analysis.Report
import AspRust.Analysis.FileQuery
import AspRust.Analysis.ProjectPolicy
import AspRust.Analysis.Runner
import AspRust.Analysis.Consulted
import AspRust.Analysis.MemberScoped
import AspRust.AgentPolicy.DependencyGraph
import AspRust.Review.InvariantCatalog
import AspRust.Review.ReviewPacket
import AspRust.Review.ReceiptIsolation
import AspRust.DevGate.Digest
import AspRust.DevGate.Snapshot
import AspRust.DevGate.SnapshotWalk
import AspRust.DevGate.Coverage
import AspRust.DevGate.CacheDirectory
import AspRust.DevGate.Policy
import AspRust.DevGate.VerificationGate
import AspRust.DevGate.CacheRecord
import AspRust.DevGate.Publication
import AspRust.DevGate.Integrity
import AspRust.DevGate.DigestIndex
import AspRust.DevGate.Soundness
import AspRust.DevGate.Downstream
import AspRust.DevGate.GateHistory
import AspRust.DevGate.Transparency
import AspRust.DevGate.WorkspaceRun
import AspRust.DevGate.Isolation
import AspRust.DevGate.Interleaving
import AspRust.Scenario.ContractGate
import AspRust.Scenario.SuiteGate
import AspRust.Foundation.ScopedWalk
import AspRust.Foundation.HeldItems
import AspRust.Parser.AsyncBoundaries
import AspRust.AgentPolicy.AlgorithmShape
