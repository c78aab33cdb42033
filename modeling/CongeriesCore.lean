import CongeriesCore.AgentRuntime
import CongeriesCore.ProviderWaits
import CongeriesCore.ProviderControl
import CongeriesCore.AgentUpgrade
import CongeriesCore.AgentDocuments
import CongeriesCore.BindingDocuments
import CongeriesCore.AgentModel
import CongeriesCore.RunDocuments
import CongeriesCore.WorkflowDocuments
import CongeriesCore.ReferenceReading
import CongeriesCore.PluginManifests
import CongeriesCore.VersionOrder
import CongeriesCore.VersionRanges
import CongeriesCore.SemVerParsing
import CongeriesCore.SkillPaths
import CongeriesCore.MemoryCursors
import CongeriesCore.GrantNarrowing
import CongeriesCore.MemoryGateway
import CongeriesCore.MemoryModel
import CongeriesCore.ContextCompleteness
import CongeriesCore.ContextFirstSuccess
import CongeriesCore.UndisturbedCalls
import CongeriesCore.ContextResolver
import CongeriesCore.ToolRetries
import CongeriesCore.ToolExecution
import CongeriesCore.ToolGrants
import CongeriesCore.ToolAttempts
import CongeriesCore.ToolGateway
import CongeriesCore.TimeAddition
import CongeriesCore.GrantConstraints
import CongeriesCore.SkillLoading
import CongeriesCore.SkillGateway
import CongeriesCore.LeasedCapability
import CongeriesCore.JsonEncoding
import CongeriesCore.GatewayTraces
import CongeriesCore.EncodedReferences
import CongeriesCore.JsonReading
import CongeriesCore.ContentBlocks
import CongeriesCore.ContextMerge
import CongeriesCore.MigrationCommit
import CongeriesCore.PluginLoading
import CongeriesCore.RunEventOrder
import CongeriesCore.AsyncHandling
import CongeriesCore.EventRacing
import CongeriesCore.ApprovalExpiry
import CongeriesCore.AttemptHistory
import CongeriesCore.EvaluationCourse
import CongeriesCore.StageKeys
import CongeriesCore.AuthorizationResources
import CongeriesCore.CanonicalJson
import CongeriesCore.WorkflowIdentities
import CongeriesCore.JoinedText
import CongeriesCore.LedgerHistory
import CongeriesCore.FallbackPages
import CongeriesCore.ListingTrace
import CongeriesCore.AsyncOracle
import CongeriesCore.DependencyPermutation
import CongeriesCore.DependencyResolution
import CongeriesCore.DependencyOrder
import CongeriesCore.DependencyBindings
import CongeriesCore.DependencyResolver
import CongeriesCore.KeyedSort
import CongeriesCore.PluginVersion
import CongeriesCore.KahnSort
import CongeriesCore.CheckpointPages
import CongeriesCore.DescendingOrder
import CongeriesCore.CheckpointStoreInvariant
import CongeriesCore.ModelProposals
import CongeriesCore.ModelAnswers
import CongeriesCore.ModelRuns
import CongeriesCore.ModelStream
import CongeriesCore.ModelGateway
import CongeriesCore.ModelContracts
import CongeriesCore.ContextModel
import CongeriesCore.EvaluationTotality
import CongeriesCore.RuntimeSchema
import CongeriesCore.EvaluationHarness
import CongeriesCore.GatewayDispatch
import CongeriesCore.SinkContainment
import CongeriesCore.AsyncOutcome
import CongeriesCore.VerdictReplay
import CongeriesCore.EvaluationEvents
import CongeriesCore.EvaluationModel
import CongeriesCore.EventCreation
import CongeriesCore.WorkflowScheduler
import CongeriesCore.WorkflowGraph
import CongeriesCore.WorkflowValidation
import CongeriesCore.WorkflowModel
import CongeriesCore.TopologicalOrder
import CongeriesCore.AuditDelivery
import CongeriesCore.CoreSystem
import CongeriesCore.CapabilityRules
import CongeriesCore.CheckpointCommits
import CongeriesCore.CheckpointInvariant
import CongeriesCore.CheckpointWriters
import CongeriesCore.CheckpointSaving
import CongeriesCore.CheckpointDeleting
import CongeriesCore.CheckpointChain
import CongeriesCore.CheckpointOrphans
import CongeriesCore.PluginLifecycle
import CongeriesCore.PluginInvocation
import CongeriesCore.PluginManager
import CongeriesCore.AsyncTrace
import CongeriesCore.AuthorizedDispatch
import CongeriesCore.ScopeNarrowing
import CongeriesCore.EventConfinement
import CongeriesCore.EventRecovery
import CongeriesCore.RunLifecycle
import CongeriesCore.RunRacing
import CongeriesCore.CommitReports
import CongeriesCore.RecoveryCoordinator
import CongeriesCore.RecoveryGate
import CongeriesCore.RecoverySequence
import CongeriesCore.RecoveryRestart
import CongeriesCore.JsonDocument
import CongeriesCore.EventDocuments
import CongeriesCore.SqliteEventLedger
import CongeriesCore.LedgerEquivalence
import CongeriesCore.PluginRegistry
import CongeriesCore.RegistryHistory
import CongeriesCore.PluginSystem
import CongeriesCore.PluginJournal
import CongeriesCore.PluginParts
import CongeriesCore.PluginLocking
import CongeriesCore.PluginTriples
import CongeriesCore.PluginSteps
import CongeriesCore.PluginOperations
import CongeriesCore.PluginCoherence
import CongeriesCore.EventIdentity
import CongeriesCore.PluginEvents
import CongeriesCore.PluginAudit
import CongeriesCore.FallbackListing
import CongeriesCore.LedgerHistory
import CongeriesCore.CanonicalJson
import CongeriesCore.JoinedText
import CongeriesCore.StageKeys
import CongeriesCore.AttemptHistory
import CongeriesCore.ApprovalCoordinator
import CongeriesCore.ApprovalExpiry
import CongeriesCore.RunEventOrder
import CongeriesCore.CheckpointDocuments
import CongeriesCore.ContextFirstSuccess
import CongeriesCore.ContextCompleteness
import CongeriesCore.GrantNarrowing
import CongeriesCore.MemoryCursors
import CongeriesCore.RegexMatching
import CongeriesCore.SemVerGrammar
import CongeriesCore.SemVerParsing
import CongeriesCore.VersionRanges
import CongeriesCore.VersionOrder
import CongeriesCore.PluginManifests
import CongeriesCore.RunDocuments
import CongeriesCore.ProviderWaits
import CongeriesCore.AgentTerminalization
import CongeriesCore.EvaluationDocuments
import CongeriesCore.WorkflowOutputs
import CongeriesCore.WorkflowRuntime
import CongeriesCore.WorkflowProgress
import CongeriesCore.AsyncSimulation
import CongeriesCore.WorkflowTraces
import CongeriesCore.WorkflowSafety
import CongeriesCore.WorkflowTurns
import CongeriesCore.WorkflowTermination
import CongeriesCore.WorkflowLedger
import CongeriesCore.WorkflowCalls
import CongeriesCore.WorkflowRunnable
import CongeriesCore.WorkflowSystem
