import Matcher.Command.CandidateLimits
import Matcher.Command.DateLagReview
import Matcher.Command.DryRun
import Matcher.Command.FeeFindings
import Matcher.Command.IgnoredTransactions
import Matcher.Command.ManualItems
import Matcher.Command.ProposalGroups
import Matcher.Command.RunFailure
import Matcher.Configuration.Occurrences
import Matcher.Configuration.RuleReorder
import Matcher.Configuration.UserEdits
import Matcher.Discovery.FailureMessages
import Matcher.Discovery.RetryLimit
import Matcher.Exceptions.DisputeWriters
import Matcher.Exceptions.ExceptionWriters
import Matcher.Exceptions.GatewayCalls
import Matcher.Exceptions.Lifecycle
import Matcher.Exceptions.ResolutionOutcome
import Matcher.Fee.Tiers
import Matcher.Governance.ArchivalProgress
import Matcher.Governance.ArchivalSafety
import Matcher.Governance.AuditChain
import Matcher.Governance.DroppedRecords
import Matcher.Idempotency.Calls
import Matcher.Idempotency.RequestKey
import Matcher.Ingestion.ChunkBoundaries
import Matcher.Ingestion.ChunkSizes
import Matcher.Ingestion.JobFailure
import Matcher.Ingestion.Overlap
import Matcher.Matching.Mirror
import Matcher.Messaging.Confirmation
import Matcher.Messaging.OutboxPayload
import Matcher.Messaging.Shutdown
import Matcher.Reporting.ExportActors
import Matcher.Reporting.FormulaInjection
import Matcher.Reporting.JobCalls
