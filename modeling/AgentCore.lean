import AgentCore.Adapters.HarnessDeadline
import AgentCore.Capabilities.Store
import AgentCore.CapabilityHost.Deployment
import AgentCore.CodingHarness.Drain
import AgentCore.CodingHarness.SubmissionOnce
import AgentCore.CodingHarness.TaskLife
import AgentCore.Connector.ExecuteServer
import AgentCore.Hook.Authentic
import AgentCore.Journal.ActivationHistory
import AgentCore.Journal.ControlOnce
import AgentCore.Journal.Grants
import AgentCore.Journal.LeaseTimes
import AgentCore.Journal.MigrationCrash
import AgentCore.Journal.ModelInvocation
import AgentCore.Journal.QueueFinality
import AgentCore.Journal.Reactivation
import AgentCore.Journal.ReceiptEnvelope
import AgentCore.Registry.SnapshotIdentity
import AgentCore.Runtime.AtMostOnce
import AgentCore.Runtime.ContinuationOnce
import AgentCore.Runtime.SessionRecall
import AgentCore.Runtime.ToolArguments
import AgentCore.Runtime.ToolAudit
import AgentCore.Runtime.ToolLoop
import AgentCore.Server.ApprovalExpiry
import AgentCore.Server.ApprovalGate
import AgentCore.Server.Dangling
import AgentCore.Server.RunOutcome
import AgentCore.Server.RuntimeV0Model
import AgentCore.Server.ServiceAudit
