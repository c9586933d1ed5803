import Mathlib.Logic.Function.Basic

/-! The kinds of journal events and their stored names. -/

namespace AgentCore.Domain

inductive JournalEventKind
  | ingressAccepted
  | sessionReady
  | runStarted
  | contextBuilt
  | llmCompleted
  | modelInvocationStarted
  | modelInvocationCompleted
  | modelInvocationFailed
  | toolCallIssued
  | toolCallRejected
  | invocationProposed
  | invocationApproved
  | workerJobQueued
  | workerJobStarted
  | workerJobSucceeded
  | workerJobFailed
  | outboxQueued
  | outboxDispatchFailed
  | outboxDispatchUnknown
  | outboxDispatchDead
  | dispatchStarted
  | receiptReceived
  | codingSubmissionOutcomeUnknown
  | assistantReplyDelivered
  | workerJobDead
  | runCompleted
  | runFailed
  | approvalRequested
  | approvalGranted
  | approvalDenied
  | approvalExpired
  | harnessManifestRegistered
  | hookCallRecorded
  | registrySnapshotActivated
  | capabilityChangeProposed
  | capabilityChangeApproved
  | capabilityChangeRejected
  | capabilityChangeActivated
  | capabilityChangeActivationFailed
  | capabilityChangeExpired
  | deploymentIntentRecorded
  | deploymentReceiptRecorded
  | componentRegistered
  | componentControlIntentRecorded
  | componentControlReceiptRecorded
  | componentDisabled
  | componentRolledBack
  | externalOperationGranted
  | externalOperationRevoked
  | unknown
  | harnessChangeRequested
  | hcrClaimSucceeded
  | hcrClaimRejected
  | hcrRunCreated
  | hcrEvidenceRegistered
  | hcrSettlementSucceeded
  | hcrSettlementFailed
  | toolBudgetExhausted
  | toolLoopWallClockExceeded
  | toolLoopDetected
  | runBudgetResolved
  | runBudgetTerminated
  | sessionContinuationRequested
deriving DecidableEq

namespace JournalEventKind

def storageName : JournalEventKind → String
  | ingressAccepted => "IngressAccepted"
  | sessionReady => "SessionReady"
  | runStarted => "RunStarted"
  | contextBuilt => "ContextBuilt"
  | llmCompleted => "LlmCompleted"
  | modelInvocationStarted => "model.invocation.started.v0"
  | modelInvocationCompleted => "model.invocation.completed.v0"
  | modelInvocationFailed => "model.invocation.failed.v0"
  | toolCallIssued => "ToolCallIssued"
  | toolCallRejected => "ToolCallRejected"
  | invocationProposed => "InvocationProposed"
  | invocationApproved => "InvocationApproved"
  | workerJobQueued => "WorkerJobQueued"
  | workerJobStarted => "WorkerJobStarted"
  | workerJobSucceeded => "WorkerJobSucceeded"
  | workerJobFailed => "WorkerJobFailed"
  | outboxQueued => "OutboxQueued"
  | outboxDispatchFailed => "OutboxDispatchFailed"
  | outboxDispatchUnknown => "OutboxDispatchUnknown"
  | outboxDispatchDead => "OutboxDispatchDead"
  | dispatchStarted => "DispatchStarted"
  | receiptReceived => "ReceiptReceived"
  | codingSubmissionOutcomeUnknown => "CodingSubmissionOutcomeUnknown"
  | assistantReplyDelivered => "AssistantReplyDelivered"
  | workerJobDead => "WorkerJobDead"
  | runCompleted => "RunCompleted"
  | runFailed => "RunFailed"
  | approvalRequested => "ApprovalRequested"
  | approvalGranted => "ApprovalGranted"
  | approvalDenied => "ApprovalDenied"
  | approvalExpired => "ApprovalExpired"
  | harnessManifestRegistered => "HarnessManifestRegistered"
  | hookCallRecorded => "HookCallRecorded"
  | registrySnapshotActivated => "RegistrySnapshotActivated"
  | capabilityChangeProposed => "CapabilityChangeProposed"
  | capabilityChangeApproved => "CapabilityChangeApproved"
  | capabilityChangeRejected => "CapabilityChangeRejected"
  | capabilityChangeActivated => "CapabilityChangeActivated"
  | capabilityChangeActivationFailed => "CapabilityChangeActivationFailed"
  | capabilityChangeExpired => "CapabilityChangeExpired"
  | deploymentIntentRecorded => "deployment.intent.v0"
  | deploymentReceiptRecorded => "deployment.receipt.v0"
  | componentRegistered => "component.registered.v0"
  | componentControlIntentRecorded => "component.control.intent.v0"
  | componentControlReceiptRecorded => "component.control.receipt.v0"
  | componentDisabled => "component.disabled.v0"
  | componentRolledBack => "component.rolled_back.v0"
  | externalOperationGranted => "ExternalOperationGranted"
  | externalOperationRevoked => "ExternalOperationRevoked"
  | unknown => "Unknown"
  | harnessChangeRequested => "HarnessChangeRequested"
  | hcrClaimSucceeded => "HcrClaimSucceeded"
  | hcrClaimRejected => "HcrClaimRejected"
  | hcrRunCreated => "HcrRunCreated"
  | hcrEvidenceRegistered => "HcrEvidenceRegistered"
  | hcrSettlementSucceeded => "HcrSettlementSucceeded"
  | hcrSettlementFailed => "HcrSettlementFailed"
  | toolBudgetExhausted => "ToolBudgetExhausted"
  | toolLoopWallClockExceeded => "ToolLoopWallClockExceeded"
  | toolLoopDetected => "ToolLoopDetected"
  | runBudgetResolved => "RunBudgetResolved"
  | runBudgetTerminated => "RunBudgetTerminated"
  | sessionContinuationRequested => "SessionContinuationRequested"

end JournalEventKind

open JournalEventKind in
def parseKind (value : String) : JournalEventKind :=
  match value with
  | "IngressAccepted" => ingressAccepted
  | "SessionReady" => sessionReady
  | "RunStarted" => runStarted
  | "ContextBuilt" => contextBuilt
  | "LlmCompleted" => llmCompleted
  | "model.invocation.started.v0" => modelInvocationStarted
  | "model.invocation.completed.v0" => modelInvocationCompleted
  | "model.invocation.failed.v0" => modelInvocationFailed
  | "ToolCallIssued" => toolCallIssued
  | "ToolCallRejected" => toolCallRejected
  | "InvocationProposed" => invocationProposed
  | "InvocationApproved" => invocationApproved
  | "WorkerJobQueued" => workerJobQueued
  | "WorkerJobStarted" => workerJobStarted
  | "WorkerJobSucceeded" => workerJobSucceeded
  | "WorkerJobFailed" => workerJobFailed
  | "OutboxQueued" => outboxQueued
  | "OutboxDispatchFailed" => outboxDispatchFailed
  | "OutboxDispatchUnknown" => outboxDispatchUnknown
  | "OutboxDispatchDead" => outboxDispatchDead
  | "DispatchStarted" => dispatchStarted
  | "ReceiptReceived" => receiptReceived
  | "CodingSubmissionOutcomeUnknown" => codingSubmissionOutcomeUnknown
  | "AssistantReplyDelivered" => assistantReplyDelivered
  | "WorkerJobDead" => workerJobDead
  | "RunCompleted" => runCompleted
  | "RunFailed" => runFailed
  | "ApprovalRequested" => approvalRequested
  | "ApprovalGranted" => approvalGranted
  | "ApprovalDenied" => approvalDenied
  | "ApprovalExpired" => approvalExpired
  | "HarnessManifestRegistered" => harnessManifestRegistered
  | "HookCallRecorded" => hookCallRecorded
  | "RegistrySnapshotActivated" => registrySnapshotActivated
  | "CapabilityChangeProposed" => capabilityChangeProposed
  | "CapabilityChangeApproved" => capabilityChangeApproved
  | "CapabilityChangeActivated" => capabilityChangeActivated
  | "CapabilityChangeActivationFailed" => capabilityChangeActivationFailed
  | "CapabilityChangeRejected" => capabilityChangeRejected
  | "CapabilityChangeExpired" => capabilityChangeExpired
  | "deployment.intent.v0" => deploymentIntentRecorded
  | "deployment.receipt.v0" => deploymentReceiptRecorded
  | "component.registered.v0" => componentRegistered
  | "component.control.intent.v0" => componentControlIntentRecorded
  | "component.control.receipt.v0" => componentControlReceiptRecorded
  | "component.disabled.v0" => componentDisabled
  | "component.rolled_back.v0" => componentRolledBack
  | "ToolBudgetExhausted" => toolBudgetExhausted
  | "ToolLoopWallClockExceeded" => toolLoopWallClockExceeded
  | "ToolLoopDetected" => toolLoopDetected
  | "RunBudgetResolved" => runBudgetResolved
  | "RunBudgetTerminated" => runBudgetTerminated
  | "ExternalOperationGranted" => externalOperationGranted
  | "ExternalOperationRevoked" => externalOperationRevoked
  | "HarnessChangeRequested" => harnessChangeRequested
  | "HcrClaimSucceeded" => hcrClaimSucceeded
  | "HcrClaimRejected" => hcrClaimRejected
  | "HcrRunCreated" => hcrRunCreated
  | "HcrEvidenceRegistered" => hcrEvidenceRegistered
  | "HcrSettlementSucceeded" => hcrSettlementSucceeded
  | "HcrSettlementFailed" => hcrSettlementFailed
  | "SessionContinuationRequested" => sessionContinuationRequested
  | _ => unknown

lemma parseKind_storageName (k : JournalEventKind) : parseKind k.storageName = k := by
  -- all kinds in one evaluation
  have hall : ∀ n < 63, parseKind (JournalEventKind.ofNat n).storageName = .ofNat n := by
    decide +kernel
  have hk : k.ctorIdx < 63 := by cases k <;> decide
  simpa only [JournalEventKind.ofNat_ctorIdx] using hall k.ctorIdx hk

lemma storageName_injective : Function.Injective JournalEventKind.storageName :=
  Function.LeftInverse.injective parseKind_storageName

end AgentCore.Domain
