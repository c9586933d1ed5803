import AgentCore.Domain.Platform

/-! The kernel's identifiers, statuses and messages. -/

namespace AgentCore.Domain

open Foundation

abbrev AgentId := String
abbrev SessionId := String
abbrev RunId := String
abbrev EventId := String
abbrev InvocationId := String
abbrev PrincipalId := String

structure Stamp where
  eventId : EventId
  createdAt : Timestamp

inductive OutboxDispatchStatus
  | pending
  | leased
  | dispatching
  | succeeded
  | failed
  | retryableFailed
  | unknown
  | dead
deriving DecidableEq

def OutboxDispatchStatus.asStr : OutboxDispatchStatus → String
  | pending => "pending"
  | leased => "leased"
  | dispatching => "dispatching"
  | succeeded => "succeeded"
  | failed => "failed"
  | retryableFailed => "retryable_failed"
  | unknown => "unknown"
  | dead => "dead"

inductive RunStatus
  | running
  | waitingDispatch
  | completed
  | failed
  | awaitingApproval
  | unknown
deriving DecidableEq

inductive ReceiptStatus
  | succeeded
  | failed
  | unknown
deriving DecidableEq

def ReceiptStatus.debug : ReceiptStatus → String
  | succeeded => "Succeeded"
  | failed => "Failed"
  | unknown => "Unknown"

inductive WorkerJobStatus
  | queued
  | leased
  | running
  | succeeded
  | retryableFailed
  | dead
  | failed
deriving DecidableEq

def WorkerJobStatus.asStr : WorkerJobStatus → String
  | queued => "queued"
  | leased => "leased"
  | running => "running"
  | succeeded => "succeeded"
  | retryableFailed => "retryable_failed"
  | dead => "dead"
  | failed => "failed"

/-! ## Sessions, principals and runs -/

inductive ChannelKind
  | cli
  | feishu
deriving DecidableEq

inductive SessionStatus
  | active
  | archived
deriving DecidableEq

structure Session where
  id : SessionId
  agentId : AgentId
  channel : ChannelKind
  conversationKey : String
  lastActiveAt : Timestamp
  status : SessionStatus
  version : Nat
deriving DecidableEq

structure SessionTarget where
  agentId : AgentId
  channel : ChannelKind
  conversationKey : String
deriving DecidableEq

inductive PrincipalSubject
  | localUser
  | feishuOpenId (openId : String)
deriving DecidableEq

inductive PrincipalSource
  | cli
  | feishu
deriving DecidableEq

structure CapabilityGrant where
  (operation scope : String)
deriving DecidableEq

structure RunPrincipal where
  principalId : PrincipalId
  subject : PrincipalSubject
  source : PrincipalSource
  grants : List CapabilityGrant
  requesterId : Option String
deriving DecidableEq

structure Run where
  id : RunId
  sessionId : SessionId
  agentId : AgentId
  triggerEventId : EventId
  principal : RunPrincipal
  parentRunId : Option RunId
  delegatedBy : Option PrincipalId
  status : RunStatus
  (createdAt updatedAt : Timestamp)
  registrySnapshotId : String
deriving DecidableEq

/-! ## Invocations -/

structure InvocationIntent where
  invocationId : InvocationId
  runId : RunId
  operation : String
  arguments : Json
  idempotencyKey : Option String
deriving DecidableEq

structure ApprovedInvocation where
  intent : InvocationIntent
  decisionId : String
deriving DecidableEq

structure Receipt where
  invocationId : InvocationId
  status : ReceiptStatus
  externalRef : Option String
  output : Json
  occurredAt : Timestamp

inductive AdapterError
  | timeout
  | executeFailed
  | malformedResponse
  | invalidArgument (message : String)
  | transport (message : String)

inductive DispatchErrorCategory
  | adapterTimeout
  | connectorExecuteFailed
  | adapterFailed
  | invalidApprovedInvocation
  | unsupportedOperation
  | unknownTransportError

namespace DispatchErrorCategory

def asStr : DispatchErrorCategory → String
  | adapterTimeout => "adapter_timeout"
  | connectorExecuteFailed => "connector_execute_failed"
  | adapterFailed => "adapter_failed"
  | invalidApprovedInvocation => "invalid_approved_invocation"
  | unsupportedOperation => "unsupported_operation"
  | unknownTransportError => "unknown_transport_error"

def fromError : Option AdapterError → DispatchErrorCategory
  | some .timeout => adapterTimeout
  | some .executeFailed => connectorExecuteFailed
  | some .malformedResponse => adapterFailed
  | some (.invalidArgument _) => invalidApprovedInvocation
  | some (.transport _) => unknownTransportError
  | none => unknownTransportError

end DispatchErrorCategory

structure LeasedOutboxDispatch where
  invocationId : InvocationId
  runId : RunId
  sessionId : Option SessionId
  operation : String
  arguments : Json
  (idempotencyKey decisionId : String)

end AgentCore.Domain
